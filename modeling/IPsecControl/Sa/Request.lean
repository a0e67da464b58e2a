import IPsecControl.Sa.Identifier
import IPsecControl.Sa.Params

/-! Requests for static security associations. Everything is validated and
looked up before a request exists. -/
namespace IPsecControl.Sa
open Message

def addRequest (id : Identifier) (params : Params) : Result AddSaRequest := do
  id.validate
  let data ← params.message
  return { saId := some id.message, saData := some data }

/-- Deletes the association of an identity; nothing else goes along. -/
def deleteRequest (id : Identifier) : Result DeleteSaRequest := do
  id.validate
  return { saId := some id.message }

end IPsecControl.Sa
