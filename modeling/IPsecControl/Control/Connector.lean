import IPsecControl.Control.Rpc
import IPsecControl.Error.Basic
import IPsecControl.Log.Line

/-! Access to a control plane. A connector tells whether a client can be opened and
how every call on it is answered: after which delay, with which outcome, and what is
logged when the call is made and when it ends. -/
namespace IPsecControl

structure Reply (α : Type) where
  delay : Duration := .zero
  outcome : Result α
  /-- Logged when the call is made. -/
  notes : List Log.Line := []
  /-- Logged when the answer arrives. -/
  remarks : List Log.Line := []

structure Connector where
  /-- Logged while a client is opened. -/
  openNotes : List Log.Line := []
  /-- Whether a client can be opened. -/
  opening : Result Unit := .ok ()
  /-- Logged when a client is closed. -/
  closeNotes : List Log.Line := []
  /-- The answer to a call after the calls made so far. -/
  answer : List Call → (r : Rpc) → r.Request → Reply r.Response

end IPsecControl
