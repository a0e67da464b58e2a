import IPsecControl.Message.Code
import IPsecControl.Message.StaticSa
import IPsecControl.Message.Connection

/-! The meanings of the codes in messages. A code without a meaning reads as the
first member of its enumeration, and is left out of a list. -/
namespace IPsecControl.Message

def SaId.protocol (m : SaId) : Protocol := Enumeration.ofCode m.proto

def SaData.encapsulation (m : SaData) : Mode := Enumeration.ofCode m.mode
def SaData.cipher (m : SaData) : Cipher := Enumeration.ofCode m.encAlg
def SaData.integrity (m : SaData) : Integrity := Enumeration.ofCode m.intAlg

def LocalAuth.method (m : LocalAuth) : AuthMethod := Enumeration.ofCode m.auth
def RemoteAuth.method (m : RemoteAuth) : AuthMethod := Enumeration.ofCode m.auth

def Proposals.ciphers (m : Proposals) : List Cipher := Enumeration.known m.cryptoAlg
def Proposals.integrities (m : Proposals) : List Integrity := Enumeration.known m.integAlg
def Proposals.groups (m : Proposals) : List DhGroup := Enumeration.known m.dhgroups

end IPsecControl.Message
