import LedgerClient.Crypto.Identity
import LedgerClient.Document.Basic

/-!
# Descriptions of people

How a document says who acts: an identity with its key, and the nonce that its next request
will have. An operation of the identity can be told to fail, as if its key were out of
reach.
-/

namespace LedgerClient

/-- An identity, the nonce of its next request, and which of its operations fail. -/
structure Person where
  identity : KeyIdentity
  nonce : Bytes
  fail : String

namespace Person

/-- Acts as the person. -/
def signer (p : Person) : Signer :=
  let s := p.identity.signer p.nonce
  match p.fail with
  | "serialize" =>
    { s with serialize := .error .invalidPrivateKey, transactionId := .error .invalidPrivateKey }
  | "sign" => { s with sign := fun _ => .error .invalidPrivateKey }
  | _ => s

/-- Reads a person. -/
def read? (d : Document) : Option (Except CryptoError Person) := do
  let mspid : String ← d.get? "mspid"
  let secret : Bytes ← d.get? "secret"
  let nonce : Bytes ← d.get? "nonce"
  let cert : Option Bytes ← d.get? "tls_cert"
  let fail : String ← d.get? "fail"
  return do
    let identity ← KeyIdentity.ofSecret mspid secret
    return ⟨(cert.map identity.withTlsCert).getD identity, nonce, fail⟩

/-- Somebody to act as when nobody is described. -/
def usual : Except CryptoError Person := do
  let identity ← KeyIdentity.ofSecret "Org1MSP" (List.replicate 32 7)
  return ⟨identity, List.replicate TransactionId.nonceLength 1, ""⟩

end Person

end LedgerClient
