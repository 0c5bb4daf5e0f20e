import LedgerClient.Crypto.Signature
import LedgerClient.Message.Wire

/-!
# Identities and transaction ids

Who signs requests. A client's own identity can serialize itself, sign, and derive the id
of a transaction from a nonce; the identity of someone else, read from its serialized
form, can only verify. A transaction id is the hash of the nonce followed by the serialized
creator.

## Main results

* `TransactionId.derive`: the rule for transaction ids.
-/

namespace LedgerClient

/-- A transaction's nonce and the id derived from it. -/
structure TransactionId where
  nonce : Bytes
  txId : String
  deriving DecidableEq, Repr

/-- The number of bytes of a nonce. -/
def TransactionId.nonceLength : Nat := 24

/-- The id of a nonce and a creator: the hexadecimal hash of the two, one behind the other. -/
def TransactionId.derive (nonce creator : Bytes) : TransactionId :=
  ⟨nonce, Hex.encode (Sha256.digest (nonce ++ creator))⟩

/-- What a client needs to act as somebody: a name for the organization, a serialized form,
signatures, the hash of the TLS certificate if there is one, and transaction ids. Every
operation may fail, as a key kept elsewhere may be out of reach. -/
structure Signer where
  mspid : String
  serialize : Except CryptoError Bytes
  sign : Bytes → Except CryptoError Bytes
  certHash : Option Bytes
  /-- The transaction id for the next request, and its nonce. -/
  transactionId : Except CryptoError TransactionId

/-- An identity whose key the client holds. -/
structure KeyIdentity where
  mspid : String
  key : SigningKey
  certHash : Option Bytes := none

namespace KeyIdentity

/-- The identity of a key; it needs the name of an MSP. -/
def ofKey (mspid : String) (key : SigningKey) : Except CryptoError KeyIdentity :=
  if mspid.isEmpty then .error .missingMspId else .ok { mspid, key }

/-- The identity of a secret of 32 bytes; a bad secret is reported before a missing MSP. -/
def ofSecret (mspid : String) (secret : Bytes) : Except CryptoError KeyIdentity := do
  ofKey mspid (← SigningKey.ofBytes secret)

/-- The identity with a client TLS certificate, of which only the hash is kept. -/
def withTlsCert (i : KeyIdentity) (cert : Bytes) : KeyIdentity :=
  { i with certHash := some (Sha256.digest cert) }

/-- The serialized form: the MSP and the public key. -/
def serialize (i : KeyIdentity) : Bytes :=
  Wire.encode ({ mspid := i.mspid, idBytes := i.key.publicKey.bytes } : SerializedIdentity)

/-- The signer for the identity that takes its nonces from a given source. -/
def signer (i : KeyIdentity) (nonce : Bytes) : Signer where
  mspid := i.mspid
  serialize := .ok i.serialize
  sign message := .ok (i.key.sign message)
  certHash := i.certHash
  transactionId := .ok (.derive nonce i.serialize)

end KeyIdentity

/-- Somebody else's identity: the MSP and the public key. -/
structure Identity where
  mspid : String
  key : PublicKey

namespace Identity

/-- Reads a serialized identity. -/
def deserialize (bytes : Bytes) : Except CryptoError Identity :=
  match Wire.decode (α := SerializedIdentity) bytes with
  | .error e => .error (.invalidIdentity e.message)
  | .ok i =>
    if i.mspid.isEmpty then .error .missingMspId
    else (PublicKey.ofBytes i.idBytes).map (⟨i.mspid, ·⟩)

/-- Checks a signature by the identity. -/
def verify (i : Identity) (message signature : Bytes) : Except CryptoError Unit :=
  i.key.verify message signature

end Identity

end LedgerClient
