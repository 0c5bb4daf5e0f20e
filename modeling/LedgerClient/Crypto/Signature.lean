import LedgerClient.Crypto.Curve

/-!
# Keys and signatures

Signatures over SHA-256 digests with keys on secp256k1. The nonce of a signature is
derived from key and digest, so signing is a function. Of the two values `s` and `n - s`
that verify, the smaller one is signed and only it is accepted.
-/

namespace LedgerClient

/-- Why a key, a signature or an identity is refused. -/
inductive CryptoError where
  | invalidKeyLength (expected actual : Nat)
  | verificationFailed
  | invalidPublicKey
  | invalidPrivateKey
  | invalidSignature
  | invalidIdentity (reason : String)
  | missingMspId
  deriving DecidableEq, Repr

/-- The wording of an error. -/
def CryptoError.message : CryptoError → String
  | .invalidKeyLength expected actual =>
    s!"Invalid key length: expected {expected}, got {actual}"
  | .verificationFailed => "Signature verification failed"
  | .invalidPublicKey => "Invalid public key"
  | .invalidPrivateKey => "Invalid private key"
  | .invalidSignature => "Invalid signature"
  | .invalidIdentity reason => s!"Invalid identity: {reason}"
  | .missingMspId => "Missing mspid parameter"

/-- The number whose big-endian digits the bytes are. -/
def Bytes.toNatHigh (bytes : Bytes) : Nat :=
  bytes.foldl (fun acc b => 256 * acc + b.toNat) 0

/-- A key that signs: a number between zero and the group order. -/
structure SigningKey where
  secret : Nat
  secret_pos : 0 < secret
  secret_lt : secret < Curve.n

/-- A key that verifies, in its 33 byte form, and the point it stands for. -/
structure PublicKey where
  bytes : Bytes
  point : Curve.Point

namespace PublicKey

/-- The number of bytes of a key. -/
def size : Nat := 33

/-- The point of a 33 byte form: the first byte gives the parity of the second coordinate,
where five stands for an even one too, and the other bytes are the first coordinate. -/
def point? (bytes : Bytes) : Option Curve.Point :=
  match bytes with
  | tag :: x =>
    if tag = 2 ∨ tag = 5 then Curve.Point.lift? (Bytes.toNatHigh x) false
    else if tag = 3 then Curve.Point.lift? (Bytes.toNatHigh x) true
    else none
  | [] => none

/-- The key of a 33 byte form. -/
def ofBytes (bytes : Bytes) : Except CryptoError PublicKey :=
  if bytes.length ≠ size then .error (.invalidKeyLength size bytes.length)
  else
    match point? bytes with
    | some point => .ok ⟨bytes, point⟩
    | none => .error .invalidPublicKey

end PublicKey

namespace SigningKey

/-- The key of 32 bytes that spell a number between zero and the group order. -/
def ofBytes (bytes : Bytes) : Except CryptoError SigningKey :=
  let k := Bytes.toNatHigh bytes
  if h : 0 < k ∧ k < Curve.n then .ok ⟨k, h.1, h.2⟩ else .error .invalidPrivateKey

/-- The key as 32 bytes. -/
def toBytes (key : SigningKey) : Bytes :=
  Sha256.writeHigh 32 key.secret

/-- The public key that belongs to a signing key. -/
def publicKey (key : SigningKey) : PublicKey :=
  let point := Curve.Point.generator.scale key.secret
  let (x, y) := point.affine?.getD (0, 0)
  ⟨(if y % 2 = 0 then 2 else 3) :: Sha256.writeHigh 32 x, point⟩

/-- The next candidate of the nonce generator from its key and value, as long as the
candidate is no number between zero and the group order. -/
def nonceFrom : (attempts : Nat) → (key value : Bytes) → Nat
  | 0, _, _ => 1
  | attempts + 1, key, value =>
    let value := Sha256.hmac key value
    let k := Bytes.toNatHigh value
    if 0 < k ∧ k < Curve.n then k
    else
      let key := Sha256.hmac key (value ++ [0])
      nonceFrom attempts key (Sha256.hmac key value)

/-- The nonce for a digest, from the deterministic generator seeded with key and digest. -/
def nonce (key : SigningKey) (digest : Bytes) : Nat :=
  let seed := key.toBytes ++ digest
  let value := List.replicate 32 1
  let k := Sha256.hmac (List.replicate 32 0) (value ++ 0 :: seed)
  let value := Sha256.hmac k value
  let k := Sha256.hmac k (value ++ 1 :: seed)
  nonceFrom 64 k (Sha256.hmac k value)

/-- The signature over a message: the two numbers `r` and `s`, 32 bytes each, with the
smaller of the two possible values for `s`. -/
def sign (key : SigningKey) (message : Bytes) : Bytes :=
  let digest := Sha256.digest message
  let z := Bytes.toNatHigh digest
  let k := key.nonce digest
  let (x, _) := (Curve.Point.generator.scale k).affine?.getD (0, 0)
  let r := x % Curve.n
  let s := Curve.invMod Curve.n k * ((z + r * key.secret) % Curve.n) % Curve.n
  let s := if 2 * s > Curve.n then Curve.n - s else s
  Sha256.writeHigh 32 r ++ Sha256.writeHigh 32 s

end SigningKey

/-- Checks a signature over a message: 64 bytes that hold two numbers between zero and the
group order, of which the second is at most half the order, and which satisfy the
equation of the scheme. -/
def PublicKey.verify (key : PublicKey) (message signature : Bytes) : Except CryptoError Unit :=
  let r := Bytes.toNatHigh (signature.take 32)
  let s := Bytes.toNatHigh (signature.drop 32)
  if signature.length ≠ 64 ∨ r = 0 ∨ Curve.n ≤ r ∨ s = 0 ∨ Curve.n ≤ s then
    .error .invalidSignature
  else if 2 * s > Curve.n then .error .verificationFailed
  else
    let z := Bytes.toNatHigh (Sha256.digest message)
    let w := Curve.invMod Curve.n s
    let u1 := z * w % Curve.n
    let u2 := r * w % Curve.n
    let sum := (Curve.Point.generator.scale u1).add (key.point.scale u2)
    match sum.affine? with
    | some (x, _) => if x % Curve.n = r then .ok () else .error .verificationFailed
    | none => .error .verificationFailed

end LedgerClient
