import LedgerClient.Request.ActionError
import LedgerClient.Request.Call

/-!
# Building and signing

Every request that is signed goes through the same states: nothing, built, signed. Building
anew drops the signature, so a signature always belongs to the payload beside it. Signing
can be repeated, or done elsewhere and handed in. Every call is there in two forms: `signing` is
the call on the request that it finds, `sign` gives the request after a call that succeeds.

## Main results

* `SignState.envelope_setPayload`: a payload that was just built has no envelope.
* `SignState.envelope_sign`: after signing, the envelope holds the payload and the signer's
  signature over it.
-/

namespace LedgerClient

/-- How far a request has come. -/
structure SignState where
  payload : Option Bytes := none
  signature : Option Bytes := none
  deriving DecidableEq, Repr, Inhabited

namespace SignState

/-- The state of a request whose payload was just built. -/
def setPayload (_ : SignState) (payload : Bytes) : SignState :=
  { payload := some payload, signature := none }

/-- Whether there is a payload. -/
def isBuilt (s : SignState) : Bool := s.payload.isSome

/-- Whether there is a signature. -/
def isSigned (s : SignState) : Bool := s.signature.isSome

/-- The payload, or the error that the named request has not been built. -/
def payloadBytes (action : String) (s : SignState) : Except ActionError Bytes :=
  match s.payload with
  | some payload => .ok payload
  | none => .error (.notBuilt action)

/-- Signs the payload. -/
def signing (action : String) (signer : Signer) : RequestM ActionError SignState Unit := do
  let payload ← .lift ((← get).payloadBytes action)
  let signature ← .lift ((signer.sign payload).mapError .crypto)
  modify fun s => { s with signature := some signature }

/-- Attaches a signature made elsewhere; it must not be empty. -/
def attaching (action : String) (signature : Bytes) : RequestM ActionError SignState Unit := do
  if signature.isEmpty then throw (.missingParameter "signature")
  if !(← get).isBuilt then throw (.notBuilt action)
  modify fun s => { s with signature := some signature }

/-- The state after signing. -/
def sign (action : String) (signer : Signer) (s : SignState) : Except ActionError SignState :=
  (signing action signer).after s

/-- The state after a signature made elsewhere was attached. -/
def signWith (action : String) (signature : Bytes) (s : SignState) :
    Except ActionError SignState :=
  (attaching action signature).after s

/-- Payload and signature together. -/
def envelope (action : String) (s : SignState) : Except ActionError Envelope :=
  match s.payload, s.signature with
  | none, _ => .error (.notBuilt action)
  | some _, none => .error (.notSigned action)
  | some payload, some signature => .ok { payload, signature }

/-- A payload that was just built has no envelope. -/
theorem envelope_setPayload (action : String) (s : SignState) (payload : Bytes) :
    (s.setPayload payload).envelope action = .error (.notSigned action) := rfl

/-- What signing comes to, and the state that it leaves behind. -/
theorem perform_signing (action : String) (signer : Signer) (s : SignState) :
    (signing action signer).perform s =
      match s.payload with
      | none => (.error (.notBuilt action), s)
      | some payload =>
        match signer.sign payload with
        | .error e => (.error (.crypto e), s)
        | .ok signature => (.ok (), { s with signature := some signature }) := by
  obtain ⟨payload, signature⟩ := s
  cases payload with
  | none => rfl
  | some payload =>
    simp only [signing, payloadBytes, RequestM.perform_bind, RequestM.perform_get,
      RequestM.perform_lift]
    cases signer.sign payload <;> rfl

/-- What attaching a signature comes to, and the state that it leaves behind. -/
theorem perform_attaching (action : String) (signature : Bytes) (s : SignState) :
    (attaching action signature).perform s =
      if signature.isEmpty then (.error (.missingParameter "signature"), s)
      else if !s.isBuilt then (.error (.notBuilt action), s)
      else (.ok (), { s with signature := some signature }) := by
  rw [attaching]
  cases signature <;> cases hbuilt : s.isBuilt <;> simp [hbuilt]

/-- After signing, the envelope holds the payload and the signer's signature over it. -/
theorem envelope_sign {action : String} {signer : Signer} {s s' : SignState}
    (h : s.sign action signer = .ok s') :
    ∃ payload signature, s.payload = some payload ∧ signer.sign payload = .ok signature ∧
      s'.envelope action = .ok { payload, signature } := by
  obtain ⟨_, h⟩ := RequestM.after_eq_ok_iff.mp h
  rw [perform_signing] at h
  split at h
  · cases h
  · next payload hpayload =>
    split at h
    · cases h
    · next signature hsignature =>
      cases h
      exact ⟨payload, signature, hpayload, hsignature, by rw [envelope, hpayload]⟩

end SignState

end LedgerClient
