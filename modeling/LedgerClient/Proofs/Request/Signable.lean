import LedgerClient.Proofs.Request.Atomic
import Mathlib.Data.List.Induction

/-!
# Signatures belong to payloads

A request is built and signed by calls, any of which may fail, and each of which leaves a request
behind, whether it fails or not. It is followed through a list of calls: at any time it has not
been built, or it is as its last successful build left it, or it is so but for the signature that
was attached last since. So whenever there is a signed envelope, its payload is that of the last
successful build, and its signature was made for this payload. The invariant is carried by calls
that store all or nothing: only these can be left out of the account when they fail.

## Main results

* `Signable.stage_run`: where a request is after a list of calls.
* `Signable.envelope_run_iff`: when there is a signed envelope, and where it comes from.
* `Signable.eq_of_attempt_eq_error`: a call that fails leaves the request as it found it.
-/

namespace LedgerClient

open RequestM

/-! ### Requests that are built and signed -/

/-- A kind of request that is built and signed: `ρ` are the requests with all that is stored
with them, `ω` what can be wished for in building one, `ε` the errors. -/
structure Signable (ρ ω ε : Type) where
  /-- The name of the request in errors. -/
  action : String
  /-- How the errors of signing are reported. -/
  error : ActionError → ε
  state : ρ → SignState
  withState : SignState → ρ → ρ
  /-- The bytes that building makes. -/
  bytes : Signer → ω → ρ → Except ε Bytes
  build : Signer → ω → RequestM ε ρ Bytes
  sign : Signer → RequestM ε ρ Unit
  signWith : Bytes → RequestM ε ρ Unit
  envelope : ρ → Except ε Envelope
  state_withState : ∀ s r, state (withState s r) = s
  withState_state : ∀ r, withState (state r) r = r
  withState_withState : ∀ s s' r, withState s' (withState s r) = withState s' r
  of_build : ∀ {signer wish r payload r'}, (build signer wish).perform r = (.ok payload, r') →
    bytes signer wish r = .ok payload ∧
      state r' = { payload := some payload, signature := none }
  atomic_build : ∀ signer wish, Atomic (build signer wish)
  sign_eq : ∀ signer,
    sign signer =
      onPart state withState (EStateM.adaptExcept error (SignState.signing action signer))
  signWith_eq : ∀ signature,
    signWith signature = onPart state withState
      (EStateM.adaptExcept error (SignState.attaching action signature))
  envelope_eq : ∀ r, envelope r = ((state r).envelope action).mapError error

/-- What is done with a request. -/
inductive SignCall (ω : Type) where
  | build (signer : Signer) (wish : ω)
  | sign (signer : Signer)
  | signWith (signature : Bytes)

namespace SignCall

variable {ω : Type}

/-- Whether a call builds the request. -/
def isBuild : SignCall ω → Bool
  | build _ _ => true
  | sign _ | signWith _ => false

/-- What a call attaches to a payload: a signer the signature that it makes over it, and a
signature made elsewhere itself, if it is not empty. -/
def Gives (payload signature : Bytes) : SignCall ω → Prop
  | build _ _ => False
  | sign signer => signer.sign payload = .ok signature
  | signWith given => given = signature ∧ given ≠ []

/-- Only a call that does not build attaches a signature. -/
theorem Gives.isBuild_eq {c : SignCall ω} {payload signature : Bytes}
    (h : c.Gives payload signature) : c.isBuild = false := by
  cases c with
  | build => exact h.elim
  | sign | signWith => rfl

/-- A call attaches one signature only. -/
theorem Gives.eq {c : SignCall ω} {payload signature signature' : Bytes}
    (h : c.Gives payload signature) (h' : c.Gives payload signature') :
    signature = signature' := by
  cases c with
  | build => exact h.elim
  | sign signer => exact Except.ok.inj (h.symm.trans h')
  | signWith given => exact h.1.symm.trans h'.1

end SignCall

namespace Signable

variable {ρ ω ε : Type} (S : Signable ρ ω ε)

/-- What a call comes to, and the request that it leaves behind. A build answers with the payload
that it has built. -/
def attempt : SignCall ω → ρ → Except ε (Option Bytes) × ρ
  | .build signer wish, r => perform (some <$> S.build signer wish) r
  | .sign signer, r => perform ((fun _ => none) <$> S.sign signer) r
  | .signWith signature, r => perform ((fun _ => none) <$> S.signWith signature) r

/-- The request that a call leaves behind. -/
def after (r : ρ) (c : SignCall ω) : ρ := (S.attempt c r).2

/-- The request after a list of calls. -/
def run (calls : List (SignCall ω)) (r : ρ) : ρ := calls.foldl S.after r

/-- The request with a signature attached. -/
def withSignature (signature : Bytes) (r : ρ) : ρ :=
  S.withState { S.state r with signature := some signature } r

/-- A call fails. -/
def Fails (c : SignCall ω) (r : ρ) : Prop := ∃ e, (S.attempt c r).1 = .error e

/-- All of some calls fail. -/
def AllFail (calls : List (SignCall ω)) (r : ρ) : Prop := ∀ c ∈ calls, S.Fails c r

/-- Some calls lead from one request to another, and none of them builds it anew. -/
inductive Unbuilding : List (SignCall ω) → ρ → ρ → Prop
  | nil (r : ρ) : Unbuilding [] r r
  | cons {c : SignCall ω} {rest : List (SignCall ω)} {r r' : ρ}
      (hc : c.isBuild = false ∨ S.Fails c r) (hrest : Unbuilding rest (S.after r c) r') :
      Unbuilding (c :: rest) r r'

/-- Among some calls on a request `r`, the last build that succeeded gave the request `built` with
the payload of an envelope. Since then its signature was attached, and no other one after it. -/
inductive SignedBy (r : ρ) : List (SignCall ω) → ρ → Envelope → Prop
  | intro {before since rest : List (SignCall ω)} {signer : Signer} {wish : ω}
      {attach : SignCall ω} {built r₁ r₂ : ρ} {e : Envelope}
      (hbuild : (S.build signer wish).perform (S.run before r) = (.ok e.payload, built))
      (hbytes : S.bytes signer wish (S.run before r) = .ok e.payload)
      (hsince : S.Unbuilding since built r₁)
      (hattach : S.attempt attach r₁ = (.ok none, r₂))
      (hgives : attach.Gives e.payload e.signature)
      (hrest : S.AllFail rest r₂) :
      SignedBy r (before ++ .build signer wish :: (since ++ attach :: rest)) built e

/-- Where a request is after some calls. -/
inductive Stage (r : ρ) : List (SignCall ω) → ρ → Prop
  | unbuilt {calls : List (SignCall ω)} (h : S.AllFail calls r) : Stage r calls r
  | built {before since : List (SignCall ω)} {signer : Signer} {wish : ω} {payload : Bytes}
      {built : ρ} (hbuild : (S.build signer wish).perform (S.run before r) = (.ok payload, built))
      (hsince : S.AllFail since built) :
      Stage r (before ++ .build signer wish :: since) built
  | signed {calls : List (SignCall ω)} {built : ρ} {e : Envelope} (h : S.SignedBy r calls built e) :
      Stage r calls (S.withSignature e.signature built)

variable {S} {r r' : ρ} {c : SignCall ω} {calls : List (SignCall ω)}

/-! ### Single calls -/

/-- Signing stores all or nothing, since signing the state of a request does. -/
theorem atomic_sign (signer : Signer) : Atomic (S.sign signer) := by
  rw [S.sign_eq]
  exact (SignState.atomic_signing S.action signer).adaptExcept.onPart S.withState_state

/-- Attaching a signature stores it or nothing. -/
theorem atomic_signWith (signature : Bytes) : Atomic (S.signWith signature) := by
  rw [S.signWith_eq]
  exact (SignState.atomic_attaching S.action signature).adaptExcept.onPart S.withState_state

/-- A call that fails leaves the request as it found it. -/
theorem eq_of_attempt_eq_error {e : ε} (h : S.attempt c r = (.error e, r')) : r' = r := by
  cases c with
  | build signer wish => exact (S.atomic_build signer wish).map r e r' h
  | sign signer => exact (atomic_sign signer).map r e r' h
  | signWith signature => exact (atomic_signWith signature).map r e r' h

theorem Fails.after_eq (h : S.Fails c r) : S.after r c = r := by
  obtain ⟨e, he⟩ := h
  exact eq_of_attempt_eq_error (e := e) (Prod.ext he rfl)

theorem after_eq {outcome : Except ε (Option Bytes)} (h : S.attempt c r = (outcome, r')) :
    S.after r c = r' :=
  congrArg Prod.snd h

/-- A build that succeeds answers with the payload. -/
theorem attempt_build_eq {signer : Signer} {wish : ω} {payload : Bytes}
    (h : (S.build signer wish).perform r = (.ok payload, r')) :
    S.attempt (.build signer wish) r = (.ok (some payload), r') := by
  rw [attempt, perform_map, h]
  rfl

/-- Signing attaches the signer's signature over the payload, and keeps all else. -/
theorem perform_sign_eq_ok_iff {signer : Signer} :
    (S.sign signer).perform r = (.ok (), r') ↔
      ∃ payload signature, (S.state r).payload = some payload ∧
        signer.sign payload = .ok signature ∧
        r' = S.withState { payload := some payload, signature := some signature } r := by
  rw [S.sign_eq, perform_onPart_eq_iff]
  simp only [perform_adaptExcept_eq_ok_iff, SignState.perform_signing_eq_ok_iff]
  constructor
  · rintro ⟨_, ⟨payload, signature, hpayload, hsignature, rfl⟩, rfl⟩
    exact ⟨payload, signature, hpayload, hsignature, rfl⟩
  · rintro ⟨payload, signature, hpayload, hsignature, rfl⟩
    exact ⟨_, ⟨payload, signature, hpayload, hsignature, rfl⟩, rfl⟩

/-- A signature made elsewhere is attached if it is not empty and there is a payload, and all
else is kept. -/
theorem perform_signWith_eq_ok_iff {signature : Bytes} :
    (S.signWith signature).perform r = (.ok (), r') ↔
      signature ≠ [] ∧ ∃ payload, (S.state r).payload = some payload ∧
        r' = S.withState { payload := some payload, signature := some signature } r := by
  rw [S.signWith_eq, perform_onPart_eq_iff]
  simp only [perform_adaptExcept_eq_ok_iff, SignState.perform_attaching_eq_ok_iff]
  constructor
  · rintro ⟨_, ⟨hne, payload, hpayload, rfl⟩, rfl⟩
    exact ⟨hne, payload, hpayload, rfl⟩
  · rintro ⟨hne, payload, hpayload, rfl⟩
    exact ⟨_, ⟨hne, payload, hpayload, rfl⟩, rfl⟩

/-- A call that succeeds without building attaches what it gives. -/
theorem attempt_attaches {answer : Option Bytes} (hc : c.isBuild = false)
    (h : S.attempt c r = (.ok answer, r')) :
    answer = none ∧ ∃ payload signature, (S.state r).payload = some payload ∧
      c.Gives payload signature ∧
      r' = S.withState { payload := some payload, signature := some signature } r := by
  cases c with
  | build => cases hc
  | sign signer =>
      obtain ⟨⟨⟩, hsign, rfl⟩ := perform_map_eq_ok_iff.mp h
      exact ⟨rfl, perform_sign_eq_ok_iff.mp hsign⟩
  | signWith given =>
      obtain ⟨⟨⟩, hattach, rfl⟩ := perform_map_eq_ok_iff.mp h
      obtain ⟨hne, payload, hpayload, rfl⟩ := perform_signWith_eq_ok_iff.mp hattach
      exact ⟨rfl, payload, given, hpayload, ⟨rfl, hne⟩, rfl⟩

/-- When there is an envelope. -/
theorem envelope_eq_ok_iff {e : Envelope} : S.envelope r = .ok e ↔
    (S.state r).payload = some e.payload ∧ (S.state r).signature = some e.signature := by
  rw [S.envelope_eq, mapError_eq_ok_iff, SignState.envelope_eq_ok_iff]

/-! ### Lists of calls -/

theorem run_append (calls calls' : List (SignCall ω)) (r : ρ) :
    S.run (calls ++ calls') r = S.run calls' (S.run calls r) :=
  List.foldl_append

theorem run_cons (c : SignCall ω) (calls : List (SignCall ω)) (r : ρ) :
    S.run (c :: calls) r = S.run calls (S.after r c) := rfl

/-- Calls that fail leave the request as it is. -/
theorem AllFail.run_eq (h : S.AllFail calls r) : S.run calls r = r := by
  induction calls with
  | nil => rfl
  | cons c rest ih =>
      rw [run_cons, (h c List.mem_cons_self).after_eq]
      exact ih fun c' hc' => h c' (List.mem_cons_of_mem c hc')

/-- One more call that fails. -/
theorem AllFail.snoc (h : S.AllFail calls r) (hc : S.Fails c r) : S.AllFail (calls ++ [c]) r := by
  intro c' hc'
  rcases List.mem_append.mp hc' with hc' | hc'
  · exact h c' hc'
  · exact List.mem_singleton.mp hc' ▸ hc

/-- Calls that fail do not build. -/
theorem AllFail.unbuilding (h : S.AllFail calls r) : S.Unbuilding calls r r := by
  induction calls with
  | nil => exact .nil r
  | cons c rest ih =>
      have hc := h c List.mem_cons_self
      refine .cons (.inr hc) ?_
      rw [hc.after_eq]
      exact ih fun c' hc' => h c' (List.mem_cons_of_mem c hc')

theorem Unbuilding.run_eq (h : S.Unbuilding calls r r') : S.run calls r = r' := by
  induction h with
  | nil => rfl
  | cons _ _ ih => rw [run_cons, ih]

/-- A call that attaches a signature, before others that do not build. -/
theorem Unbuilding.attach {outcome : Except ε (Option Bytes)} {r₁ : ρ}
    (hrest : S.Unbuilding calls r₁ r') (hc : c.isBuild = false)
    (hattempt : S.attempt c r = (outcome, r₁)) : S.Unbuilding (c :: calls) r r' :=
  .cons (.inl hc) (by rwa [after_eq hattempt])

theorem Unbuilding.append {calls' : List (SignCall ω)} {r'' : ρ} (h : S.Unbuilding calls r r')
    (h' : S.Unbuilding calls' r' r'') : S.Unbuilding (calls ++ calls') r r'' := by
  induction h with
  | nil => exact h'
  | cons hc _ ih => exact .cons hc (ih h')

/-- A call that does not build anew changes at most the signature. -/
theorem after_eq_withState (hc : c.isBuild = false ∨ S.Fails c r) {payload : Bytes}
    (hpayload : (S.state r).payload = some payload) :
    ∃ signature, S.after r c = S.withState { payload := some payload, signature } r := by
  have hsame : r = S.withState ⟨some payload, (S.state r).signature⟩ r := by
    rw [← hpayload]
    exact (S.withState_state r).symm
  cases hattempt : S.attempt c r with
  | mk outcome left =>
      cases outcome with
      | error e =>
          rw [after_eq hattempt, eq_of_attempt_eq_error hattempt]
          exact ⟨_, hsame⟩
      | ok answer =>
          have hbuild : c.isBuild = false := by
            refine hc.resolve_right ?_
            rintro ⟨e, he⟩
            rw [hattempt] at he
            cases he
          obtain ⟨-, payload', signature, hpayload', -, rfl⟩ := attempt_attaches hbuild hattempt
          obtain rfl := Option.some.inj (hpayload'.symm.trans hpayload)
          exact ⟨_, after_eq hattempt⟩

/-- Calls that do not build change at most the signature. -/
theorem Unbuilding.eq_withState (h : S.Unbuilding calls r r') {payload : Bytes}
    (hpayload : (S.state r).payload = some payload) :
    ∃ signature, r' = S.withState { payload := some payload, signature } r := by
  induction h with
  | nil r =>
      refine ⟨(S.state r).signature, ?_⟩
      rw [← hpayload]
      exact (S.withState_state r).symm
  | cons hc _ ih =>
      obtain ⟨signature, heq⟩ := after_eq_withState hc hpayload
      rw [heq] at ih
      obtain ⟨signature', rfl⟩ := ih (by rw [S.state_withState])
      exact ⟨signature', by rw [S.withState_withState]⟩

/-! ### Whole runs -/

/-- A signature that is attached since the last build makes the request as built, but for this
signature. -/
theorem eq_withSignature {signer : Signer} {wish : ω} {r₀ built r₁ r₂ : ρ}
    {payload signature : Bytes}
    (hbuild : (S.build signer wish).perform r₀ = (.ok payload, built))
    (hsince : S.Unbuilding calls built r₁) (hattach : S.attempt c r₁ = (.ok none, r₂))
    (hgives : c.Gives payload signature) : r₂ = S.withSignature signature built := by
  obtain ⟨-, hstate⟩ := S.of_build hbuild
  obtain ⟨signature₁, rfl⟩ := hsince.eq_withState (by rw [hstate])
  obtain ⟨-, payload', signature', hpayload', hgives', rfl⟩ :=
    attempt_attaches hgives.isBuild_eq hattach
  rw [S.state_withState] at hpayload'
  obtain rfl := Option.some.inj hpayload'
  rw [hgives.eq hgives', withSignature, hstate, S.withState_withState]

/-- What a request is that was built and signed: as built, but for the signature. -/
theorem SignedBy.run_eq {built : ρ} {e : Envelope} (h : S.SignedBy r calls built e) :
    S.run calls r = S.withSignature e.signature built := by
  obtain ⟨hbuild, -, hsince, hattach, hgives, hrest⟩ := h
  rw [run_append, run_cons, after_eq (attempt_build_eq hbuild), run_append, hsince.run_eq,
    run_cons, after_eq hattach, hrest.run_eq]
  exact eq_withSignature hbuild hsince hattach hgives

/-- Its envelope. -/
theorem SignedBy.envelope {built : ρ} {e : Envelope} (h : S.SignedBy r calls built e) :
    S.envelope (S.run calls r) = .ok e := by
  rw [h.run_eq, envelope_eq_ok_iff, withSignature, S.state_withState]
  obtain ⟨hbuild, -⟩ := h
  rw [(S.of_build hbuild).2]
  exact ⟨rfl, rfl⟩

/-- A call that fails does not change where the signature is from. -/
theorem SignedBy.fail {built : ρ} {e : Envelope} (h : S.SignedBy r calls built e)
    (hc : S.Fails c (S.withSignature e.signature built)) :
    S.SignedBy r (calls ++ [c]) built e := by
  obtain ⟨hbuild, hbytes, hsince, hattach, hgives, hrest⟩ := h
  obtain rfl := eq_withSignature hbuild hsince hattach hgives
  simp only [List.append_assoc, List.cons_append]
  exact .intro hbuild hbytes hsince hattach hgives (hrest.snoc hc)

/-- A call that attaches a signature, some calls after the last build. -/
theorem exists_signedBy {before since : List (SignCall ω)} {signer : Signer} {wish : ω}
    {payload : Bytes} {answer : Option Bytes} {built r₁ : ρ}
    (hbuild : (S.build signer wish).perform (S.run before r) = (.ok payload, built))
    (hsince : S.Unbuilding since built r₁) (hc : c.isBuild = false)
    (hattempt : S.attempt c r₁ = (.ok answer, r')) :
    ∃ e, S.SignedBy r (before ++ .build signer wish :: (since ++ [c])) built e ∧
      r' = S.withSignature e.signature built := by
  obtain ⟨hbytes, hstate⟩ := S.of_build hbuild
  obtain ⟨rfl, payload', signature, hpayload, hgives, -⟩ := attempt_attaches hc hattempt
  obtain ⟨signature', rfl⟩ := hsince.eq_withState (by rw [hstate])
  rw [S.state_withState] at hpayload
  obtain rfl := Option.some.inj hpayload
  exact ⟨⟨payload, signature⟩,
    .intro hbuild hbytes hsince hattempt hgives (List.forall_mem_nil _),
    eq_withSignature hbuild hsince hattempt hgives⟩

/-- A call that fails leaves the request at its stage. -/
theorem Stage.fail (h : S.Stage r calls r') (hc : S.Fails c r') :
    S.Stage r (calls ++ [c]) r' := by
  cases h with
  | unbuilt h => exact .unbuilt (h.snoc hc)
  | built hbuild hsince =>
      rw [List.append_assoc, List.cons_append]
      exact .built hbuild (hsince.snoc hc)
  | signed h => exact .signed (h.fail hc)

/-- A call that attaches a signature finds a request that was built, signed or not. -/
theorem Stage.attach {answer : Option Bytes} {r₁ : ρ} (hfresh : S.state r = {})
    (h : S.Stage r calls r') (hc : c.isBuild = false)
    (hattempt : S.attempt c r' = (.ok answer, r₁)) : S.Stage r (calls ++ [c]) r₁ := by
  cases h with
  | unbuilt h =>
      obtain ⟨-, payload, signature, hpayload, -⟩ := attempt_attaches hc hattempt
      rw [hfresh] at hpayload
      cases hpayload
  | built hbuild hsince =>
      obtain ⟨e, hsigned, rfl⟩ := exists_signedBy hbuild hsince.unbuilding hc hattempt
      rw [List.append_assoc, List.cons_append]
      exact .signed hsigned
  | signed h =>
      obtain ⟨hbuild, hbytes, hsince, hattach, hgives, hrest⟩ := h
      obtain rfl := eq_withSignature hbuild hsince hattach hgives
      -- The signature that was attached before is among the calls since the last build.
      have hunbuilding := hsince.append (hrest.unbuilding.attach hgives.isBuild_eq hattach)
      obtain ⟨e, hsigned, rfl⟩ := exists_signedBy hbuild hunbuilding hc hattempt
      rw [List.append_assoc, List.cons_append]
      exact .signed hsigned

/-- A build that succeeds starts anew. -/
theorem Stage.build {signer : Signer} {wish : ω} {answer : Option Bytes}
    (hattempt : S.attempt (.build signer wish) (S.run calls r) = (.ok answer, r')) :
    S.Stage r (calls ++ [.build signer wish]) r' := by
  obtain ⟨payload, hbuild, -⟩ := perform_map_eq_ok_iff.mp hattempt
  exact .built hbuild (List.forall_mem_nil _)

/-- Where a request is after a list of calls. -/
theorem stage_run (hfresh : S.state r = {}) (calls : List (SignCall ω)) :
    S.Stage r calls (S.run calls r) := by
  induction calls using List.reverseRecOn with
  | nil => exact .unbuilt (List.forall_mem_nil _)
  | append_singleton calls c ih =>
      rw [run_append, run_cons, run, List.foldl_nil]
      cases hattempt : S.attempt c (S.run calls r) with
      | mk outcome left =>
          rw [after_eq hattempt]
          cases outcome with
          | error e =>
              obtain rfl := eq_of_attempt_eq_error hattempt
              exact ih.fail ⟨e, congrArg Prod.fst hattempt⟩
          | ok answer =>
              cases c with
              | build signer wish => exact .build hattempt
              | sign | signWith => exact ih.attach hfresh rfl hattempt

/-- There is a signed envelope exactly if, since the last build that succeeded, a signature has
been attached. -/
theorem envelope_run_iff (hfresh : S.state r = {}) (calls : List (SignCall ω)) (e : Envelope) :
    S.envelope (S.run calls r) = .ok e ↔ ∃ built, S.SignedBy r calls built e := by
  constructor
  · intro henvelope
    obtain ⟨hpayload, hsignature⟩ := envelope_eq_ok_iff.mp henvelope
    have hstage := stage_run hfresh calls
    generalize S.run calls r = r' at henvelope hpayload hsignature hstage
    cases hstage with
    | unbuilt =>
        rw [hfresh] at hpayload
        cases hpayload
    | built hbuild =>
        rw [(S.of_build hbuild).2] at hsignature
        cases hsignature
    | @signed _ built _ h =>
        have hown := h.envelope
        rw [h.run_eq, henvelope] at hown
        cases hown
        exact ⟨built, h⟩
  · rintro ⟨built, h⟩
    exact h.envelope

end Signable

end LedgerClient
