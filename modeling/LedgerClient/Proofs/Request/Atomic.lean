import LedgerClient.Proofs.Data.Steps
import LedgerClient.Request.SignState

/-!
# Calls that store all or nothing

A call on a request that fails leaves behind what it has stored by then. It has stored nothing if
it makes all steps that can fail before the first one that stores. The rules here show this of a
call step by step: steps that only look, then steps that cannot fail.

## Main results

* `RequestM.Looks.bind_atomic`, `RequestM.Sure.bind`: one step after another.
* `RequestM.Atomic.onPart`: a call on a part that stores all or nothing stores nothing beside it.
* `SignState.atomic_signing`, `SignState.atomic_attaching`: signing and attaching a signature
  store all or nothing.
-/

namespace LedgerClient

namespace RequestM

variable {ε δ ρ κ α β : Type} {x : RequestM ε ρ α} {f : α → RequestM ε ρ β} {r r' : ρ}

/-! ### One step after another -/

/-- Two steps fail if the first does, or if the second does on what the first left behind. -/
theorem perform_bind_eq_error_iff {e : ε} :
    (x >>= f).perform r = (.error e, r') ↔ x.perform r = (.error e, r') ∨
      ∃ a r₁, x.perform r = (.ok a, r₁) ∧ (f a).perform r₁ = (.error e, r') := by
  rw [perform_bind]
  obtain ⟨outcome, r₁⟩ := x.perform r
  cases outcome <;> simp

/-- A call succeeds whatever is made of its answer. -/
theorem perform_map_eq_ok_iff {g : α → β} {b : β} :
    (g <$> x).perform r = (.ok b, r') ↔ ∃ a, x.perform r = (.ok a, r') ∧ g a = b := by
  rw [perform_map]
  obtain ⟨outcome, r₁⟩ := x.perform r
  cases outcome <;> simp [Except.map, and_comm]

/-- A call fails whatever would be made of its answer. -/
theorem perform_map_eq_error_iff {g : α → β} {e : ε} :
    (g <$> x).perform r = (.error e, r') ↔ x.perform r = (.error e, r') := by
  rw [perform_map]
  obtain ⟨outcome, r₁⟩ := x.perform r
  cases outcome <;> simp [Except.map]

/-- A call on a part comes to what it comes to on the part alone, and puts the part back. -/
theorem perform_onPart_eq_iff {part : ρ → κ} {withPart : κ → ρ → ρ} {x : RequestM ε κ α}
    {outcome : Except ε α} : (onPart part withPart x).perform r = (outcome, r') ↔
      ∃ k, x.perform (part r) = (outcome, k) ∧ r' = withPart k r := by
  rw [perform_onPart]
  obtain ⟨outcome', k⟩ := x.perform (part r)
  simp [eq_comm]

/-- A call succeeds however its errors are reported. -/
theorem perform_adaptExcept_eq_ok_iff {g : ε → δ} {a : α} :
    perform (EStateM.adaptExcept g x) r = (.ok a, r') ↔ x.perform r = (.ok a, r') := by
  rw [perform_adaptExcept, Prod.mk.injEq, mapError_eq_ok_iff, Prod.ext_iff]

/-- A call fails however its errors are reported. -/
theorem perform_adaptExcept_eq_error_iff {g : ε → δ} {e : δ} :
    perform (EStateM.adaptExcept g x) r = (.error e, r') ↔
      ∃ e', x.perform r = (.error e', r') ∧ g e' = e := by
  rw [perform_adaptExcept]
  obtain ⟨outcome, r₁⟩ := x.perform r
  cases outcome <;> simp [Except.mapError, and_comm]

/-- The request after a call that begins with a step beside the request. -/
theorem after_lift_bind (v : Except ε α) (f : α → RequestM ε ρ β) (r : ρ) :
    (lift v >>= f).after r = v >>= fun a => (f a).after r := by
  cases v <;> rfl

/-- The request after a call that begins with looking at it. -/
theorem after_get_bind (f : ρ → RequestM ε ρ β) (r : ρ) : (get >>= f).after r = (f r).after r := rfl

/-- The request after a call on a part. -/
theorem after_onPart (part : ρ → κ) (withPart : κ → ρ → ρ) (x : RequestM ε κ α) (r : ρ) :
    (onPart part withPart x).after r = do return withPart (← x.after (part r)) r := by
  rw [after, perform_onPart, after]
  cases (x.perform (part r)).1 <;> rfl

/-- A call on a part of a part. -/
theorem onPart_onPart {μ : Type} (part : ρ → κ) (withPart : κ → ρ → ρ) (part' : κ → μ)
    (withPart' : μ → κ → κ) (x : RequestM ε μ α) :
    onPart part withPart (onPart part' withPart' x) =
      onPart (part' ∘ part) (fun k r => withPart (withPart' k (part r)) r) x := by
  funext r
  simp only [onPart, EStateM.run, Function.comp]
  cases x (part' (part r)) <;> rfl

/-- Reporting errors as they are changes nothing. -/
theorem adaptExcept_id (x : RequestM ε ρ α) : EStateM.adaptExcept id x = x := by
  funext r
  simp only [EStateM.adaptExcept]
  cases x r <;> rfl

/-! ### What a step does to the request -/

/-- A call that only looks: it leaves the request as it is, whatever it comes to. -/
def Looks (x : RequestM ε ρ α) : Prop := ∀ r, (x.perform r).2 = r

/-- A call that cannot fail. -/
def Sure (x : RequestM ε ρ α) : Prop := ∀ r e r', x.perform r ≠ (.error e, r')

/-- A call that stores nothing if it fails. -/
def Atomic (x : RequestM ε ρ α) : Prop := ∀ r e r', x.perform r = (.error e, r') → r' = r

theorem looks_get : Looks (get : RequestM ε ρ ρ) := fun _ => rfl

theorem looks_lift (v : Except ε α) : Looks (lift v : RequestM ε ρ α) :=
  fun r => congrArg Prod.snd (perform_lift v r)

theorem sure_pure (a : α) : Sure (pure a : RequestM ε ρ α) := fun _ _ _ h => by cases h

theorem sure_modify (g : ρ → ρ) : Sure (modify g : RequestM ε ρ PUnit) := fun _ _ _ h => by cases h

/-- A call that cannot fail does so on a part as well. -/
theorem Sure.onPart {part : ρ → κ} {withPart : κ → ρ → ρ} {x : RequestM ε κ α} (h : Sure x) :
    Sure (onPart part withPart x) := by
  intro r e r' hfail
  obtain ⟨k, hpart, -⟩ := perform_onPart_eq_iff.mp hfail
  exact h (part r) e k hpart

/-- A call that cannot fail does not fail however its errors are reported. -/
theorem Sure.adaptExcept {g : ε → δ} (h : Sure x) : Sure (EStateM.adaptExcept g x) := by
  intro r e r' hfail
  obtain ⟨e', hx, -⟩ := perform_adaptExcept_eq_error_iff.mp hfail
  exact h r e' r' hx

/-- A step that cannot fail before others that cannot. -/
theorem Sure.bind (hx : Sure x) (hf : ∀ a, Sure (f a)) : Sure (x >>= f) := by
  intro r e r' hfail
  rcases perform_bind_eq_error_iff.mp hfail with hfail | ⟨a, r₁, -, hfail⟩
  · exact hx r e r' hfail
  · exact hf a r₁ e r' hfail

/-- A call that cannot fail stores all. -/
theorem Sure.atomic (h : Sure x) : Atomic x := fun r e r' hfail => absurd hfail (h r e r')

/-- A step that only looks, before a call that stores all or nothing. -/
theorem Looks.bind_atomic (hx : Looks x) (hf : ∀ a, Atomic (f a)) : Atomic (x >>= f) := by
  intro r e r' hfail
  rcases perform_bind_eq_error_iff.mp hfail with hfail | ⟨a, r₁, hok, hfail⟩
  · exact (congrArg Prod.snd hfail).symm.trans (hx r)
  · have hr₁ : r₁ = r := (congrArg Prod.snd hok).symm.trans (hx r)
    exact (hf a r₁ e r' hfail).trans hr₁

/-- A call on a part stores all or nothing if putting back a part that did not change changes
nothing. -/
theorem Atomic.onPart {part : ρ → κ} {withPart : κ → ρ → ρ} {x : RequestM ε κ α} (h : Atomic x)
    (hback : ∀ r, withPart (part r) r = r) : Atomic (onPart part withPart x) := by
  intro r e r' hfail
  obtain ⟨k, hpart, rfl⟩ := perform_onPart_eq_iff.mp hfail
  have hk : k = part r := h (part r) e k hpart
  rw [hk, hback]

/-- Reporting errors otherwise stores nothing. -/
theorem Atomic.adaptExcept {g : ε → δ} (h : Atomic x) : Atomic (EStateM.adaptExcept g x) := by
  intro r e r' hfail
  obtain ⟨e', hx, -⟩ := perform_adaptExcept_eq_error_iff.mp hfail
  exact h r e' r' hx

/-- What is made of the answer stores nothing. -/
theorem Atomic.map {g : α → β} (h : Atomic x) : Atomic (g <$> x) :=
  fun r e r' hfail => h r e r' (perform_map_eq_error_iff.mp hfail)

end RequestM

/-! ### Signing -/

namespace SignState

open RequestM

variable {action : String} {s s' : SignState}

/-- Signing stores a signature or nothing. -/
theorem atomic_signing (action : String) (signer : Signer) : Atomic (signing action signer) :=
  looks_get.bind_atomic fun _ => (looks_lift _).bind_atomic fun _ =>
    (looks_lift _).bind_atomic fun _ => (sure_modify _).atomic

/-- Attaching a signature stores it or nothing. -/
theorem atomic_attaching (action : String) (signature : Bytes) :
    Atomic (attaching action signature) := by
  intro s e s' hfail
  rw [perform_attaching] at hfail
  split at hfail
  · exact (congrArg Prod.snd hfail).symm
  · split at hfail
    · exact (congrArg Prod.snd hfail).symm
    · cases hfail

/-- Signing attaches the signer's signature over the payload. -/
theorem perform_signing_eq_ok_iff {signer : Signer} :
    (signing action signer).perform s = (.ok (), s') ↔
      ∃ payload signature, s.payload = some payload ∧ signer.sign payload = .ok signature ∧
        s' = { payload := some payload, signature := some signature } := by
  rw [perform_signing]
  cases hpayload : s.payload with
  | none => simp
  | some payload => cases hsign : signer.sign payload <;> simp [hsign, eq_comm]

/-- A signature made elsewhere is attached if it is not empty and there is a payload. -/
theorem perform_attaching_eq_ok_iff {signature : Bytes} :
    (attaching action signature).perform s = (.ok (), s') ↔
      signature ≠ [] ∧ ∃ payload, s.payload = some payload ∧
        s' = { payload := some payload, signature := some signature } := by
  rw [perform_attaching, isBuilt]
  cases signature with
  | nil => simp
  | cons b rest => cases hpayload : s.payload <;> simp [eq_comm]

/-- Signing does not touch the payload. -/
theorem payload_signing (action : String) (signer : Signer) (s : SignState) :
    ((signing action signer).perform s).2.payload = s.payload := by
  rw [perform_signing]
  split
  · rfl
  · split <;> rfl

/-- Attaching a signature does not touch the payload. -/
theorem payload_attaching (action : String) (signature : Bytes) (s : SignState) :
    ((attaching action signature).perform s).2.payload = s.payload := by
  rw [perform_attaching]
  split
  · rfl
  · split <;> rfl

/-- The state after signing. -/
theorem sign_eq_ok_iff {signer : Signer} :
    s.sign action signer = .ok s' ↔
      ∃ payload signature, s.payload = some payload ∧ signer.sign payload = .ok signature ∧
        s' = { payload := some payload, signature := some signature } := by
  rw [sign, after_eq_ok_iff, ← perform_signing_eq_ok_iff]
  exact ⟨fun ⟨(), h⟩ => h, fun h => ⟨(), h⟩⟩

/-- There is an envelope if there are payload and signature. -/
theorem envelope_eq_ok_iff {e : Envelope} :
    s.envelope action = .ok e ↔ s.payload = some e.payload ∧ s.signature = some e.signature := by
  obtain ⟨payload, signature⟩ := e
  rw [envelope]
  cases s.payload <;> cases s.signature <;> simp

end SignState

end LedgerClient
