/-!
# Calls on requests

A request is built and signed in place, by calls that store one field after another. A call may
fail at any of its steps. What it has stored by then stays stored: nothing puts the request back
as it was. So a call is a function from the request that it finds to what it answers, or the
error that it fails with, and the request that it leaves behind in either case.

## Main results

* `RequestM.perform_onPart`: a call on a part leaves the rest as it is.
* `RequestM.after_eq_ok_iff`: the request after a call that succeeds is the one it leaves behind.
-/

namespace LedgerClient

/-- A call on a request `ρ` that may fail with an error `ε`. -/
abbrev RequestM (ε ρ : Type) := EStateM ε ρ

namespace RequestM

variable {ε δ ρ κ α β : Type}

/-- What a call answers, and the request that it leaves behind whether it succeeds or not. -/
def perform (x : RequestM ε ρ α) (r : ρ) : Except ε α × ρ :=
  match x.run r with
  | .ok a r => (.ok a, r)
  | .error e r => (.error e, r)

/-- The request after a call, if the call succeeds. -/
def after (x : RequestM ε ρ α) (r : ρ) : Except ε ρ :=
  (x.perform r).1.map fun _ => (x.perform r).2

/-- A step that does not look at the request. -/
def lift (v : Except ε α) : RequestM ε ρ α :=
  match v with
  | .ok a => pure a
  | .error e => throw e

/-- A call on a part of a request. The part is put back as the call leaves it, also when the call
fails. -/
def onPart (part : ρ → κ) (withPart : κ → ρ → ρ) (x : RequestM ε κ α) : RequestM ε ρ α := fun r =>
  match x.run (part r) with
  | .ok a k => .ok a (withPart k r)
  | .error e k => .error e (withPart k r)

@[simp] theorem perform_pure (a : α) (r : ρ) :
    perform (pure a : RequestM ε ρ α) r = (.ok a, r) := rfl

@[simp] theorem perform_throw (e : ε) (r : ρ) :
    perform (throw e : RequestM ε ρ α) r = (.error e, r) := rfl

@[simp] theorem perform_get (r : ρ) : perform (get : RequestM ε ρ ρ) r = (.ok r, r) := rfl

@[simp] theorem perform_modify (f : ρ → ρ) (r : ρ) :
    perform (modify f : RequestM ε ρ PUnit) r = (.ok ⟨⟩, f r) := rfl

@[simp] theorem perform_lift (v : Except ε α) (r : ρ) :
    perform (lift v : RequestM ε ρ α) r = (v, r) := by
  cases v <;> rfl

/-- One call after another: the second is only made if the first succeeds, on the request that
the first leaves behind. -/
@[simp] theorem perform_bind (x : RequestM ε ρ α) (f : α → RequestM ε ρ β) (r : ρ) :
    perform (x >>= f) r =
      match x.perform r with
      | (.ok a, r) => (f a).perform r
      | (.error e, r) => (.error e, r) := by
  simp only [perform, EStateM.run, bind, EStateM.bind]
  cases x r <;> rfl

/-- A function of what a call answers does not change what the call leaves behind. -/
@[simp] theorem perform_map (g : α → β) (x : RequestM ε ρ α) (r : ρ) :
    perform (g <$> x) r = ((x.perform r).1.map g, (x.perform r).2) := by
  simp only [perform, EStateM.run, Functor.map, EStateM.map]
  cases x r <;> rfl

/-- A call on a part leaves the rest as it is. -/
@[simp] theorem perform_onPart (part : ρ → κ) (withPart : κ → ρ → ρ) (x : RequestM ε κ α) (r : ρ) :
    perform (onPart part withPart x) r =
      ((x.perform (part r)).1, withPart (x.perform (part r)).2 r) := by
  simp only [perform, EStateM.run, onPart]
  cases x (part r) <;> rfl

/-- Reporting the errors of a call otherwise does not change what it leaves behind. -/
@[simp] theorem perform_adaptExcept (g : ε → δ) (x : RequestM ε ρ α) (r : ρ) :
    perform (EStateM.adaptExcept g x) r = ((x.perform r).1.mapError g, (x.perform r).2) := by
  simp only [perform, EStateM.run, EStateM.adaptExcept]
  cases x r <;> rfl

/-- The request after a call that succeeds is the one that it leaves behind. -/
theorem after_eq_ok_iff {x : RequestM ε ρ α} {r r' : ρ} :
    x.after r = .ok r' ↔ ∃ a, x.perform r = (.ok a, r') := by
  rw [after]
  obtain ⟨answer, left⟩ := x.perform r
  cases answer <;> simp [Except.map]

end RequestM

end LedgerClient
