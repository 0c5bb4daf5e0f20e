import LedgerClient.Proofs.Event.Registry

/-!
# The flags of the registry

A registry is reachable if it comes out of the empty one by registering and removing
listeners. The flags of a reachable registry are those that belong to its entries, whatever
was registered and removed before, so a pass that a flag skips would have found nobody.

## Main results

* `Registry.Reachable.flagged`: the flags of a reachable registry belong to its entries.
* `Registry.Reachable.sound`: its handles are distinct and within its counter.
-/

namespace LedgerClient.Registry

/-- The registries that registering and removing listeners lead to. -/
inductive Reachable : Registry → Prop where
  | empty : Reachable {}
  | insert {r : Registry} (hr : Reachable r) (l : EventListener) : Reachable (r.insert l).2
  | remove {r : Registry} (hr : Reachable r) (h : ListenerHandle) : Reachable (r.remove h).2
  | removeAll {r : Registry} (hr : Reachable r) (hs : List ListenerHandle) :
      Reachable (r.removeAll hs)
  | drain {r : Registry} (hr : Reachable r) : Reachable r.drain.2

/-- The flags are those that belong to the entries. -/
def Flagged (r : Registry) : Prop := r.withEntries r.entries = r

variable {r : Registry}

/-! ### Flags and entries -/

@[simp] theorem entries_withEntries (r : Registry)
    (entries : List (ListenerHandle × EventListener)) :
    (r.withEntries entries).entries = entries := rfl

/-- Only the last entries given count. -/
@[simp] theorem withEntries_withEntries (r : Registry)
    (entries entries' : List (ListenerHandle × EventListener)) :
    (r.withEntries entries).withEntries entries' = r.withEntries entries' := rfl

/-- A flag is set exactly if it belongs to the entries. -/
theorem has_withEntries (r : Registry) (entries : List (ListenerHandle × EventListener))
    (kind : ListenerKind) : (r.withEntries entries).has kind = anyOf entries kind := by
  cases kind <;> rfl

theorem Flagged.has_eq (hr : r.Flagged) (kind : ListenerKind) :
    r.has kind = anyOf r.entries kind := by
  rw [← has_withEntries r r.entries kind, hr]

/-- A pass that is skipped would have found no listener of its kind. -/
theorem Flagged.ofKind_eq_nil (hr : r.Flagged) {kind : ListenerKind} (h : ¬ r.has kind = true) :
    r.ofKind kind = [] := by
  rw [hr.has_eq, anyOf, Bool.not_eq_true, List.any_eq_false] at h
  rw [ofKind, List.filter_eq_nil_iff]
  exact h

/-- Removing listeners keeps the entries of the others, with the flags that belong to them. -/
theorem Flagged.removeAll_eq (hr : r.Flagged) (hs : List ListenerHandle) :
    r.removeAll hs = r.withEntries (r.entries.filter fun e => !hs.contains e.1) := by
  unfold removeAll
  split
  · next hempty =>
    have hkeep : (r.entries.filter fun e => !hs.contains e.1) = r.entries := by
      rw [List.isEmpty_iff.1 hempty, List.filter_eq_self]
      intro e _
      rfl
    rw [hkeep, hr]
  · rfl

/-! ### Every operation keeps the flags -/

theorem flagged_withEntries (r : Registry) (entries : List (ListenerHandle × EventListener)) :
    (r.withEntries entries).Flagged := rfl

/-- A new entry adds its own kind. -/
theorem anyOf_concat (entries : List (ListenerHandle × EventListener))
    (e : ListenerHandle × EventListener) (kind : ListenerKind) :
    anyOf (entries ++ [e]) kind = (anyOf entries kind || e.2.kind == kind) := by
  rw [anyOf, List.any_append, List.any_cons, List.any_nil, Bool.or_false]
  rfl

theorem Flagged.insert (hr : r.Flagged) (l : EventListener) : (r.insert l).2.Flagged := by
  have hblock : r.hasBlock = anyOf r.entries .block := hr.has_eq .block
  have htx : r.hasTx = anyOf r.entries .tx := hr.has_eq .tx
  have hchaincode : r.hasChaincode = anyOf r.entries .chaincode := hr.has_eq .chaincode
  simp only [Flagged, Registry.insert]
  cases hkind : l.kind <;>
    simp [setFlag, withEntries, anyOf_concat, hkind, hblock, htx, hchaincode]

theorem Flagged.remove (hr : r.Flagged) (h : ListenerHandle) : (r.remove h).2.Flagged := by
  unfold Registry.remove
  split
  · exact flagged_withEntries _ _
  · exact hr

theorem Flagged.removeAll (hr : r.Flagged) (hs : List ListenerHandle) :
    (r.removeAll hs).Flagged := by
  rw [hr.removeAll_eq]
  exact flagged_withEntries _ _

/-- The flags of a reachable registry belong to its entries. -/
theorem Reachable.flagged (hr : r.Reachable) : r.Flagged := by
  induction hr with
  | empty => rfl
  | insert _ l ih => exact ih.insert l
  | remove _ h ih => exact ih.remove h
  | removeAll _ hs ih => exact ih.removeAll hs
  | drain _ _ => rfl

/-- The handles of a reachable registry are distinct and were all given out by its counter. -/
theorem Reachable.sound (hr : r.Reachable) : r.Sound := by
  induction hr with
  | empty => exact Sound.empty
  | insert _ l ih => exact ih.insert l
  | @remove r _ h ih =>
      refine ih.of_sublist ?_ (lastId_remove r h)
      rw [handles_remove]
      exact List.filter_sublist
  | @removeAll r _ hs ih =>
      exact ih.of_sublist ((entries_removeAll_sublist r hs).map Prod.fst) (lastId_removeAll r hs)
  | @drain r _ ih => exact ih.of_sublist (List.nil_sublist _) rfl

end LedgerClient.Registry
