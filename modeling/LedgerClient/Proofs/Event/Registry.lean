import LedgerClient.Event.Registry
import Mathlib.Data.List.Nodup

/-!
# Handles in the registry

What the operations of the registry do to the handles of the registered listeners and to
the counter they come from. A handle is fresh when it is given out, and the registry never
holds one twice.

## Main results

* `Registry.Sound.insert`, `Registry.Sound.of_sublist`: registering and removing listeners
  keep the handles distinct and within the counter.
-/

namespace LedgerClient

namespace Registry

/-- The handles of the registered listeners, in order. -/
def handles (r : Registry) : List ListenerHandle := r.entries.map Prod.fst

/-- The handles of a registry are distinct and were all given out by its counter. -/
structure Sound (r : Registry) : Prop where
  nodup : r.handles.Nodup
  le_lastId : ∀ h ∈ r.handles, h.id ≤ r.lastId

/-! ### Registering -/

@[simp] theorem insert_fst (r : Registry) (l : EventListener) :
    (r.insert l).1 = ⟨r.lastId + 1⟩ := rfl

@[simp] theorem entries_setFlag (r : Registry) (kind : ListenerKind) :
    (r.setFlag kind).entries = r.entries := by
  cases kind <;> rfl

@[simp] theorem lastId_setFlag (r : Registry) (kind : ListenerKind) :
    (r.setFlag kind).lastId = r.lastId := by
  cases kind <;> rfl

/-- Registering appends the fresh handle. -/
@[simp] theorem handles_insert (r : Registry) (l : EventListener) :
    (r.insert l).2.handles = r.handles ++ [⟨r.lastId + 1⟩] := by
  simp [insert, handles]

@[simp] theorem lastId_insert (r : Registry) (l : EventListener) :
    (r.insert l).2.lastId = r.lastId + 1 := by
  simp [insert]

/-! ### Removing -/

/-- A handle is registered exactly if an entry carries it. -/
theorem contains_iff (r : Registry) (h : ListenerHandle) :
    r.contains h = true ↔ h ∈ r.handles := by
  simp [contains, find?, handles]

/-- Removing a handle takes it out, if it is there, and keeps the others in order. -/
@[simp] theorem handles_remove (r : Registry) (h : ListenerHandle) :
    (r.remove h).2.handles = r.handles.filter fun h' => h' != h := by
  unfold remove
  split
  · simp only [withEntries, handles, List.filter_map]
    rfl
  · next hnot =>
    have hmem : h ∉ r.handles := fun hm => hnot ((contains_iff r h).mpr hm)
    refine (List.filter_eq_self.mpr ?_).symm
    intro h' hh'
    simp only [bne_iff_ne]
    rintro rfl
    exact hmem hh'

@[simp] theorem lastId_remove (r : Registry) (h : ListenerHandle) :
    (r.remove h).2.lastId = r.lastId := by
  unfold remove
  split <;> rfl

/-- Removing handles keeps the other entries in order. -/
theorem entries_removeAll_sublist (r : Registry) (hs : List ListenerHandle) :
    (r.removeAll hs).entries.Sublist r.entries := by
  unfold removeAll
  split
  · exact List.Sublist.refl _
  · exact List.filter_sublist

@[simp] theorem lastId_removeAll (r : Registry) (hs : List ListenerHandle) :
    (r.removeAll hs).lastId = r.lastId := by
  unfold removeAll
  split <;> rfl

/-! ### Soundness -/

/-- The empty registry is sound. -/
theorem Sound.empty : Sound {} where
  nodup := List.nodup_nil
  le_lastId := by
    intro h hh
    simp [handles] at hh

/-- The fresh handle is not among those given out before. -/
theorem Sound.fresh_notMem {r : Registry} (hr : r.Sound) : ⟨r.lastId + 1⟩ ∉ r.handles := by
  intro hmem
  have := hr.le_lastId _ hmem
  simp only at this
  omega

/-- Registering keeps the registry sound. -/
theorem Sound.insert {r : Registry} (hr : r.Sound) (l : EventListener) :
    (r.insert l).2.Sound where
  nodup := by
    rw [handles_insert]
    refine List.Nodup.append hr.nodup (List.nodup_singleton _) ?_
    intro h hmem hfresh
    rw [List.mem_singleton] at hfresh
    exact hr.fresh_notMem (hfresh ▸ hmem)
  le_lastId := by
    intro h hmem
    rw [handles_insert, List.mem_append, List.mem_singleton] at hmem
    rw [lastId_insert]
    rcases hmem with hmem | rfl
    · have := hr.le_lastId h hmem
      omega
    · exact Nat.le_refl _

/-- A registry that has only lost listeners is still sound. -/
theorem Sound.of_sublist {r r' : Registry} (hr : r.Sound) (hsub : r'.handles.Sublist r.handles)
    (hid : r'.lastId = r.lastId) : r'.Sound where
  nodup := hr.nodup.sublist hsub
  le_lastId := by
    intro h hmem
    rw [hid]
    exact hr.le_lastId h (hsub.subset hmem)

end Registry

end LedgerClient
