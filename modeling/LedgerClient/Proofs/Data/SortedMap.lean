import LedgerClient.Data.SortedMap
import Mathlib.Logic.Basic

/-!
# The last pair wins

A map made of pairs has for each key the value of the last pair with this key. So the order of
pairs with different keys does not matter, nor do pairs that a later one with the same key
overwrites.

## Main results

* `SortedMap.get?_mapValues`: what a key has when all values were changed.
* `SortedMap.get?_foldl_insert`: what a key has after pairs were put into a map.
* `SortedMap.get?_ofList`: what a key has in the map of some pairs.
* `SortedMap.ofList_eq_of_lookup`: pairs with the same last values make the same map.
* `SortedMap.ofList_eq_of_filter`: the order of pairs with different keys does not matter.
-/

namespace LedgerClient.SortedMap

variable {κ ν μ : Type} [Ord κ]

/-! ### Looking up a key in a list -/

theorem lookup_append (k : κ) (l l' : List (κ × ν)) :
    lookup k (l ++ l') = (lookup k l).or (lookup k l') := by
  induction l with
  | nil => rfl
  | cons e l ih =>
      obtain ⟨k', v⟩ := e
      rw [List.cons_append, lookup, lookup]
      split
      · rfl
      · exact ih

section Lawful

variable [Std.LawfulEqOrd κ]

/-- A value that is found stands in the list. -/
theorem mem_of_lookup {k : κ} {v : ν} {l : List (κ × ν)} (h : lookup k l = some v) :
    (k, v) ∈ l := by
  induction l with
  | nil => cases h
  | cons e l ih =>
      obtain ⟨k', v'⟩ := e
      rw [lookup] at h
      split at h
      · next heq =>
        obtain rfl := Std.LawfulEqCmp.eq_of_compare heq
        obtain rfl := Option.some.inj h
        exact List.mem_cons_self
      · exact List.mem_cons_of_mem _ (ih h)

/-- The entry that is found is the first of those with the key. -/
theorem lookup_eq_head?_filter [DecidableEq κ] (k : κ) (l : List (κ × ν)) :
    lookup k l = (l.filter fun e => e.1 = k).head?.map Prod.snd := by
  induction l with
  | nil => rfl
  | cons e l ih =>
      obtain ⟨k', v⟩ := e
      by_cases hk : k = k'
      · rw [lookup, hk, if_pos Std.ReflCmp.compare_self, List.filter_cons_of_pos (by simp)]
        rfl
      · have hne : compare k k' ≠ .eq := fun heq => hk (Std.LawfulEqCmp.eq_of_compare heq)
        rw [lookup, if_neg hne, List.filter_cons_of_neg (by simpa using Ne.symm hk), ih]

variable [Std.TransOrd κ]

/-- Where keys are ascending, every entry is found. -/
theorem lookup_of_mem {l : List (κ × ν)} (hl : AscendingKeys l) {k : κ} {v : ν}
    (h : (k, v) ∈ l) : lookup k l = some v := by
  induction l with
  | nil => cases h
  | cons e l ih =>
      obtain ⟨hhead, hrest⟩ := List.pairwise_cons.1 hl
      rcases List.mem_cons.1 h with rfl | h
      · rw [lookup, if_pos Std.ReflCmp.compare_self]
      · have hlt : compare e.1 k = .lt := hhead (k, v) h
        have hne : compare k e.1 ≠ .eq := by
          rw [Std.OrientedCmp.gt_of_lt hlt]
          decide
        rw [show e = (e.1, e.2) from rfl, lookup, if_neg hne]
        exact ih hrest h

/-- A key has the value of each entry with this key. -/
theorem get?_eq_some_iff {m : SortedMap κ ν} {k : κ} {v : ν} :
    m.get? k = some v ↔ (k, v) ∈ m.entries :=
  ⟨mem_of_lookup, lookup_of_mem m.ascending⟩

/-- Maps in which every key has the same value are equal. -/
theorem ext_get? {m n : SortedMap κ ν} (h : ∀ k, m.get? k = n.get? k) : m = n := by
  have hmem : ∀ e, e ∈ m.entries ↔ e ∈ n.entries := by
    rintro ⟨k, v⟩
    rw [← get?_eq_some_iff, ← get?_eq_some_iff, h]
  have hnodup : ∀ m : SortedMap κ ν, m.entries.Nodup := by
    intro m
    refine m.ascending.imp ?_
    rintro a b hlt rfl
    exact absurd (hlt.symm.trans Std.ReflCmp.compare_self) (by decide)
  have hperm : m.entries.Perm n.entries :=
    (List.perm_ext_iff_of_nodup (hnodup m) (hnodup n)).2 hmem
  refine ext (hperm.eq_of_pairwise ?_ m.ascending n.ascending)
  intro a b _ _ hab hba
  rw [Std.OrientedCmp.gt_of_lt hab] at hba
  cases hba

/-- Each value is changed with its key. -/
theorem get?_mapValues (f : κ → ν → μ) (m : SortedMap κ ν) (k : κ) :
    (m.mapValues f).get? k = (m.get? k).map (f k) := by
  ext v
  rw [get?_eq_some_iff, Option.map_eq_some_iff]
  constructor
  · intro h
    obtain ⟨e, he, heq⟩ := List.mem_map.mp h
    obtain ⟨rfl, rfl⟩ := Prod.mk.inj heq
    exact ⟨e.2, get?_eq_some_iff.mpr he, rfl⟩
  · rintro ⟨a, ha, rfl⟩
    exact List.mem_map.mpr ⟨(k, a), get?_eq_some_iff.mp ha, rfl⟩

/-! ### Maps of pairs -/

variable [DecidableEq κ]

/-- Pairs that were put into a map one after another count from the last one on, and the map
itself comes after them. -/
theorem get?_foldl_insert (pairs : List (κ × ν)) (m : SortedMap κ ν) (k : κ) :
    (pairs.foldl (fun m e => m.insert e.1 e.2) m).get? k =
      (lookup k pairs.reverse).or (m.get? k) := by
  induction pairs generalizing m with
  | nil => rfl
  | cons e pairs ih =>
      rw [List.foldl_cons, ih, List.reverse_cons, lookup_append, get?_insert, Option.or_assoc]
      congr 1
      by_cases hk : k = e.1
      · rw [if_pos hk, show e = (e.1, e.2) from rfl, lookup, hk,
          if_pos Std.ReflCmp.compare_self]
        rfl
      · have hne : compare k e.1 ≠ .eq := fun heq => hk (Std.LawfulEqCmp.eq_of_compare heq)
        rw [if_neg hk, show e = (e.1, e.2) from rfl, lookup, if_neg hne]
        rfl

omit [DecidableEq κ] in
/-- Pairs that are in order are the entries of their map. -/
theorem entries_ofList {pairs : List (κ × ν)} (h : AscendingKeys pairs) :
    (ofList pairs).entries = pairs :=
  entries_foldl_insert (m := empty) h

/-- In the map of some pairs a key has the value of the last pair with this key. -/
theorem get?_ofList (pairs : List (κ × ν)) (k : κ) :
    (ofList pairs).get? k = lookup k pairs.reverse :=
  (get?_foldl_insert pairs empty k).trans (Option.or_none ..)

/-- Pairs in which every key has the same last value make the same map. -/
theorem ofList_eq_of_lookup {pairs pairs' : List (κ × ν)}
    (h : ∀ k, lookup k pairs.reverse = lookup k pairs'.reverse) :
    ofList pairs = ofList pairs' :=
  ext_get? fun k => by rw [get?_ofList, get?_ofList, h]

/-- The order of pairs with different keys does not matter. -/
theorem ofList_eq_of_filter {pairs pairs' : List (κ × ν)}
    (h : ∀ k, (pairs.filter fun e => e.1 = k) = pairs'.filter fun e => e.1 = k) :
    ofList pairs = ofList pairs' := by
  refine ofList_eq_of_lookup fun k => ?_
  rw [lookup_eq_head?_filter, lookup_eq_head?_filter, List.filter_reverse, List.filter_reverse, h]

/-- In a union the second map wins. -/
theorem get?_foldl_entries (m n : SortedMap κ ν) (k : κ) :
    (n.entries.foldl (fun m e => m.insert e.1 e.2) m).get? k = (n.get? k).or (m.get? k) := by
  rw [get?_foldl_insert, ← get?_ofList, ofList_entries]

/-- The map of the entries that a partial function leaves, with their new values. -/
theorem get?_ofList_filterMap (f : κ → ν → Option μ) (m : SortedMap κ ν) (k : κ) :
    (ofList (m.entries.filterMap fun e => (f e.1 e.2).map (e.1, ·))).get? k =
      (m.get? k).bind (f k) := by
  ext v
  rw [get?_ofList, Option.bind_eq_some_iff]
  constructor
  · intro h
    obtain ⟨e, he, hv⟩ := List.mem_filterMap.1 (List.mem_reverse.1 (mem_of_lookup h))
    obtain ⟨v', hf, heq⟩ := Option.map_eq_some_iff.1 hv
    obtain ⟨rfl, rfl⟩ := Prod.mk.inj heq
    exact ⟨e.2, get?_eq_some_iff.2 he, hf⟩
  · rintro ⟨a, ha, hf⟩
    have hmem : (k, v) ∈ m.entries.filterMap fun e => (f e.1 e.2).map (e.1, ·) :=
      List.mem_filterMap.2 ⟨(k, a), get?_eq_some_iff.1 ha, by rw [hf]; rfl⟩
    have hascending : AscendingKeys (m.entries.filterMap fun e => (f e.1 e.2).map (e.1, ·)) := by
      refine List.Pairwise.filterMap _ ?_ m.ascending
      rintro a a' hlt b hb b' hb'
      obtain ⟨_, -, rfl⟩ := Option.map_eq_some_iff.1 hb
      obtain ⟨_, -, rfl⟩ := Option.map_eq_some_iff.1 hb'
      exact hlt
    rw [← get?_ofList]
    refine get?_eq_some_iff.2 ?_
    rw [entries_ofList hascending]
    exact hmem

end Lawful

end LedgerClient.SortedMap
