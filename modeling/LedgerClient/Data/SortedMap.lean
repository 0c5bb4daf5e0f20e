/-!
# Maps with sorted keys

A finite map is the list of its entries in strictly ascending key order, so two maps with
the same entries are equal. Writing a map lists the entries in that order.

## Main results

* `SortedMap.entries_insert_sorted`: inserting keeps the keys strictly ascending.
* `SortedMap.get?_insert`: inserting changes the value of its key and no other one.
* `SortedMap.ofList_entries`: a map is the map of its entries.
-/

namespace LedgerClient

/-- Entries whose keys are strictly ascending. -/
def AscendingKeys {κ ν : Type} [Ord κ] (entries : List (κ × ν)) : Prop :=
  entries.Pairwise fun a b => compare a.1 b.1 = .lt

/-- A finite map, held as its entries in ascending key order. -/
structure SortedMap (κ ν : Type) [Ord κ] where
  entries : List (κ × ν)
  ascending : AscendingKeys entries

namespace SortedMap

section Lists

variable {κ ν : Type} [Ord κ]

/-- Puts an entry into its place; an entry with the same key is replaced. -/
def insertEntry (k : κ) (v : ν) : List (κ × ν) → List (κ × ν)
  | [] => [(k, v)]
  | (k', v') :: rest =>
    match compare k k' with
    | .lt => (k, v) :: (k', v') :: rest
    | .eq => (k, v) :: rest
    | .gt => (k', v') :: insertEntry k v rest

/-- The value of the first entry with an equal key. -/
def lookup (k : κ) : List (κ × ν) → Option ν
  | [] => none
  | (k', v) :: rest => if compare k k' = .eq then some v else lookup k rest

/-- Every key of an extended list is the new key or one of the old ones. -/
theorem mem_insertEntry {k : κ} {v : ν} {entries : List (κ × ν)} {e : κ × ν}
    (h : e ∈ insertEntry k v entries) : e = (k, v) ∨ e ∈ entries := by
  induction entries with
  | nil => simpa [insertEntry] using h
  | cons head rest ih =>
    obtain ⟨k', v'⟩ := head
    simp only [insertEntry] at h
    split at h
    · simpa using h
    · rcases List.mem_cons.1 h with h | h
      · exact .inl h
      · exact .inr (List.mem_cons_of_mem _ h)
    · rcases List.mem_cons.1 h with h | h
      · exact .inr (h ▸ List.mem_cons_self)
      · exact (ih h).imp id (List.mem_cons_of_mem _)

/-- A key that was put into its place has the new value, any other one the old value. -/
theorem lookup_insertEntry [DecidableEq κ] [Std.LawfulEqOrd κ] (k k' : κ) (v : ν)
    (entries : List (κ × ν)) :
    lookup k' (insertEntry k v entries) = if k' = k then some v else lookup k' entries := by
  induction entries with
  | nil => simp [insertEntry, lookup]
  | cons head rest ih =>
    obtain ⟨k₁, v₁⟩ := head
    simp only [insertEntry]
    split
    case h_1 => simp [lookup]
    case h_2 heq =>
      obtain rfl : k = k₁ := Std.LawfulEqCmp.eq_of_compare heq
      by_cases hk : k' = k
      · simp [lookup, hk]
      · simp [lookup, hk]
    case h_3 hgt =>
      have hne : k ≠ k₁ := by
        rintro rfl
        simp at hgt
      by_cases hk : k' = k₁
      · simp [lookup, hk, hne.symm]
      · simp [lookup, hk, ih]

/-- At most one entry is added. -/
theorem length_insertEntry_le (k : κ) (v : ν) (entries : List (κ × ν)) :
    (insertEntry k v entries).length ≤ entries.length + 1 := by
  induction entries with
  | nil => simp [insertEntry]
  | cons head rest ih =>
    simp only [insertEntry]
    split <;> simp only [List.length_cons] <;> omega

variable [Std.TransOrd κ]

/-- A key above all others is put at the end. -/
theorem insertEntry_of_forall_lt {k : κ} {v : ν} {entries : List (κ × ν)}
    (h : ∀ e ∈ entries, compare e.1 k = .lt) : insertEntry k v entries = entries ++ [(k, v)] := by
  induction entries with
  | nil => rfl
  | cons head rest ih =>
    have hgt : compare k head.1 = .gt := Std.OrientedCmp.gt_of_lt (h head List.mem_cons_self)
    simp only [insertEntry, hgt, List.cons_append]
    rw [ih fun e he => h e (List.mem_cons_of_mem _ he)]

variable [Std.LawfulEqOrd κ]

/-- Inserting keeps the keys strictly ascending. -/
theorem entries_insert_sorted {k : κ} {v : ν} {entries : List (κ × ν)}
    (h : AscendingKeys entries) : AscendingKeys (insertEntry k v entries) := by
  induction entries with
  | nil => simp [insertEntry, AscendingKeys]
  | cons head rest ih =>
    obtain ⟨k', v'⟩ := head
    obtain ⟨hhead, hrest⟩ := List.pairwise_cons.1 h
    simp only [insertEntry]
    split
    case h_1 hlt =>
      refine List.pairwise_cons.2 ⟨?_, h⟩
      intro e he
      rcases List.mem_cons.1 he with he | he
      · exact he ▸ hlt
      · exact Std.TransCmp.lt_trans hlt (hhead e he)
    case h_2 heq =>
      have hk : k = k' := Std.LawfulEqCmp.eq_of_compare heq
      exact List.pairwise_cons.2 ⟨fun e he => hk ▸ hhead e he, hrest⟩
    case h_3 hgt =>
      refine List.pairwise_cons.2 ⟨?_, ih hrest⟩
      intro e he
      rcases mem_insertEntry he with he | he
      · subst he
        exact Std.OrientedCmp.lt_of_gt hgt
      · exact hhead e he

end Lists

variable {κ ν μ : Type} [Ord κ]

/-- Maps with the same entries are equal. -/
@[ext] theorem ext {m n : SortedMap κ ν} (h : m.entries = n.entries) : m = n := by
  cases m
  cases n
  cases h
  rfl

instance [DecidableEq κ] [DecidableEq ν] : DecidableEq (SortedMap κ ν) := fun m n =>
  decidable_of_iff (m.entries = n.entries) ⟨ext, fun h => h ▸ rfl⟩

/-- The map without entries. -/
def empty : SortedMap κ ν := ⟨[], List.Pairwise.nil⟩

instance [Repr κ] [Repr ν] : Repr (SortedMap κ ν) where
  reprPrec m p := reprPrec m.entries p

instance : Inhabited (SortedMap κ ν) := ⟨empty⟩

instance : EmptyCollection (SortedMap κ ν) := ⟨empty⟩

/-- The value a key has. -/
def get? (m : SortedMap κ ν) (k : κ) : Option ν :=
  lookup k m.entries

/-- Whether a key has a value. -/
def contains (m : SortedMap κ ν) (k : κ) : Bool :=
  (m.get? k).isSome

/-- The keys in ascending order. -/
def keys (m : SortedMap κ ν) : List κ :=
  m.entries.map Prod.fst

/-- The values in the order of their keys. -/
def values (m : SortedMap κ ν) : List ν :=
  m.entries.map Prod.snd

/-- The map with every value changed by `f`. -/
def mapValues (f : κ → ν → μ) (m : SortedMap κ ν) : SortedMap κ μ where
  entries := m.entries.map fun e => (e.1, f e.1 e.2)
  ascending := by
    simpa only [AscendingKeys, List.pairwise_map] using m.ascending

/-- Changing the values keeps the keys. -/
@[simp] theorem keys_mapValues (f : κ → ν → μ) (m : SortedMap κ ν) :
    (m.mapValues f).keys = m.keys := by
  rw [keys, mapValues, List.map_map]
  rfl

/-- The entries that satisfy a condition. -/
def filter (p : κ → ν → Bool) (m : SortedMap κ ν) : SortedMap κ ν where
  entries := m.entries.filter fun e => p e.1 e.2
  ascending := List.Pairwise.filter _ m.ascending

/-- The map without a key. -/
def erase (m : SortedMap κ ν) (k : κ) : SortedMap κ ν :=
  m.filter fun k' _ => compare k k' != .eq

/-- Without a key only this key has lost its value. -/
theorem get?_erase [DecidableEq κ] [Std.LawfulEqOrd κ] (m : SortedMap κ ν) (k k' : κ) :
    (m.erase k).get? k' = if k' = k then none else m.get? k' := by
  simp only [get?, erase, filter]
  induction m.entries with
  | nil => simp [lookup]
  | cons head rest ih =>
    obtain ⟨k₁, v₁⟩ := head
    by_cases hk : k = k₁
    · subst hk
      rw [List.filter_cons_of_neg (by simp), ih]
      by_cases hk' : k' = k
      · simp [hk']
      · simp [lookup, hk']
    · rw [List.filter_cons_of_pos (by simp [hk])]
      by_cases hk' : k' = k₁
      · simp [lookup, hk', Ne.symm hk]
      · simp [lookup, hk', ih]

variable [Std.TransOrd κ] [Std.LawfulEqOrd κ]

/-- The map with a key's value set. -/
def insert (m : SortedMap κ ν) (k : κ) (v : ν) : SortedMap κ ν where
  entries := insertEntry k v m.entries
  ascending := entries_insert_sorted m.ascending

/-- Inserting changes the value of its key and no other one. -/
theorem get?_insert [DecidableEq κ] (m : SortedMap κ ν) (k k' : κ) (v : ν) :
    (m.insert k v).get? k' = if k' = k then some v else m.get? k' :=
  lookup_insertEntry k k' v m.entries

/-- The map of a list of pairs; of several pairs with one key the last one counts. -/
def ofList (pairs : List (κ × ν)) : SortedMap κ ν :=
  pairs.foldl (fun m e => m.insert e.1 e.2) empty

/-- Entries added to a map in ascending order, all above its own, stand behind them. -/
theorem entries_foldl_insert {pairs : List (κ × ν)} {m : SortedMap κ ν}
    (h : AscendingKeys (m.entries ++ pairs)) :
    (pairs.foldl (fun m e => m.insert e.1 e.2) m).entries = m.entries ++ pairs := by
  induction pairs generalizing m with
  | nil => exact (List.append_nil _).symm
  | cons e pairs ih =>
    have hlast : (m.insert e.1 e.2).entries = m.entries ++ [e] :=
      insertEntry_of_forall_lt fun a ha =>
        (List.pairwise_append.1 h).2.2 a ha e List.mem_cons_self
    have happend : m.entries ++ e :: pairs = (m.insert e.1 e.2).entries ++ pairs := by
      rw [hlast, List.append_assoc, List.singleton_append]
    rw [List.foldl_cons, ih (happend ▸ h), happend]

/-- A map is the map of its entries. -/
theorem ofList_entries (m : SortedMap κ ν) : ofList m.entries = m :=
  ext (entries_foldl_insert m.ascending)

/-- Entries added to a map are all it has beside its own. -/
theorem mem_foldl_insert {pairs : List (κ × ν)} {m : SortedMap κ ν} {e : κ × ν}
    (h : e ∈ (pairs.foldl (fun m e => m.insert e.1 e.2) m).entries) :
    e ∈ m.entries ∨ e ∈ pairs := by
  induction pairs generalizing m with
  | nil => exact .inl h
  | cons a pairs ih =>
    rcases ih h with h | h
    · rcases mem_insertEntry h with rfl | h
      · exact .inr List.mem_cons_self
      · exact .inl h
    · exact .inr (List.mem_cons_of_mem _ h)

/-- Every entry of a map of pairs is one of the pairs. -/
theorem mem_of_mem_ofList {pairs : List (κ × ν)} {e : κ × ν} (h : e ∈ (ofList pairs).entries) :
    e ∈ pairs :=
  (mem_foldl_insert h).resolve_left List.not_mem_nil

/-- Adding pairs to a map adds at most as many entries. -/
theorem length_foldl_insert_le (pairs : List (κ × ν)) (m : SortedMap κ ν) :
    (pairs.foldl (fun m e => m.insert e.1 e.2) m).entries.length ≤
      m.entries.length + pairs.length := by
  induction pairs generalizing m with
  | nil => exact Nat.le_refl _
  | cons e pairs ih =>
    have hinsert : (m.insert e.1 e.2).entries.length ≤ m.entries.length + 1 :=
      length_insertEntry_le e.1 e.2 m.entries
    have hrest := ih (m.insert e.1 e.2)
    rw [List.foldl_cons, List.length_cons]
    omega

/-- A map of pairs has at most as many entries. -/
theorem length_ofList_le (pairs : List (κ × ν)) :
    (ofList pairs).entries.length ≤ pairs.length := by
  have h : (ofList pairs).entries.length ≤ (empty : SortedMap κ ν).entries.length + pairs.length :=
    length_foldl_insert_le pairs empty
  rwa [show (empty : SortedMap κ ν).entries.length = 0 from rfl, Nat.zero_add] at h

/-- The map with the entries of another one added, which win. -/
def union (m n : SortedMap κ ν) : SortedMap κ ν :=
  n.entries.foldl (fun m e => m.insert e.1 e.2) m

/-- The map with a key's value changed by `f`, which gets the old one if there is any. -/
def update (m : SortedMap κ ν) (k : κ) (f : Option ν → ν) : SortedMap κ ν :=
  m.insert k (f (m.get? k))

end SortedMap

end LedgerClient
