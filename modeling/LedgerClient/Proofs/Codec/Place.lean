import LedgerClient.Proofs.Codec.Choice
import LedgerClient.Proofs.Codec.Reading
import LedgerClient.Proofs.Data.SortedMap

/-!
# Places in an encoding

Where something stands in the encoding of a type: the bytes before it, and where it is found in
the value that is read. What comes of reading the whole depends only on what comes of reading
there. So a fault there is a fault of the whole, and the whole holds what was read there. In a
map the last pair with a key counts.

## Main results

* `Codec.Place.goesOn`: reading through a place.
* `Codec.Place.last_pairs`, `Codec.Place.order_irrelevant`: what a value holds where a map stands.
* `Codec.Within.text_error`, `Codec.Within.list_error`: a length that is too large, anywhere.
-/

namespace LedgerClient.Codec

/-- Some bytes are read as a value, whatever stands behind them. -/
def Spells {α : Type} (read : Bytes → Decoded α) (bytes : Bytes) (a : α) : Prop :=
  ∀ tail, read (bytes ++ tail) = .ok (a, tail)

/-- A place in the values of a codec: the bytes in front of it, the codec of what stands there,
and where this is found in a value. -/
inductive Place : {α β : Type} → Codec α → Bytes → Codec β → (α → Option β) → Prop
  | here {α : Type} (c : Codec α) : Place c [] c some
  | iso {α α' β : Type} {c : Codec α} {pack : α → α'} {unpack : α' → α} {before : Bytes}
      {x : Codec β} {get : α → Option β} (unpack_pack : ∀ a, unpack (pack a) = a)
      (h : Place c before x get) : Place (c.iso pack unpack) before x fun a => get (unpack a)
  | first {α α' β : Type} {c : Codec α} {before : Bytes} {x : Codec β} {get : α → Option β}
      (d : Codec α') (h : Place c before x get) : Place (c.pair d) before x fun a => get a.1
  | second {α α' β : Type} {c : Codec α} {d : Codec α'} {bytes before : Bytes} {a : α}
      {x : Codec β} {get : α' → Option β} (hbytes : Spells c.decode bytes a)
      (h : Place d before x get) : Place (c.pair d) (bytes ++ before) x fun a => get a.2
  | present {α β : Type} {c : Codec α} {before : Bytes} {x : Codec β} {get : α → Option β}
      (h : Place c before x get) : Place (option c) (1 :: before) x fun o => o.bind get
  | element {α β : Type} {c : Codec α} {bytes before : Bytes} {as : List α} {more : Nat}
      {x : Codec β} {get : α → Option β} (hcount : as.length + (more + 1) < capacity 8)
      (hbytes : Spells (readMany c as.length) bytes as) (h : Place c before x get) :
      Place (list c) (writeLow 8 (as.length + (more + 1)) ++ (bytes ++ before)) x
        fun l => l[as.length]?.bind get
  | variant {α β : Type} {variants : List (Variant α)} {v : Variant α} {i : Nat} {before : Bytes}
      {x : Codec β} {get : v.Content → Option β} (hi : i < capacity 4)
      (hv : variants[i]? = some v)
      (project_inject : ∀ content, v.project (v.inject content) = some content)
      (h : Place v.codec before x get) :
      Place (choice variants) (writeLow 4 i ++ before) x fun a => (v.project a).bind get

/-- A place, or a place in one of the pairs of a map. -/
inductive Within : {α β : Type} → Codec α → Bytes → Codec β → Prop
  | place {α β : Type} {c : Codec α} {before : Bytes} {x : Codec β} {get : α → Option β}
      (h : Place c before x get) : Within c before x
  | pairs {α β κ ν : Type} [Ord κ] [Std.TransOrd κ] [Std.LawfulEqOrd κ] {c : Codec α}
      {key : Codec κ} {value : Codec ν} {before bytes : Bytes} {x : Codec β}
      {get : α → Option (SortedMap κ ν)} (h : Place c before (sortedMap key value) get)
      (hpairs : Within (list (key.pair value)) bytes x) : Within c (before ++ bytes) x

/-! ### Reading through a place -/

/-- Reading the whole is reading at a place, and then going on in a way that does not depend on
the bytes there. What was read there stands in the whole. -/
structure GoesOn {α β : Type} (c : Codec α) (before : Bytes) (x : Codec β) (get : α → Option β)
    (next : β → Bytes → Decoded α) : Prop where
  decode_append : ∀ tail, c.decode (before ++ tail) = (x.decode tail).andThen next
  get_eq_some : ∀ {b mid a rest}, next b mid = .ok (a, rest) → get a = some b

namespace GoesOn

variable {α α' β : Type} {c : Codec α} {before : Bytes} {x : Codec β} {get : α → Option β}
  {next : β → Bytes → Decoded α}

theorem here (c : Codec α) : GoesOn c [] c some fun a rest => .ok (a, rest) where
  decode_append tail := by
    rw [List.nil_append]
    cases c.decode tail <;> rfl
  get_eq_some h := by
    cases h
    rfl

theorem iso {pack : α → α'} {unpack : α' → α} (unpack_pack : ∀ a, unpack (pack a) = a)
    (h : GoesOn c before x get next) :
    GoesOn (c.iso pack unpack) before x (fun a => get (unpack a)) fun b mid =>
      (next b mid).andThen fun a rest => .ok (pack a, rest) where
  decode_append tail := by
    rw [iso_decode, h.decode_append, Decoded.andThen_assoc]
  get_eq_some hnext := by
    obtain ⟨a, rest, ha, hpack⟩ := Decoded.andThen_eq_ok_iff.1 hnext
    cases hpack
    rw [unpack_pack]
    exact h.get_eq_some ha

theorem first (d : Codec α') (h : GoesOn c before x get next) :
    GoesOn (c.pair d) before x (fun a => get a.1) fun b mid =>
      (next b mid).andThen fun a rest =>
        (d.decode rest).andThen fun a' rest => .ok ((a, a'), rest) where
  decode_append tail := by
    rw [pair_decode, h.decode_append, Decoded.andThen_assoc]
  get_eq_some hnext := by
    obtain ⟨a, rest, ha, hrest⟩ := Decoded.andThen_eq_ok_iff.1 hnext
    obtain ⟨a', rest', -, hpair⟩ := Decoded.andThen_eq_ok_iff.1 hrest
    cases hpair
    exact h.get_eq_some ha

theorem second {d : Codec α'} {bytes : Bytes} {a' : α'} (hbytes : Spells d.decode bytes a')
    (h : GoesOn c before x get next) :
    GoesOn (d.pair c) (bytes ++ before) x (fun a => get a.2) fun b mid =>
      (next b mid).andThen fun a rest => .ok ((a', a), rest) where
  decode_append tail := by
    rw [pair_decode, List.append_assoc, hbytes, ← Decoded.andThen_assoc, ← h.decode_append]
    rfl
  get_eq_some hnext := by
    obtain ⟨a, rest, ha, hpair⟩ := Decoded.andThen_eq_ok_iff.1 hnext
    cases hpair
    exact h.get_eq_some ha

theorem present (h : GoesOn c before x get next) :
    GoesOn (option c) (1 :: before) x (fun o => o.bind get) fun b mid =>
      (next b mid).andThen fun a rest => .ok (some a, rest) where
  decode_append tail := by
    rw [List.cons_append, option_decode_some, h.decode_append, Decoded.andThen_assoc]
  get_eq_some hnext := by
    obtain ⟨a, rest, ha, hsome⟩ := Decoded.andThen_eq_ok_iff.1 hnext
    cases hsome
    exact h.get_eq_some ha

/-- The elements in front have been read; the one here is the first of those that are left. -/
theorem element {bytes : Bytes} {as : List α} {more : Nat}
    (hcount : as.length + (more + 1) < capacity 8) (hbytes : Spells (readMany c as.length) bytes as)
    (h : GoesOn c before x get next) :
    GoesOn (list c) (writeLow 8 (as.length + (more + 1)) ++ (bytes ++ before)) x
      (fun l => l[as.length]?.bind get) fun b mid =>
        (next b mid).andThen fun a rest =>
          (readMany c more rest).andThen fun as' rest => .ok (as ++ a :: as', rest) where
  decode_append tail := by
    rw [list_decode, List.append_assoc, readLow_writeLow hcount, List.append_assoc]
    change readMany c (as.length + (more + 1)) (bytes ++ (before ++ tail)) = _
    rw [readMany_add, hbytes]
    change (readMany c (more + 1) (before ++ tail)).andThen _ = _
    rw [readMany_succ, h.decode_append, Decoded.andThen_assoc, Decoded.andThen_assoc]
    congr 1
    funext b mid
    congr 1
    funext a rest
    rw [Decoded.andThen_assoc]
    rfl
  get_eq_some hnext := by
    obtain ⟨a, rest, ha, hrest⟩ := Decoded.andThen_eq_ok_iff.1 hnext
    obtain ⟨as', rest', -, hlist⟩ := Decoded.andThen_eq_ok_iff.1 hrest
    cases hlist
    rw [List.getElem?_append_right (Nat.le_refl _), Nat.sub_self]
    exact h.get_eq_some ha

theorem variant {variants : List (Variant α')} {v : Variant α'} {i : Nat}
    {get : v.Content → Option β} {next : β → Bytes → Decoded v.Content} (hi : i < capacity 4)
    (hv : variants[i]? = some v)
    (project_inject : ∀ content, v.project (v.inject content) = some content)
    (h : GoesOn v.codec before x get next) :
    GoesOn (choice variants) (writeLow 4 i ++ before) x (fun a => (v.project a).bind get)
      fun b mid => (next b mid).andThen fun content rest => .ok (v.inject content, rest) where
  decode_append tail := by
    rw [choice_decode, List.append_assoc, readLow_writeLow hi, ← Decoded.andThen_assoc,
      ← h.decode_append]
    simp only [Decoded.andThen, hv]
  get_eq_some hnext := by
    obtain ⟨content, rest, hcontent, hinject⟩ := Decoded.andThen_eq_ok_iff.1 hnext
    cases hinject
    rw [project_inject]
    exact h.get_eq_some hcontent

end GoesOn

section Reads

variable {α β : Type} {c : Codec α} {before : Bytes} {x : Codec β} {get : α → Option β}

/-- The whole is read through each of its places. -/
theorem Place.goesOn (h : Place c before x get) : ∃ next, GoesOn c before x get next := by
  induction h with
  | here c => exact ⟨_, .here c⟩
  | iso unpack_pack _ ih =>
      obtain ⟨next, hnext⟩ := ih
      exact ⟨_, hnext.iso unpack_pack⟩
  | first d _ ih =>
      obtain ⟨next, hnext⟩ := ih
      exact ⟨_, hnext.first d⟩
  | second hbytes _ ih =>
      obtain ⟨next, hnext⟩ := ih
      exact ⟨_, hnext.second hbytes⟩
  | present _ ih =>
      obtain ⟨next, hnext⟩ := ih
      exact ⟨_, hnext.present⟩
  | element hcount hbytes _ ih =>
      obtain ⟨next, hnext⟩ := ih
      exact ⟨_, hnext.element hcount hbytes⟩
  | variant hi hv project_inject _ ih =>
      obtain ⟨next, hnext⟩ := ih
      exact ⟨_, hnext.variant hi hv project_inject⟩

/-- Reading the whole is reading at some point within, and then going on. -/
theorem Within.reads (h : Within c before x) :
    ∃ next : β → Bytes → Decoded α,
      ∀ tail, c.decode (before ++ tail) = (x.decode tail).andThen next := by
  induction h with
  | place h =>
      obtain ⟨next, hnext⟩ := h.goesOn
      exact ⟨next, hnext.decode_append⟩
  | pairs h _ ih =>
      obtain ⟨next, hnext⟩ := h.goesOn
      obtain ⟨next', hpairs⟩ := ih
      refine ⟨fun b mid => ((next' b mid).andThen fun pairs rest =>
        .ok (SortedMap.ofList pairs, rest)).andThen next, ?_⟩
      intro tail
      rw [List.append_assoc, hnext.decode_append, sortedMap, iso_decode, hpairs,
        Decoded.andThen_assoc, Decoded.andThen_assoc]
      congr 1
      funext b mid
      rw [Decoded.andThen_assoc]

/-- A fault within is a fault of the whole. -/
theorem Within.error {tail : Bytes} {fault : DecodeFault} (h : Within c before x)
    (hfault : x.decode tail = .error fault) : c.decode (before ++ tail) = .error fault := by
  obtain ⟨next, hdecode⟩ := h.reads
  rw [hdecode, hfault]
  rfl

end Reads

/-! ### Maps -/

section Maps

variable {α κ ν : Type} [Ord κ] [Std.TransOrd κ] [Std.LawfulEqOrd κ] [DecidableEq κ] {c : Codec α}
  {key : Codec κ} {value : Codec ν} {before : Bytes} {get : α → Option (SortedMap κ ν)}

/-- Where a map stands pairs are read, and the value holds for each key the last one. -/
theorem Place.last_pairs (h : Place c before (sortedMap key value) get) {tail rest : Bytes} {a : α}
    (hdecode : c.decode (before ++ tail) = .ok (a, rest)) :
    ∃ pairs mid m, (list (key.pair value)).decode tail = .ok (pairs, mid) ∧ get a = some m ∧
      ∀ k, m.get? k = SortedMap.lookup k pairs.reverse := by
  obtain ⟨next, hnext⟩ := h.goesOn
  rw [hnext.decode_append] at hdecode
  obtain ⟨m, mid, hm, ha⟩ := Decoded.andThen_eq_ok_iff.1 hdecode
  obtain ⟨pairs, hpairs, rfl⟩ := iso_decode_eq_ok_iff.1 hm
  exact ⟨pairs, mid, _, hpairs, hnext.get_eq_some ha, SortedMap.get?_ofList pairs⟩

/-- The order of pairs with different keys does not matter. -/
theorem Place.order_irrelevant (h : Place c before (sortedMap key value) get)
    {tail tail' rest : Bytes} {pairs pairs' : List (κ × ν)}
    (hpairs : (list (key.pair value)).decode tail = .ok (pairs, rest))
    (hpairs' : (list (key.pair value)).decode tail' = .ok (pairs', rest))
    (horder : ∀ k, (pairs.filter fun e => e.1 = k) = pairs'.filter fun e => e.1 = k) :
    c.decode (before ++ tail) = c.decode (before ++ tail') := by
  obtain ⟨next, hnext⟩ := h.goesOn
  have hsame : SortedMap.ofList pairs = SortedMap.ofList pairs' :=
    SortedMap.ofList_eq_of_filter horder
  rw [hnext.decode_append, hnext.decode_append, sortedMap, iso_decode, iso_decode, hpairs, hpairs']
  change next (SortedMap.ofList pairs) rest = next (SortedMap.ofList pairs') rest
  rw [hsame]

end Maps

/-- Somewhere in the values of a codec stands a map. -/
def HasMap {α : Type} (c : Codec α) : Prop :=
  ∃ (κ ν : Type) (_ : Ord κ) (_ : Std.TransOrd κ) (_ : Std.LawfulEqOrd κ) (key : Codec κ)
    (value : Codec ν) (before : Bytes) (get : α → Option (SortedMap κ ν)),
    Place c before (sortedMap key value) get

namespace HasMap

variable {α β : Type} {c : Codec α} {d : Codec β}

theorem here {κ ν : Type} [o : Ord κ] [ht : Std.TransOrd κ] [hl : Std.LawfulEqOrd κ]
    (key : Codec κ) (value : Codec ν) : HasMap (sortedMap key value) :=
  ⟨κ, ν, o, ht, hl, key, value, [], some, .here _⟩

theorem iso {pack : α → β} {unpack : β → α} (h : HasMap c)
    (unpack_pack : ∀ a, unpack (pack a) = a := by intro a; rfl) : HasMap (c.iso pack unpack) := by
  obtain ⟨κ, ν, _, _, _, key, value, before, get, h⟩ := h
  exact ⟨κ, ν, _, _, _, key, value, before, _, h.iso unpack_pack⟩

theorem first (h : HasMap c) : HasMap (c.pair d) := by
  obtain ⟨κ, ν, _, _, _, key, value, before, get, h⟩ := h
  exact ⟨κ, ν, _, _, _, key, value, before, _, h.first d⟩

/-- A map stands behind a part if this part has a value. -/
theorem second [hd : d.Lawful] (h : HasMap c) (b : β)
    (hb : (d.encode b).length < capacity 8 := by decide) : HasMap (d.pair c) := by
  obtain ⟨κ, ν, _, _, _, key, value, before, get, h⟩ := h
  exact ⟨κ, ν, _, _, _, key, value, _, _, h.second (hd.decode_encode (hd.fits_of_length hb))⟩

theorem list (h : HasMap c) : HasMap (list c) := by
  obtain ⟨κ, ν, _, _, _, key, value, before, get, h⟩ := h
  have hcount : ([] : List α).length + (0 + 1) < capacity 8 := by
    rw [List.length_nil]
    decide
  have hnil : Spells (readMany c ([] : List α).length) [] [] := fun _ => rfl
  exact ⟨κ, ν, _, _, _, key, value, _, _, h.element hcount hnil⟩

theorem choice {variants : List (Variant α)} (i : Nat) {v : Variant α} (h : HasMap v.codec)
    (sound : ∀ v ∈ variants, v.Sound) (hi : i < capacity 4 := by decide)
    (hv : variants[i]? = some v := by rfl) : HasMap (choice variants) := by
  obtain ⟨κ, ν, _, _, _, key, value, before, get, h⟩ := h
  have hsound : v.Sound := sound v (List.mem_of_getElem? hv)
  exact ⟨κ, ν, _, _, _, key, value, _, _,
    h.variant hi hv fun content => (hsound.project_eq_some_iff _ content).2 rfl⟩

end HasMap

/-! ### Lengths that are too large -/

section Lengths

variable {α β : Type} {c : Codec α} {before rest : Bytes} {n : Nat}

/-- A text's length that exceeds what is left makes reading the whole fail. -/
theorem Within.text_error (h : Within c before text) (hn : n < capacity 8)
    (hlength : rest.length < n) :
    c.decode (before ++ (writeLow 8 n ++ rest)) = .error .textPastEnd :=
  h.error (text_decode_error hn hlength)

/-- A count that asks for more values than the bytes can hold makes reading the whole fail. -/
theorem Within.list_error {x : Codec β} {width : Nat} (h : Within c before (list x))
    (hwide : x.Wide width) (hn : n < capacity 8) (hlength : rest.length < n * width) :
    ∃ fault, c.decode (before ++ (writeLow 8 n ++ rest)) = .error fault := by
  obtain ⟨fault, hfault⟩ := hwide.list_decode_error hn hlength
  exact ⟨fault, h.error hfault⟩

end Lengths

end LedgerClient.Codec
