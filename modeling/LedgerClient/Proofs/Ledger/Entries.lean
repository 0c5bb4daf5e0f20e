import LedgerClient.Proofs.Ledger.Sample
import Mathlib.Data.Prod.Lex

/-!
# A block entry by entry

A block is decoded by reading each of its entries on its own and then putting the outcomes at
their positions, each with the verdict that the block's metadata has for that position. What is
decoded at a position therefore depends on one entry and one byte only, and a block that is not
decoded fails as its first bad entry does.

## Main results

* `DecodedBlock.decode_eq_map`: entries are read on their own and then placed.
* `DecodedBlock.decode_entrywise`: when a block is decoded, how it fails, and what it tells.
-/

namespace LedgerClient

/-! ### Entries -/

/-- A number is that of a type exactly if it leads to the type. -/
theorem HeaderType.ofCode?_eq_some_iff {n : Int32} {t : HeaderType} :
    ofCode? n = some t ↔ n = t.code := by
  constructor
  · intro h
    exact (eq_of_beq (List.find?_some (p := fun t : HeaderType => t.code == n) h)).symm
  · rintro rfl
    exact ofCode?_code t

namespace DecodedTransaction

/-- What an entry tells on its own, as the first one of a block without a filter. -/
def alone (raw : Bytes) : Except DecodeError DecodedTransaction :=
  decode 0 raw ValidationCode.notValidated.code

/-- The transaction at a position of a block, with a verdict on it. -/
def placed (index : Nat) (code : Int32) (t : DecodedTransaction) : DecodedTransaction :=
  { t with index, validationCode := code }

/-- An entry is read in the same way at every position and with every verdict. -/
theorem decode_eq_map (index : Nat) (raw : Bytes) (code : Int32) :
    decode index raw code = placed index code <$> alone raw := by
  rw [alone, decode, decode]
  simp only [map_bind]
  refine bind_congr fun envelope => bind_congr fun payload => bind_congr fun header => ?_
  split
  · simp only [map_bind]
    rfl
  · rfl

/-- What an entry tells comes from its channel header and the actions in its data. -/
theorem alone_eq_ok_iff {raw : Bytes} {t : DecodedTransaction} :
    alone raw = .ok t ↔
      ∃ (envelope : Envelope) (payload : Payload) (header : ChannelHeader)
        (actions : List DecodedAction),
        Wire.decode raw = .ok envelope ∧ Wire.decode envelope.payload = .ok payload ∧
        Wire.decode payload.header.channelHeader = .ok header ∧
        actionsOf header.kind? payload.data = .ok actions ∧
        t =
          { index := 0
            txId := header.txId
            channelId := header.channelId
            headerType := header.headerType
            timestamp := header.timestamp
            validationCode := ValidationCode.notValidated.code
            actions } := by
  constructor
  · intro h
    obtain ⟨envelope, henvelope, h⟩ := bind_eq_ok_iff.mp h
    obtain ⟨payload, hpayload, h⟩ := bind_eq_ok_iff.mp h
    obtain ⟨header, hheader, h⟩ := bind_eq_ok_iff.mp h
    refine ⟨envelope, payload, header, ?_⟩
    rw [actionsOf]
    split at h
    · next hkind =>
      obtain ⟨transaction, htransaction, h⟩ := bind_eq_ok_iff.mp h
      obtain ⟨actions, hactions, h⟩ := bind_eq_ok_iff.mp h
      rw [if_pos hkind]
      exact ⟨actions, henvelope, hpayload, hheader,
        bind_eq_ok_iff.mpr ⟨transaction, htransaction, hactions⟩, (Except.ok.inj h).symm⟩
    · next hkind =>
      rw [if_neg hkind]
      exact ⟨[], henvelope, hpayload, hheader, rfl, (Except.ok.inj h).symm⟩
  · rintro ⟨envelope, payload, header, actions, henvelope, hpayload, hheader, hactions, rfl⟩
    refine bind_eq_ok_iff.mpr ⟨envelope, henvelope, ?_⟩
    refine bind_eq_ok_iff.mpr ⟨payload, hpayload, bind_eq_ok_iff.mpr ⟨header, hheader, ?_⟩⟩
    rw [actionsOf] at hactions
    split at hactions
    · next hkind =>
      obtain ⟨transaction, htransaction, hall⟩ := bind_eq_ok_iff.mp hactions
      rw [if_pos hkind]
      exact bind_eq_ok_iff.mpr
        ⟨transaction, htransaction, bind_eq_ok_iff.mpr ⟨actions, hall, rfl⟩⟩
    · next hkind =>
      cases hactions
      rw [if_neg hkind]
      rfl

/-- In data that is not of a transaction of an endorser there are no actions. -/
theorem actionsOf_eq_nil {header : ChannelHeader} (data : Bytes)
    (h : header.headerType ≠ HeaderType.endorserTransaction.code) :
    actionsOf header.kind? data = .ok [] :=
  if_neg (mt HeaderType.ofCode?_eq_some_iff.mp h)

/-- Only a transaction of an endorser has actions. -/
theorem actions_of_alone {raw : Bytes} {t : DecodedTransaction} (h : alone raw = .ok t)
    (hkind : t.isEndorserTransaction = false) : t.actions = [] := by
  obtain ⟨_, payload, header, actions, -, -, -, hactions, rfl⟩ := alone_eq_ok_iff.mp h
  have hnone := actionsOf_eq_nil payload.data (ne_of_beq_false hkind)
  exact Except.ok.inj (hactions.symm.trans hnone)

end DecodedTransaction

/-! ### Blocks -/

/-- The verdict on the entry at a position: the byte at that position in the third metadata
entry, or, if there is no such entry or it is too short, that nothing was validated. -/
def Block.verdict (b : Block) (index : Nat) : Int32 :=
  match (b.metadata.metadata[transactionsFilterIndex]?).bind (·[index]?) with
  | some byte => Int32.ofNat byte.toNat
  | none => ValidationCode.notValidated.code

namespace DecodedBlock

open DecodedTransaction

theorem codeAt_transactionsFilter (b : Block) (index : Nat) :
    codeAt b.transactionsFilter index = b.verdict index := by
  rw [codeAt, Block.transactionsFilter, Block.verdict]
  cases b.metadata.metadata[Block.transactionsFilterIndex]? with
  | none => rfl
  | some filter => rfl

/-- Transactions at the positions from a given one on. -/
def placedFrom (filter : Bytes) (index : Nat) (ts : List DecodedTransaction) :
    List DecodedTransaction :=
  (ts.zipIdx index).map fun (t, i) => t.placed i (codeAt filter i)

/-- Entries are read on their own and then placed. -/
theorem decodeEntries_eq_map (filter : Bytes) (index : Nat) (raws : List Bytes) :
    decodeEntries filter index raws = placedFrom filter index <$> raws.mapM alone := by
  induction raws generalizing index with
  | nil => rfl
  | cons raw rest ih =>
      rw [decodeEntries, List.mapM_cons, DecodedTransaction.decode_eq_map, ih]
      simp only [map_bind, bind_map_left]
      rfl

/-- The decoded block with given transactions. -/
def ofTransactions (block : Block) (ts : List DecodedTransaction) : DecodedBlock :=
  { number := ⟨block.header.number⟩
    previousHash := block.header.previousHash
    dataHash := block.header.dataHash
    transactions := placedFrom block.transactionsFilter 0 ts }

/-- The entries of a block are read on their own, and then placed. -/
theorem decode_eq_map (block : Block) :
    decode block = ofTransactions block <$> block.data.data.mapM alone := by
  rw [decode, decodeEntries_eq_map, bind_map_left]
  rfl

/-! ### Events -/

/-- At a place, which is the position of a transaction and of an action in it, the block tells
of an event. -/
def EventAt (b : DecodedBlock) (place : Nat × Nat) (told : DecodedTransaction × ChaincodeEvent) :
    Prop :=
  b.transactions[place.1]? = some told.1 ∧
    ∃ action, told.1.actions[place.2]? = some action ∧ action.chaincodeEvent = some told.2

/-- The events of a block with the places where it tells of them. -/
def located (b : DecodedBlock) : List ((Nat × Nat) × DecodedTransaction × ChaincodeEvent) :=
  b.transactions.zipIdx.flatMap fun (t, i) => t.actions.zipIdx.filterMap fun (action, j) =>
    action.chaincodeEvent.map fun event => ((i, j), t, event)

theorem map_snd_located (b : DecodedBlock) : b.located.map Prod.snd = b.chaincodeEvents := by
  have htransaction : ∀ (i : Nat) (t : DecodedTransaction),
      (t.actions.zipIdx.filterMap fun (action, j) =>
        action.chaincodeEvent.map fun event => ((i, j), t, event)).map Prod.snd =
      t.events.map (t, ·) := by
    intro i t
    rw [DecodedTransaction.events, List.map_filterMap, List.map_filterMap]
    conv_rhs => rw [← List.zipIdx_map_fst 0 t.actions, List.filterMap_map]
    refine List.filterMap_congr fun x _ => ?_
    simp only [Function.comp_apply, Option.map_map]
    rfl
  rw [located, List.map_flatMap, chaincodeEvents]
  conv_rhs => rw [← List.zipIdx_map_fst 0 b.transactions, List.flatMap_map]
  exact congrArg (List.flatMap · _) (funext fun x => htransaction x.2 x.1)

theorem mem_located {b : DecodedBlock} {place : Nat × Nat}
    {told : DecodedTransaction × ChaincodeEvent} :
    (place, told) ∈ b.located ↔ b.EventAt place told := by
  simp only [located, EventAt, List.mem_flatMap, List.mem_filterMap, Option.map_eq_some_iff]
  constructor
  · rintro ⟨⟨t, i⟩, ht, ⟨action, j⟩, haction, event, hevent, h⟩
    cases h
    exact ⟨List.mem_zipIdx_iff_getElem?.mp ht, action,
      List.mem_zipIdx_iff_getElem?.mp haction, hevent⟩
  · obtain ⟨i, j⟩ := place
    obtain ⟨t, event⟩ := told
    rintro ⟨ht, action, haction, hevent⟩
    exact ⟨(t, i), List.mem_zipIdx_iff_getElem?.mpr ht, (action, j),
      List.mem_zipIdx_iff_getElem?.mpr haction, event, hevent, rfl⟩

/-- Positions ascend. -/
theorem pairwise_snd_zipIdx {α : Type} (xs : List α) :
    xs.zipIdx.Pairwise fun x y => x.2 < y.2 := by
  rw [← List.pairwise_map (f := Prod.snd), List.zipIdx_map_snd]
  exact List.pairwise_lt_range'

/-- Places ascend, by transactions and, in each transaction, by actions. -/
theorem pairwise_located (b : DecodedBlock) :
    b.located.Pairwise fun x y => toLex x.1 < toLex y.1 := by
  rw [located, List.pairwise_flatMap]
  refine ⟨?_, ?_⟩
  · rintro ⟨t, i⟩ -
    rw [List.pairwise_filterMap]
    refine (pairwise_snd_zipIdx t.actions).imp ?_
    intro x y hxy _ hx _ hy
    obtain ⟨_, -, rfl⟩ := Option.map_eq_some_iff.mp hx
    obtain ⟨_, -, rfl⟩ := Option.map_eq_some_iff.mp hy
    exact Prod.Lex.toLex_lt_toLex.mpr (.inr ⟨rfl, hxy⟩)
  · refine (pairwise_snd_zipIdx b.transactions).imp ?_
    intro x y hxy _ hx _ hy
    obtain ⟨_, -, hx⟩ := List.mem_filterMap.mp hx
    obtain ⟨_, -, hy⟩ := List.mem_filterMap.mp hy
    obtain ⟨_, -, rfl⟩ := Option.map_eq_some_iff.mp hx
    obtain ⟨_, -, rfl⟩ := Option.map_eq_some_iff.mp hy
    exact Prod.Lex.toLex_lt_toLex.mpr (.inl hxy)

/-! ### What a block tells -/

/-- What is told of the entry at a position. -/
theorem getElem?_ofTransactions {block : Block} {ts : List DecodedTransaction}
    (h : block.data.data.mapM alone = .ok ts) {i : Nat} {raw : Bytes}
    (hraw : block.data.data[i]? = some raw) :
    ∃ t, alone raw = .ok t ∧
      (ofTransactions block ts).transactions[i]? = some (t.placed i (block.verdict i)) := by
  have hall := mapM_eq_ok_iff.mp h
  obtain ⟨hi, rfl⟩ := List.getElem?_eq_some_iff.mp hraw
  have hi' : i < ts.length := hall.length_eq ▸ hi
  refine ⟨ts[i], (List.forall₂_iff_get.mp hall).2 i hi hi', ?_⟩
  rw [ofTransactions, placedFrom, List.getElem?_map, List.getElem?_zipIdx,
    List.getElem?_eq_getElem hi', ← codeAt_transactionsFilter]
  simp

/-- A block is decoded exactly if each of its entries is on its own, and otherwise fails as the
first one that is not. A decoded block has one transaction for each entry, in order. What the
one at a position tells is what the entry tells on its own, with the position and the verdict
for it, and it has no actions, whatever its data, unless it is a transaction of an endorser.
The events are those of all actions, by the positions of the transactions and of the actions in
them. -/
theorem decode_entrywise (block : Block) :
    ((∃ decoded, decode block = .ok decoded) ↔
        ∀ raw ∈ block.data.data, ∃ t, alone raw = .ok t) ∧
      (∀ e, decode block = .error e ↔
        ∃ before raw after, block.data.data = before ++ raw :: after ∧
          (∀ earlier ∈ before, ∃ t, alone earlier = .ok t) ∧ alone raw = .error e) ∧
      (∀ raw ∈ block.data.data, ∀ (envelope : Envelope) (payload : Payload)
        (header : ChannelHeader), Wire.decode raw = .ok envelope →
        Wire.decode envelope.payload = .ok payload →
        Wire.decode payload.header.channelHeader = .ok header →
        header.headerType ≠ HeaderType.endorserTransaction.code →
        ∃ t, alone raw = .ok t ∧ t.actions = []) ∧
      ∀ decoded, decode block = .ok decoded →
        decoded.number = ⟨block.header.number⟩ ∧
        decoded.previousHash = block.header.previousHash ∧
        decoded.dataHash = block.header.dataHash ∧
        decoded.transactions.length = block.data.data.length ∧
        (∀ i raw, block.data.data[i]? = some raw → ∃ t, alone raw = .ok t ∧
          decoded.transactions[i]? = some (t.placed i (block.verdict i))) ∧
        (∀ t ∈ decoded.transactions, t.isEndorserTransaction = false → t.actions = []) ∧
        ∃ located : List ((Nat × Nat) × DecodedTransaction × ChaincodeEvent),
          located.map Prod.snd = decoded.chaincodeEvents ∧
          located.Pairwise (fun x y => toLex x.1 < toLex y.1) ∧
          ∀ place told, (place, told) ∈ located ↔ decoded.EventAt place told := by
  refine ⟨?_, ?_, ?_, ?_⟩
  · rw [← exists_mapM_eq_ok_iff]
    simp only [decode_eq_map, map_eq_ok_iff]
    constructor
    · rintro ⟨_, ts, hts, -⟩
      exact ⟨ts, hts⟩
    · rintro ⟨ts, hts⟩
      exact ⟨_, ts, hts, rfl⟩
  · intro e
    rw [decode_eq_map, map_eq_error_iff]
    exact mapM_eq_error_iff
  · intro raw _ envelope payload header henvelope hpayload hheader hkind
    exact ⟨_, alone_eq_ok_iff.mpr ⟨envelope, payload, header, [], henvelope, hpayload, hheader,
      actionsOf_eq_nil payload.data hkind, rfl⟩, rfl⟩
  · intro decoded h
    rw [decode_eq_map] at h
    obtain ⟨ts, hts, rfl⟩ := map_eq_ok_iff.mp h
    have hlength : (ofTransactions block ts).transactions.length = block.data.data.length := by
      rw [(mapM_eq_ok_iff.mp hts).length_eq, ofTransactions, placedFrom, List.length_map,
        List.length_zipIdx]
    refine ⟨rfl, rfl, rfl, hlength, fun i raw => getElem?_ofTransactions hts, ?_, _,
      map_snd_located _, pairwise_located _, fun place told => mem_located⟩
    intro t ht hkind
    obtain ⟨i, hi, rfl⟩ := List.getElem_of_mem ht
    obtain ⟨t₀, halone, ht₀⟩ := getElem?_ofTransactions hts
      (List.getElem?_eq_getElem (hlength ▸ hi))
    rw [List.getElem?_eq_getElem hi] at ht₀
    rw [Option.some.inj ht₀] at hkind ⊢
    have hnone : t₀.actions = [] := actions_of_alone halone hkind
    exact hnone

end DecodedBlock

end LedgerClient
