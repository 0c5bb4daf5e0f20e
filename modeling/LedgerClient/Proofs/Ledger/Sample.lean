import LedgerClient.Fixture.Ledger
import LedgerClient.Proofs.Ledger.Layers

/-!
# Sample blocks are decoded

The full form of a sample block hides its transactions under the layers of encodings that a
real block has. Decoding it brings back what the description of each transaction says: its id,
its type, its validation code, and the events of an endorser transaction.

## Main results

* `Sample.Tx.decode_envelope`: what an entry of a sample block tells.
* `Sample.decode_fullBlock`: a sample block is decoded, with its transactions in order.
-/

namespace LedgerClient

/-- The number of a type leads back to the type. -/
theorem HeaderType.ofCode?_code (t : HeaderType) : ofCode? t.code = some t := by
  cases t <;> rfl

/-- A type is that of a transaction of an endorser exactly if its number is. -/
theorem HeaderType.code_eq_endorserTransaction_iff (t : HeaderType) :
    t.code = HeaderType.endorserTransaction.code ↔ t = .endorserTransaction := by
  cases t <;> decide

namespace Sample

namespace Tx

variable (tx : Tx)

/-- What each action of the transaction raised: one of its events, or, in the single action
of a transaction without events, none. -/
def raised : List (Option ChaincodeEvent) :=
  match tx.events with
  | [] => [none]
  | events => events.map some

theorem actions_eq : tx.actions = tx.raised.map tx.action := by
  unfold actions raised
  cases tx.events with
  | nil => rfl
  | cons event rest =>
      rw [List.map_map]
      rfl

/-- The events that were raised are those of the description. -/
theorem filterMap_raised : tx.raised.filterMap id = tx.events := by
  unfold raised
  cases tx.events with
  | nil => rfl
  | cons event rest =>
      rw [List.filterMap_map]
      exact List.filterMap_some

/-- What is decoded from the action that raised a given event, or none. -/
def decodedAction (event : Option ChaincodeEvent) : DecodedAction :=
  { chaincodeId := some { name := tx.chaincode }
    response := { status := 200 }
    chaincodeEvent := event
    endorsements := [] }

/-- What is decoded from the envelope at a position of a block. -/
def decoded (index : Nat) (code : Int32) : DecodedTransaction :=
  { index
    txId := tx.txId
    channelId := channel
    headerType := tx.headerType.code
    timestamp := none
    validationCode := code
    actions :=
      if tx.headerType = .endorserTransaction then tx.raised.map tx.decodedAction else [] }

/-- An action is decoded with the event it raised. -/
theorem decode_action (event : Option ChaincodeEvent)
    (h : (tx.action event).payload.length < Codec.capacity 8) :
    DecodedAction.decode (tx.action event).payload = .ok (tx.decodedAction event) := by
  unfold action at h ⊢
  rw [DecodedAction.decode_encode rfl rfl h]
  rfl

/-- The envelope of a transaction tells the transaction. -/
theorem decode_envelope (index : Nat) (code : Int32)
    (h : tx.envelope.length < Codec.capacity 8) :
    DecodedTransaction.decode index tx.envelope code = .ok (tx.decoded index code) := by
  refine DecodedTransaction.decode_encode index code rfl rfl h fun hlength => ?_
  rw [ChannelHeader.kind?, HeaderType.ofCode?_code]
  by_cases hkind : tx.headerType = .endorserTransaction
  · simp only [hkind, if_true, tx.actions_eq] at hlength ⊢
    exact DecodedTransaction.actionsOf_encode hlength fun event _ => tx.decode_action event
  · rw [if_neg hkind, if_neg hkind, DecodedTransaction.actionsOf,
      if_neg (mt Option.some.inj hkind)]
    rfl

/-- A decoded transaction of an endorser has the events of its description. -/
theorem events_decoded (index : Nat) (code : Int32)
    (h : tx.headerType = .endorserTransaction) : (tx.decoded index code).events = tx.events := by
  rw [DecodedTransaction.events, decoded, if_pos h, List.filterMap_map]
  exact tx.filterMap_raised

end Tx

/-- What is decoded from the entries of a block from a position on. -/
def decodedFrom : (index : Nat) → List Tx → List DecodedTransaction
  | _, [] => []
  | index, tx :: rest =>
    tx.decoded index (Int32.ofNat tx.code.toNat) :: decodedFrom (index + 1) rest

/-- The entries from a position on are decoded, each with its own code. -/
theorem decodeEntries_envelopes (before : Bytes) (txs : List Tx)
    (h : ∀ tx ∈ txs, tx.envelope.length < Codec.capacity 8) :
    DecodedBlock.decodeEntries (before ++ txs.map Tx.code) before.length (txs.map Tx.envelope) =
      .ok (decodedFrom before.length txs) := by
  induction txs generalizing before with
  | nil => rfl
  | cons tx rest ih =>
      obtain ⟨htx, hrest⟩ := List.forall_mem_cons.mp h
      -- The code of the first entry belongs to what stands before the others.
      have hcodes : before ++ (tx :: rest).map Tx.code =
          (before ++ [tx.code]) ++ rest.map Tx.code := by
        rw [List.map_cons, List.append_assoc, List.singleton_append]
      have hcode : DecodedBlock.codeAt (before ++ (tx :: rest).map Tx.code) before.length =
          Int32.ofNat tx.code.toNat := by
        rw [DecodedBlock.codeAt, List.getElem?_append_right (Nat.le_refl _), Nat.sub_self]
        rfl
      have hdecoded := ih (before ++ [tx.code]) hrest
      rw [List.length_append, List.length_singleton, ← hcodes] at hdecoded
      refine bind_eq_ok_iff.mpr ⟨_, ?_, bind_eq_ok_iff.mpr ⟨_, hdecoded, rfl⟩⟩
      rw [hcode]
      exact tx.decode_envelope _ _ htx

/-- A sample block is decoded, with its transactions in order. -/
theorem decode_fullBlock (number : UInt64) {txs : List Tx}
    (h : ∀ tx ∈ txs, tx.envelope.length < Codec.capacity 8) :
    DecodedBlock.decode (fullBlock number txs) =
      .ok
        { number := ⟨number⟩
          previousHash := List.replicate 32 0
          dataHash := List.replicate 32 0
          transactions := decodedFrom 0 txs } :=
  bind_eq_ok_iff.mpr ⟨_, decodeEntries_envelopes [] txs h, rfl⟩

end Sample

end LedgerClient
