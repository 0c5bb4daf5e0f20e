import LedgerClient.Event.Dispatch
import LedgerClient.Proofs.Data.Steps
import LedgerClient.Proofs.Ledger.Sample

/-!
# Full and filtered blocks

A full block is taken apart through layers of encodings, a filtered one says plainly what became
of its transactions. Where the two tell the same of their transactions, dispatching one or the
other notifies the same listeners in the same order and leaves the same registry: a listener
sees the difference in the block that an event carries, and in the payloads of chaincode events.

## Main results

* `dispatch_mirrors`: of two blocks that tell the same, the dispatches do the same.
* `dispatch_sample`: the two forms of a sample block are dispatched alike.
-/

namespace LedgerClient

/-- An event without its payload. -/
def ChaincodeEvent.bare (e : ChaincodeEvent) : ChaincodeEvent := { e with payload := [] }

/-- A filtered block tells the same as a full one, but for the payloads of events. -/
structure DeliveredBlock.Mirrors (full filtered : DeliveredBlock) : Prop where
  number : filtered.number = full.number
  privateData : filtered.privateData = full.privateData
  transactions : filtered.transactions = full.transactions
  chaincodeEvents : filtered.chaincodeEvents = full.chaincodeEvents.map ChaincodeEvent.bare

/-- What events of a full and of a filtered block have in common, and what each carries. An
event at the end of a window carries no block. -/
structure BlockEvent.Mirrors (full filtered : DeliveredBlock) (e e' : BlockEvent) : Prop where
  hub : e'.hub = e.hub
  blockNumber : e'.blockNumber = e.blockNumber
  transactionId : e'.transactionId = e.transactionId
  transactionStatus : e'.transactionStatus = e.transactionStatus
  endBlockReceived : e'.endBlockReceived = e.endBlockReceived
  privateData : e'.privateData = e.privateData
  chaincodeEvents : e'.chaincodeEvents = e.chaincodeEvents.map ChaincodeEvent.bare
  carriesFull : (e.block, e.filteredBlock) =
    if e.endBlockReceived then (none, none) else (full.full, full.filtered)
  carriesFiltered : (e'.block, e'.filteredBlock) =
    if e'.endBlockReceived then (none, none) else (filtered.full, filtered.filtered)

/-- The same listener is told of the full block, and of the filtered one. -/
def Delivery.Mirrors (full filtered : DeliveredBlock) (d d' : Delivery) : Prop :=
  d'.handle = d.handle ∧
    ∃ e e', d.notice = .event e ∧ d'.notice = .event e' ∧ e.Mirrors full filtered e'

/-! ### Each pass -/

namespace Dispatch

variable {full filtered : DeliveredBlock} {p p' : Progress}

/-- What a pass found for the full block, and for the filtered one. -/
def FoundMirrors (full filtered : DeliveredBlock) (f f' : ListenerHandle × BlockEvent) : Prop :=
  f'.1 = f.1 ∧ f.2.Mirrors full filtered f'.2

/-- Two dispatches have got equally far. -/
structure Progress.Mirrors (full filtered : DeliveredBlock) (p p' : Progress) : Prop where
  registry : p'.registry = p.registry
  deliveries : List.Forall₂ (Delivery.Mirrors full filtered) p.deliveries p'.deliveries

/-- They stay so if each adds what mirrors the other's, and both are done with the same
listeners. -/
theorem Progress.Mirrors.add (h : p.Mirrors full filtered p')
    {found found' : List (ListenerHandle × BlockEvent)}
    (hfound : List.Forall₂ (FoundMirrors full filtered) found found')
    (done : List ListenerHandle) :
    (p.add found done).Mirrors full filtered (p'.add found' done) where
  registry := by rw [Progress.add, Progress.add, h.registry]
  deliveries := by
    refine List.rel_append h.deliveries (List.rel_map ?_ hfound)
    rintro ⟨handle, e⟩ ⟨handle', e'⟩ ⟨hhandle, he⟩
    exact ⟨hhandle, e, e', rfl, rfl, he⟩

/-- Events about the blocks as such. -/
theorem event_mirrors (hub : String) (h : full.Mirrors filtered) :
    (full.event hub).Mirrors full filtered (filtered.event hub) where
  hub := rfl
  blockNumber := h.number
  transactionId := rfl
  transactionStatus := rfl
  endBlockReceived := rfl
  privateData := h.privateData
  chaincodeEvents := rfl
  carriesFull := rfl
  carriesFiltered := rfl

theorem blockPass_mirrors (hub : String) (h : full.Mirrors filtered)
    (hp : p.Mirrors full filtered p') :
    (blockPass hub full p).Mirrors full filtered (blockPass hub filtered p') := by
  unfold blockPass
  rw [hp.registry, h.number]
  split
  · refine hp.add (forall₂_map_map ?_) _
    intro e _
    exact ⟨rfl, event_mirrors hub h⟩
  · exact hp

/-- The transactions of a block set off events for the same listeners, and the same are done. -/
theorem transactionEvents_mirrors (hub : String) (h : full.Mirrors filtered)
    (entries : List (ListenerHandle × EventListener)) (done : List ListenerHandle)
    (transactions : List (String × Int32)) :
    List.Forall₂ (FoundMirrors full filtered)
        (transactionEvents hub full entries done transactions).1
        (transactionEvents hub filtered entries done transactions).1 ∧
      (transactionEvents hub filtered entries done transactions).2 =
        (transactionEvents hub full entries done transactions).2 := by
  induction transactions generalizing done with
  | nil => exact ⟨.nil, rfl⟩
  | cons t rest ih =>
      obtain ⟨txId, code⟩ := t
      have htold : toldOfTransaction filtered entries done txId =
          toldOfTransaction full entries done txId := by
        rw [toldOfTransaction, toldOfTransaction, h.number]
      obtain ⟨hlater, hdone⟩ :=
        ih (done ++ doneAmong (toldOfTransaction full entries done txId))
      simp only [transactionEvents, htold]
      refine ⟨List.rel_append (forall₂_map_map fun _ _ => ⟨rfl, ?_⟩) hlater, hdone⟩
      exact { event_mirrors hub h with transactionId := rfl, transactionStatus := rfl }

theorem txPass_mirrors (hub : String) (h : full.Mirrors filtered)
    (hp : p.Mirrors full filtered p') :
    (txPass hub full p).Mirrors full filtered (txPass hub filtered p') := by
  unfold txPass
  rw [hp.registry, h.transactions]
  split
  · obtain ⟨hfound, hdone⟩ :=
      transactionEvents_mirrors hub h (p.registry.ofKind .tx) [] full.transactions
    simp only [hdone]
    exact hp.add hfound _
  · exact hp

/-- Whether an event is waited for does not depend on its payload. -/
theorem matchesChaincodeEvent_bare (f : ListenerFilter) (e : ChaincodeEvent) :
    f.matchesChaincodeEvent e.bare = f.matchesChaincodeEvent e := by
  cases f <;> rfl

theorem chaincodePass_mirrors (hub : String) (h : full.Mirrors filtered)
    (hp : p.Mirrors full filtered p') :
    (chaincodePass hub full p).Mirrors full filtered (chaincodePass hub filtered p') := by
  have hwanted : ∀ f : ListenerFilter, filtered.chaincodeEvents.filter f.matchesChaincodeEvent =
      (full.chaincodeEvents.filter f.matchesChaincodeEvent).map ChaincodeEvent.bare := by
    intro f
    rw [h.chaincodeEvents, List.filter_map]
    exact congrArg _ (List.filter_congr fun e _ => matchesChaincodeEvent_bare f e)
  unfold chaincodePass
  simp only [hp.registry, h.number, hwanted, List.isEmpty_map]
  split
  · refine hp.add (forall₂_map_map ?_) _
    intro e _
    exact ⟨rfl, { event_mirrors hub h with chaincodeEvents := rfl }⟩
  · exact hp

theorem endBlockPass_mirrors (hub : String) (h : full.Mirrors filtered)
    (hp : p.Mirrors full filtered p') :
    (endBlockPass hub full.number p).Mirrors full filtered
      (endBlockPass hub filtered.number p') := by
  unfold endBlockPass
  rw [hp.registry, h.number]
  refine hp.add (forall₂_map_map ?_) _
  intro e _
  exact ⟨rfl, ⟨rfl, rfl, rfl, rfl, rfl, rfl, rfl, rfl, rfl⟩⟩

end Dispatch

open Dispatch in
/-- If a filtered block tells the same as a full one, they are dispatched alike. -/
theorem dispatch_mirrors (hub : String) (r : Registry) {full filtered : DeliveredBlock}
    (h : full.Mirrors filtered) :
    (dispatch hub r filtered).1 = (dispatch hub r full).1 ∧
      List.Forall₂ (Delivery.Mirrors full filtered) (dispatch hub r full).2
        (dispatch hub r filtered).2 := by
  have hstart : Progress.Mirrors full filtered { registry := r } { registry := r } := ⟨rfl, .nil⟩
  obtain ⟨hregistry, hdeliveries⟩ := endBlockPass_mirrors hub h <|
    chaincodePass_mirrors hub h <| txPass_mirrors hub h <| blockPass_mirrors hub h hstart
  exact ⟨hregistry, hdeliveries⟩

/-! ### Sample blocks -/

namespace Sample

/-- The full form of a transaction tells its id and its code, as the filtered one does. -/
theorem transactions_decodedFrom (index : Nat) (txs : List Tx) :
    (decodedFrom index txs).map (fun t => (t.txId, t.validationCode)) =
      (txs.map Tx.filtered).map fun t => (t.txid, t.txValidationCode) := by
  induction txs generalizing index with
  | nil => rfl
  | cons tx rest ih => exact congrArg (List.cons _) (ih (index + 1))

/-- The filtered form of a transaction tells the events of the full one without payloads. -/
theorem Tx.filteredEvents_filtered (tx : Tx) (index : Nat) (code : Int32) :
    DeliveredBlock.filteredEvents tx.filtered =
      (if (tx.decoded index code).isEndorserTransaction then (tx.decoded index code).events
        else []).map ChaincodeEvent.bare := by
  have hfull : (tx.decoded index code).isEndorserTransaction = true ↔
      tx.headerType = .endorserTransaction :=
    beq_iff_eq.trans tx.headerType.code_eq_endorserTransaction_iff
  have hfiltered : tx.filtered.headerType = HeaderType.endorserTransaction.code ↔
      tx.headerType = .endorserTransaction :=
    tx.headerType.code_eq_endorserTransaction_iff
  rw [DeliveredBlock.filteredEvents]
  by_cases hkind : tx.headerType = .endorserTransaction
  · rw [if_pos (hfiltered.mpr hkind), if_pos (hfull.mpr hkind), tx.events_decoded _ _ hkind]
    simp only [Tx.filtered, List.filterMap_map]
    rw [← List.filterMap_eq_map]
    rfl
  · rw [if_neg (mt hfiltered.mp hkind), if_neg (mt hfull.mp hkind)]
    rfl

theorem events_decodedFrom (index : Nat) (txs : List Tx) :
    (txs.map Tx.filtered).flatMap DeliveredBlock.filteredEvents =
      ((decodedFrom index txs).flatMap fun t =>
        if t.isEndorserTransaction then t.events else []).map ChaincodeEvent.bare := by
  induction txs generalizing index with
  | nil => rfl
  | cons tx rest ih =>
      simp only [decodedFrom, List.map_cons, List.flatMap_cons, List.map_append]
      rw [tx.filteredEvents_filtered index (Int32.ofNat tx.code.toNat), ih (index + 1)]

open DeliveredBlock in
/-- The full and the filtered form of a sample block are dispatched alike: whoever is registered,
the same listeners are told in the same order, and the same stay registered. Each envelope in
the block is shorter than a length can tell. -/
theorem dispatch_sample (hub : String) (r : Registry) (number : UInt64) {txs : List Tx}
    (h : ∀ tx ∈ txs, tx.envelope.length < Codec.capacity 8) :
    ∃ decoded, DecodedBlock.decode (fullBlock number txs) = .ok decoded ∧
      let full : DeliveredBlock := { number := ⟨number⟩, full := some decoded }
      let filtered : DeliveredBlock :=
        { number := ⟨number⟩, filtered := some (filteredBlock number txs) }
      ofResponse hub (.block (fullBlock number txs)) = .ok (some full) ∧
        ofResponse hub (.filteredBlock (filteredBlock number txs)) = .ok (some filtered) ∧
        (dispatch hub r filtered).1 = (dispatch hub r full).1 ∧
        List.Forall₂ (Delivery.Mirrors full filtered) (dispatch hub r full).2
          (dispatch hub r filtered).2 := by
  have hdecode := decode_fullBlock number h
  refine ⟨_, hdecode, ?_, rfl, ?_⟩
  · rw [ofResponse, ofBlock, hdecode]
    rfl
  · exact dispatch_mirrors hub r
      { number := rfl
        privateData := rfl
        transactions := (transactions_decodedFrom 0 txs).symm
        chaincodeEvents := events_decodedFrom 0 txs }

/-- A transaction that raised an event, and a refused configuration with an event that nobody
is told of. -/
def mixedTxs : List Tx :=
  [{ txId := "tx"
     chaincode := "cc"
     events := [{ chaincodeId := "cc", txId := "tx", eventName := "moved", payload := [5] }] },
    { txId := "cfg"
      chaincode := "cc"
      headerType := .config
      events := [{ chaincodeId := "cc", txId := "cfg", eventName := "moved", payload := [6] }]
      code := 11 }]

/-- A listener of each kind; the window of the last one ends with block 7. -/
def listeners : Registry :=
  let listener (filter : ListenerFilter) (endBlock : Option BlockNumber) : EventListener :=
    { filter, startBlock := none, endBlock, unregister := filter.defaultUnregister }
  let r := (Registry.insert {} (listener .block none)).2
  let r := (r.insert (listener (.tx .all) none)).2
  (r.insert (listener (.chaincode "cc" (.exact "moved")) (some ⟨7⟩))).2

/-- Of either form of the block the listeners are told five times: of the block, of the two
transactions, of the one event, and of the end of a window. -/
theorem dispatch_sample_mixed :
    (∀ tx ∈ mixedTxs, tx.envelope.length < Codec.capacity 8) ∧
      ∃ decoded, DecodedBlock.decode (fullBlock 7 mixedTxs) = .ok decoded ∧
        let full : DeliveredBlock := { number := ⟨7⟩, full := some decoded }
        let filtered : DeliveredBlock :=
          { number := ⟨7⟩, filtered := some (filteredBlock 7 mixedTxs) }
        (dispatch "hub" listeners filtered).2.length = 5 ∧
          List.Forall₂ (Delivery.Mirrors full filtered) (dispatch "hub" listeners full).2
            (dispatch "hub" listeners filtered).2 := by
  have hlength : ∀ tx ∈ mixedTxs, tx.envelope.length < Codec.capacity 8 := by decide +kernel
  obtain ⟨decoded, hdecode, -, -, -, hdeliveries⟩ := dispatch_sample "hub" listeners 7 hlength
  exact ⟨hlength, decoded, hdecode, by decide +kernel, hdeliveries⟩

end Sample

end LedgerClient
