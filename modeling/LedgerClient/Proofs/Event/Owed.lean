import LedgerClient.Proofs.Event.Dispatch
import LedgerClient.Proofs.Event.Flags
import LedgerClient.Proofs.Event.Notices

/-!
# What a block owes each listener

A dispatch goes through the registry kind by kind. Seen from one listener it is simpler: the
block brings it some events, after which it may be done, and the end of its window if it is
still there. `EventListener.owed` says what that is without any pass or registry, and the
passes together tell every listener exactly this.

## Main results

* `Dispatch.Progress.Served.pass`: a pass over the listeners of a kind serves that kind and
  leaves the others as they were.
* `dispatch_owed`: each listener is told what the block owes it, in pass order, and those that
  are done leave the registry.
-/

namespace LedgerClient

/-! ### The point of view of one listener -/

/-- The event about one transaction of a block. -/
def DeliveredBlock.transactionEvent (block : DeliveredBlock) (hub : String)
    (transaction : String × Int32) : BlockEvent :=
  { block.event hub with
    transactionId := some transaction.1
    transactionStatus := some (ValidationCode.labelOf transaction.2) }

namespace EventListener

/-- The events that a block in the window brings, apart from the end of the window. -/
def events (l : EventListener) (hub : String) (block : DeliveredBlock) : List BlockEvent :=
  if l.inRange block.number then
    match l.filter with
    | .block => [block.event hub]
    | .tx transactions =>
      let found := block.transactions.filter fun t => transactions.matches? t.1
      (if l.unregister then found.take 1 else found).map (block.transactionEvent hub)
    | .chaincode chaincodeId eventName =>
      let wanted := block.chaincodeEvents.filter fun e =>
        chaincodeId == e.chaincodeId && eventName.matches? e.eventName
      if wanted.isEmpty then [] else [{ block.event hub with chaincodeEvents := wanted }]
  else []

/-- Whether a listener is done with the first event that a block brings. -/
def isDone (l : EventListener) (hub : String) (block : DeliveredBlock) : Bool :=
  l.unregister && !(l.events hub block).isEmpty

/-- What a listener that is not done is told of the end of its window. -/
def ending (l : EventListener) (hub : String) (block : DeliveredBlock) : List BlockEvent :=
  if l.isEndBlock block.number && !l.isDone hub block then [.endBlock hub block.number] else []

/-- All that a block owes a listener. -/
def owed (l : EventListener) (hub : String) (block : DeliveredBlock) : List BlockEvent :=
  l.events hub block ++ l.ending hub block

end EventListener

namespace Dispatch

/-! ### Looking up one listener -/

section Lookup

variable {entries : List (ListenerHandle × EventListener)} {e : ListenerHandle × EventListener}

/-- What a pass found for one listener. -/
def eventsFor (h : ListenerHandle) (found : List (ListenerHandle × BlockEvent)) :
    List BlockEvent :=
  (found.filter fun f => f.1 == h).map Prod.snd

theorem eventsFor_append (h : ListenerHandle) (found found' : List (ListenerHandle × BlockEvent)) :
    eventsFor h (found ++ found') = eventsFor h found ++ eventsFor h found' := by
  rw [eventsFor, List.filter_append, List.map_append]
  rfl

theorem eventsFor_eq_nil {h : ListenerHandle} {found : List (ListenerHandle × BlockEvent)}
    (hfound : ∀ f ∈ found, f.1 ≠ h) : eventsFor h found = [] := by
  rw [eventsFor, List.filter_eq_nil_iff.2, List.map_nil]
  intro f hf
  simpa using hfound f hf

/-- The deliveries of found events. -/
def deliveriesOf (found : List (ListenerHandle × BlockEvent)) : List Delivery :=
  found.map fun f => ⟨f.1, .event f.2⟩

/-- What is delivered to a listener is what was found for it. -/
theorem noticesOf_deliveriesOf (h : ListenerHandle)
    (found : List (ListenerHandle × BlockEvent)) :
    noticesOf h (deliveriesOf found) = (eventsFor h found).map .event := by
  rw [noticesOf, eventsFor, deliveriesOf, List.filter_map, List.map_map, List.map_map]
  rfl

/-- Distinct handles stand for distinct entries. -/
theorem eq_of_fst_eq (hnodup : (entries.map Prod.fst).Nodup)
    {a : ListenerHandle × EventListener} (ha : a ∈ entries) (he : e ∈ entries)
    (h : a.1 = e.1) : a = e :=
  List.inj_on_of_nodup_map hnodup ha he h

/-- One entry has a given handle. -/
theorem filter_fst_eq (hnodup : (entries.map Prod.fst).Nodup) (he : e ∈ entries) :
    (entries.filter fun a => a.1 == e.1) = [e] := by
  have hentry : (entries.filter fun a => a.1 == e.1) = entries.filter fun a => a == e := by
    apply List.filter_congr
    intro a ha
    rw [Bool.eq_iff_iff, beq_iff_eq, beq_iff_eq]
    exact ⟨eq_of_fst_eq hnodup ha he, fun h => h ▸ rfl⟩
  rw [hentry, List.filter_beq, List.count_eq_one_of_mem hnodup.of_map he]
  rfl

/-- A listener that passes a test is told one event. -/
theorem eventsFor_filter_map (hnodup : (entries.map Prod.fst).Nodup) (he : e ∈ entries)
    (test : ListenerHandle × EventListener → Bool)
    (event : ListenerHandle × EventListener → BlockEvent) :
    eventsFor e.1 ((entries.filter test).map fun a => (a.1, event a)) =
      if test e then [event e] else [] := by
  have hcomp : ((fun f : ListenerHandle × BlockEvent => f.1 == e.1) ∘ fun a => (a.1, event a)) =
      fun a : ListenerHandle × EventListener => a.1 == e.1 := rfl
  rw [eventsFor, List.filter_map, List.map_map, hcomp, List.filter_filter]
  simp only [Bool.and_comm]
  rw [← List.filter_filter, filter_fst_eq hnodup he]
  cases htest : test e <;> simp [htest]

/-- A listener that passes a test is done if its first notification is its last. -/
theorem mem_doneAmong_filter (hnodup : (entries.map Prod.fst).Nodup) (he : e ∈ entries)
    (test : ListenerHandle × EventListener → Bool) :
    e.1 ∈ doneAmong (entries.filter test) ↔ test e = true ∧ e.2.unregister = true := by
  simp only [doneAmong, List.mem_map, List.mem_filter]
  constructor
  · rintro ⟨a, ⟨⟨ha, htest⟩, hdone⟩, heq⟩
    obtain rfl := eq_of_fst_eq hnodup ha he heq
    exact ⟨htest, hdone⟩
  · rintro ⟨htest, hdone⟩
    exact ⟨e, ⟨⟨he, htest⟩, hdone⟩, rfl⟩

end Lookup

/-! ### What a pass finds -/

variable {hub : String} {block : DeliveredBlock}

/-- A pass over some listeners finds what the block brings to each of them, and which of them
are done. -/
structure Finds (hub : String) (block : DeliveredBlock)
    (entries : List (ListenerHandle × EventListener))
    (found : List (ListenerHandle × BlockEvent)) (done : List ListenerHandle) : Prop where
  events : ∀ e ∈ entries, eventsFor e.1 found = e.2.events hub block
  registered : ∀ f ∈ found, f.1 ∈ entries.map Prod.fst
  ordinary : ∀ f ∈ found, f.2.endBlockReceived = false
  done_iff : ∀ e ∈ entries, e.1 ∈ done ↔ e.2.isDone hub block = true
  done_registered : ∀ h ∈ done, h ∈ entries.map Prod.fst

/-- What the three passes deliver, by the kind of their listeners. -/
def deliveriesByKind (ofBlock ofTx ofChaincode : List (ListenerHandle × BlockEvent)) :
    ListenerKind → List Delivery
  | .block => deliveriesOf ofBlock
  | .tx => deliveriesOf ofTx
  | .chaincode => deliveriesOf ofChaincode

section Finds

variable {entries : List (ListenerHandle × EventListener)}

theorem doneAmong_fst_mem {h : ListenerHandle} {test : ListenerHandle × EventListener → Bool}
    (hh : h ∈ doneAmong (entries.filter test)) : h ∈ entries.map Prod.fst := by
  rw [doneAmong, List.mem_map] at hh
  obtain ⟨e, he, rfl⟩ := hh
  exact List.mem_map_of_mem (List.mem_of_mem_filter (List.mem_of_mem_filter he))

/-- A pass that tells each listener at most one event. -/
theorem Finds.once (hnodup : (entries.map Prod.fst).Nodup) (test : EventListener → Bool)
    (event : EventListener → BlockEvent)
    (hevents : ∀ e ∈ entries, e.2.events hub block = if test e.2 then [event e.2] else [])
    (hordinary : ∀ l, (event l).endBlockReceived = false) :
    Finds hub block entries
      ((entries.filter fun e => test e.2).map fun e => (e.1, event e.2))
      (doneAmong (entries.filter fun e => test e.2)) where
  events e he := by
    rw [eventsFor_filter_map hnodup he (fun e => test e.2) (fun e => event e.2), hevents e he]
  registered f hf := by
    rw [List.mem_map] at hf
    obtain ⟨e, he, rfl⟩ := hf
    exact List.mem_map_of_mem (List.mem_of_mem_filter he)
  ordinary f hf := by
    rw [List.mem_map] at hf
    obtain ⟨e, -, rfl⟩ := hf
    exact hordinary e.2
  done_iff e he := by
    rw [mem_doneAmong_filter hnodup he, EventListener.isDone, hevents e he]
    cases test e.2 <;> simp
  done_registered _ := doneAmong_fst_mem

/-! ### The pass over the transactions -/

section Transactions

variable {e : ListenerHandle × EventListener}

/-- Whether one transaction concerns a listener that is not done yet. -/
def concerns (block : DeliveredBlock) (done : List ListenerHandle) (txId : String)
    (e : ListenerHandle × EventListener) : Bool :=
  !done.contains e.1 && e.2.filter.matchesTransaction txId && e.2.inRange block.number

theorem concerns_iff {done : List ListenerHandle} {txId : String} :
    concerns block done txId e = true ↔
      (e.1 ∉ done ∧ e.2.filter.matchesTransaction txId = true) ∧
        e.2.inRange block.number = true := by
  simp [concerns]

/-- The events of one transaction stand before those of the later ones. -/
theorem transactionEvents_cons (done : List ListenerHandle) (t : String × Int32)
    (rest : List (String × Int32)) :
    transactionEvents hub block entries done (t :: rest) =
      let told := entries.filter (concerns block done t.1)
      let later := transactionEvents hub block entries (done ++ doneAmong told) rest
      (told.map (fun a => (a.1, block.transactionEvent hub t)) ++ later.1, later.2) := rfl

/-- A transaction makes a listener done if it concerns it and is the last one it waits for. -/
theorem mem_done_append (hnodup : (entries.map Prod.fst).Nodup) (he : e ∈ entries)
    (done : List ListenerHandle) (txId : String) :
    e.1 ∈ done ++ doneAmong (entries.filter (concerns block done txId)) ↔
      e.1 ∈ done ∨ concerns block done txId e = true ∧ e.2.unregister = true := by
  rw [List.mem_append, mem_doneAmong_filter hnodup he]

/-- The transactions of a block that a listener waits for. -/
def wantedBy (l : EventListener) (transactions : List (String × Int32)) :
    List (String × Int32) :=
  let found := transactions.filter fun t => l.filter.matchesTransaction t.1
  if l.unregister then found.take 1 else found

theorem wantedBy_cons_of_neg {l : EventListener} {t : String × Int32}
    (h : l.filter.matchesTransaction t.1 = false) (rest : List (String × Int32)) :
    wantedBy l (t :: rest) = wantedBy l rest := by
  rw [wantedBy, wantedBy, List.filter_cons_of_neg (by simp [h])]

theorem wantedBy_cons_of_pos {l : EventListener} {t : String × Int32}
    (h : l.filter.matchesTransaction t.1 = true) (rest : List (String × Int32)) :
    wantedBy l (t :: rest) = t :: if l.unregister then [] else wantedBy l rest := by
  rw [wantedBy, wantedBy, List.filter_cons_of_pos (by simp [h])]
  cases l.unregister <;> rfl

/-- Going through the transactions, a listener hears of those it waits for until it is done. -/
theorem eventsFor_transactionEvents (hnodup : (entries.map Prod.fst).Nodup) (he : e ∈ entries)
    (done : List ListenerHandle) (transactions : List (String × Int32)) :
    eventsFor e.1 (transactionEvents hub block entries done transactions).1 =
      if e.1 ∉ done ∧ e.2.inRange block.number = true then
        (wantedBy e.2 transactions).map (block.transactionEvent hub)
      else [] := by
  induction transactions generalizing done with
  | nil =>
      rw [wantedBy]
      cases e.2.unregister <;> simp [transactionEvents, eventsFor]
  | cons t rest ih =>
      rw [transactionEvents_cons, eventsFor_append, eventsFor_filter_map hnodup he, ih]
      simp only [mem_done_append hnodup he]
      by_cases hopen : e.1 ∉ done ∧ e.2.inRange block.number = true
      · obtain ⟨hdone, hrange⟩ := hopen
        cases hmatch : e.2.filter.matchesTransaction t.1 with
        | false =>
            have hconcerns : concerns block done t.1 e = false := by simp [concerns, hmatch]
            rw [wantedBy_cons_of_neg hmatch]
            simp [hconcerns, hdone]
        | true =>
            have hconcerns : concerns block done t.1 e = true :=
              concerns_iff.2 ⟨⟨hdone, hmatch⟩, hrange⟩
            rw [wantedBy_cons_of_pos hmatch]
            cases hlast : e.2.unregister <;> simp [hconcerns, hdone, hrange]
      · have hconcerns : concerns block done t.1 e = false := by
          rw [← Bool.not_eq_true, concerns_iff]
          exact fun h => hopen ⟨h.1.1, h.2⟩
        simp only [hconcerns, Bool.false_eq_true, if_false, false_and, or_false, hopen,
          List.nil_append]

/-- A listener is done after the transactions if one of them was its last. -/
theorem mem_transactionEvents_done (hnodup : (entries.map Prod.fst).Nodup) (he : e ∈ entries)
    (done : List ListenerHandle) (transactions : List (String × Int32)) :
    e.1 ∈ (transactionEvents hub block entries done transactions).2 ↔
      e.1 ∈ done ∨ e.2.unregister = true ∧ e.2.inRange block.number = true ∧
        wantedBy e.2 transactions ≠ [] := by
  induction transactions generalizing done with
  | nil =>
      have hnone : wantedBy e.2 [] = [] := by
        rw [wantedBy]
        cases e.2.unregister <;> rfl
      simp [transactionEvents, hnone]
  | cons t rest ih =>
      rw [transactionEvents_cons]
      simp only
      rw [ih, mem_done_append hnodup he, concerns_iff]
      cases hmatch : e.2.filter.matchesTransaction t.1 with
      | false =>
          rw [wantedBy_cons_of_neg hmatch]
          simp
      | true =>
          rw [wantedBy_cons_of_pos hmatch]
          by_cases hdone : e.1 ∈ done
          · simp [hdone]
          · simp only [hdone, false_or, not_false_eq_true, true_and, ne_eq, List.cons_ne_nil,
              and_true]
            constructor
            · rintro (⟨hrange, hlast⟩ | ⟨hlast, hrange, -⟩)
              · exact ⟨hlast, hrange⟩
              · exact ⟨hlast, hrange⟩
            · rintro ⟨hlast, hrange⟩
              exact .inl ⟨hrange, hlast⟩

/-- Only listeners of the pass are done after it. -/
theorem transactionEvents_done_registered {h : ListenerHandle} {done : List ListenerHandle}
    {transactions : List (String × Int32)}
    (hh : h ∈ (transactionEvents hub block entries done transactions).2) :
    h ∈ done ∨ h ∈ entries.map Prod.fst := by
  induction transactions generalizing done with
  | nil => exact .inl hh
  | cons t rest ih =>
      rcases ih hh with hh | hh
      · rcases List.mem_append.1 hh with hh | hh
        · exact .inl hh
        · exact .inr (doneAmong_fst_mem hh)
      · exact .inr hh

/-- No event of a transaction is the end of a window. -/
theorem transactionEvents_ordinary {f : ListenerHandle × BlockEvent}
    {done : List ListenerHandle} {transactions : List (String × Int32)}
    (hf : f ∈ (transactionEvents hub block entries done transactions).1) :
    f.2.endBlockReceived = false := by
  induction transactions generalizing done with
  | nil => exact absurd hf List.not_mem_nil
  | cons t rest ih =>
      rw [transactionEvents_cons, List.mem_append, List.mem_map] at hf
      rcases hf with ⟨a, -, rfl⟩ | hf
      · rfl
      · exact ih hf

end Transactions

/-- What goes through the transactions finds what the block brings to transaction listeners. -/
theorem Finds.transactions (hnodup : (entries.map Prod.fst).Nodup)
    (hkind : ∀ e ∈ entries, e.2.kind = .tx) :
    Finds hub block entries (transactionEvents hub block entries [] block.transactions).1
      (transactionEvents hub block entries [] block.transactions).2 := by
  have hevents : ∀ e ∈ entries, e.2.events hub block =
      if e.2.inRange block.number then
        (wantedBy e.2 block.transactions).map (block.transactionEvent hub)
      else [] := by
    intro e he
    have := hkind e he
    rw [EventListener.events, wantedBy]
    cases hfilter : e.2.filter <;>
      simp_all [EventListener.kind, ListenerFilter.kind, ListenerFilter.matchesTransaction]
  refine ⟨?_, transactionEvents_fst_mem hub block entries [] block.transactions,
    fun _ => transactionEvents_ordinary, ?_, ?_⟩
  · intro e he
    rw [eventsFor_transactionEvents hnodup he, hevents e he]
    simp
  · intro e he
    rw [mem_transactionEvents_done hnodup he, EventListener.isDone, hevents e he]
    cases e.2.inRange block.number <;> simp
  · intro h hh
    exact (transactionEvents_done_registered hh).resolve_left List.not_mem_nil

end Finds

/-! ### Each pass finds what the block brings -/

section Passes

variable {p : Progress}

/-- A pass over no listeners finds nothing. -/
theorem Finds.add_eq {found : List (ListenerHandle × BlockEvent)} {done : List ListenerHandle}
    (h : Finds hub block [] found done) : p.add found done = p := by
  obtain rfl : found = [] := List.eq_nil_iff_forall_not_mem.2 fun f hf =>
    absurd (h.registered f hf) List.not_mem_nil
  obtain rfl : done = [] := List.eq_nil_iff_forall_not_mem.2 fun h' hh =>
    absurd (h.done_registered h' hh) List.not_mem_nil
  rw [Progress.add, List.map_nil, List.append_nil]
  rfl

/-- A pass that a flag skips would have found nothing. -/
theorem Finds.of_skipped (hflagged : p.registry.Flagged) {kind : ListenerKind}
    {found : List (ListenerHandle × BlockEvent)} {done : List ListenerHandle}
    (h : Finds hub block (p.registry.ofKind kind) found done)
    (hskip : ¬ p.registry.has kind = true) : p = p.add found done := by
  rw [hflagged.ofKind_eq_nil hskip] at h
  exact h.add_eq.symm

/-- The handles of the listeners of one kind are distinct. -/
theorem nodup_ofKind {r : Registry} (hr : r.handles.Nodup) (kind : ListenerKind) :
    ((r.ofKind kind).map Prod.fst).Nodup :=
  hr.sublist (List.filter_sublist.map Prod.fst)

theorem mem_ofKind {r : Registry} {kind : ListenerKind} {e : ListenerHandle × EventListener} :
    e ∈ r.ofKind kind ↔ e ∈ r.entries ∧ e.2.kind = kind := by
  rw [Registry.ofKind, List.mem_filter, beq_iff_eq]

/-- The pass over the block listeners. -/
theorem blockPass_finds (hflagged : p.registry.Flagged) (hnodup : p.registry.handles.Nodup) :
    ∃ found done, blockPass hub block p = p.add found done ∧
      Finds hub block (p.registry.ofKind .block) found done := by
  have hevents : ∀ e ∈ p.registry.ofKind .block, e.2.events hub block =
      if e.2.inRange block.number then [block.event hub] else [] := by
    intro e he
    have hkind : e.2.filter.kind = .block := (mem_ofKind.1 he).2
    rw [EventListener.events]
    cases hfilter : e.2.filter with
    | block => rfl
    | tx _ => rw [hfilter] at hkind; cases hkind
    | chaincode _ _ => rw [hfilter] at hkind; cases hkind
  have hfinds := Finds.once (nodup_ofKind hnodup .block) (fun l => l.inRange block.number)
    (fun _ => block.event hub) hevents fun _ => rfl
  refine ⟨_, _, ?_, hfinds⟩
  rw [blockPass]
  split
  · rfl
  · next hskip => exact hfinds.of_skipped hflagged hskip

/-- The pass over the transaction listeners. -/
theorem txPass_finds (hflagged : p.registry.Flagged) (hnodup : p.registry.handles.Nodup) :
    ∃ found done, txPass hub block p = p.add found done ∧
      Finds hub block (p.registry.ofKind .tx) found done := by
  have hfinds : Finds hub block (p.registry.ofKind .tx) _ _ :=
    Finds.transactions (nodup_ofKind hnodup .tx) fun e he => (mem_ofKind.1 he).2
  refine ⟨_, _, ?_, hfinds⟩
  rw [txPass]
  split
  · rfl
  · next hskip => exact hfinds.of_skipped hflagged hskip

/-- The pass over the chaincode listeners. -/
theorem chaincodePass_finds (hflagged : p.registry.Flagged)
    (hnodup : p.registry.handles.Nodup) :
    ∃ found done, chaincodePass hub block p = p.add found done ∧
      Finds hub block (p.registry.ofKind .chaincode) found done := by
  have hevents : ∀ e ∈ p.registry.ofKind .chaincode, e.2.events hub block =
      let wanted := block.chaincodeEvents.filter e.2.filter.matchesChaincodeEvent
      if e.2.inRange block.number && !wanted.isEmpty then
        [{ block.event hub with chaincodeEvents := wanted }]
      else [] := by
    intro e he
    have hkind : e.2.filter.kind = .chaincode := (mem_ofKind.1 he).2
    rw [EventListener.events]
    cases hfilter : e.2.filter with
    | block => rw [hfilter] at hkind; cases hkind
    | tx _ => rw [hfilter] at hkind; cases hkind
    | chaincode chaincodeId eventName =>
        have hmatch : (ListenerFilter.chaincode chaincodeId eventName).matchesChaincodeEvent =
            fun e => chaincodeId == e.chaincodeId && eventName.matches? e.eventName := rfl
        simp only [hmatch]
        cases e.2.inRange block.number
        · rfl
        · cases (block.chaincodeEvents.filter fun e =>
            chaincodeId == e.chaincodeId && eventName.matches? e.eventName).isEmpty <;> rfl
  have hfinds := Finds.once (nodup_ofKind hnodup .chaincode)
    (fun l => l.inRange block.number &&
      !(block.chaincodeEvents.filter l.filter.matchesChaincodeEvent).isEmpty)
    (fun l => { block.event hub with
      chaincodeEvents := block.chaincodeEvents.filter l.filter.matchesChaincodeEvent })
    hevents fun _ => rfl
  refine ⟨_, _, ?_, hfinds⟩
  rw [chaincodePass]
  split
  · rfl
  · next hskip => exact hfinds.of_skipped hflagged hskip

end Passes

/-! ### The whole dispatch -/

/-- The state of a dispatch after the passes over some kinds. Of these the listeners have been
told what the block brings, and those that are done have left; the others have not been told
anything and are all there. -/
structure Progress.Served (hub : String) (block : DeliveredBlock) (r : Registry)
    (kinds : List ListenerKind) (p : Progress) : Prop where
  registry : p.registry = r.withEntries
    (r.entries.filter fun e => !(kinds.contains e.2.kind && e.2.isDone hub block))
  told : ∀ e ∈ r.entries, noticesOf e.1 p.deliveries =
    if e.2.kind ∈ kinds then (e.2.events hub block).map .event else []

section Served

variable {r : Registry} {kinds : List ListenerKind} {p : Progress}

/-- Before the first pass no kind has been served. -/
theorem Progress.Served.start (hr : r.Flagged) :
    Progress.Served hub block r [] { registry := r } where
  registry := by
    have hkeep : (r.entries.filter fun e =>
        !(([] : List ListenerKind).contains e.2.kind && e.2.isDone hub block)) = r.entries :=
      List.filter_eq_self.2 fun _ _ => rfl
    rw [hkeep, hr]
  told _ _ := rfl

theorem Progress.Served.flagged (hp : p.Served hub block r kinds) : p.registry.Flagged := by
  rw [hp.registry]
  exact Registry.flagged_withEntries _ _

theorem Progress.Served.nodup (hp : p.Served hub block r kinds) (hr : r.handles.Nodup) :
    p.registry.handles.Nodup := by
  rw [hp.registry]
  exact hr.sublist (List.filter_sublist.map Prod.fst)

/-- The listeners of a kind that has not been served are all there. -/
theorem Progress.Served.mem_ofKind (hp : p.Served hub block r kinds) {kind : ListenerKind}
    (hkind : kind ∉ kinds) {e : ListenerHandle × EventListener} :
    e ∈ p.registry.ofKind kind ↔ e ∈ r.entries ∧ e.2.kind = kind := by
  rw [Dispatch.mem_ofKind, hp.registry, Registry.entries_withEntries, List.mem_filter]
  constructor
  · rintro ⟨⟨he, -⟩, hk⟩
    exact ⟨he, hk⟩
  · rintro ⟨he, rfl⟩
    refine ⟨⟨he, ?_⟩, rfl⟩
    simp [hkind]

variable {kind : ListenerKind} {found : List (ListenerHandle × BlockEvent)}
  {done : List ListenerHandle}

/-- What a pass over one kind finds is not for a listener of another kind. -/
theorem Progress.Served.kind_eq_of_handle (hp : p.Served hub block r kinds)
    (hr : r.handles.Nodup) (hkind : kind ∉ kinds) {e : ListenerHandle × EventListener}
    (he : e ∈ r.entries) (h : e.1 ∈ (p.registry.ofKind kind).map Prod.fst) :
    e.2.kind = kind := by
  obtain ⟨a, ha, heq⟩ := List.mem_map.1 h
  obtain ⟨ha, hk⟩ := (hp.mem_ofKind hkind).1 ha
  obtain rfl := eq_of_fst_eq hr ha he heq
  exact hk

/-- A pass over the listeners of a kind serves this kind, and leaves the others as they are. -/
theorem Progress.Served.pass (hp : p.Served hub block r kinds) (hr : r.handles.Nodup)
    (hkind : kind ∉ kinds) (hfinds : Finds hub block (p.registry.ofKind kind) found done) :
    (p.add found done).Served hub block r (kind :: kinds) where
  registry := by
    change p.registry.removeAll done = _
    rw [hp.flagged.removeAll_eq, hp.registry, Registry.entries_withEntries,
      Registry.withEntries_withEntries, List.filter_filter]
    congr 1
    apply List.filter_congr
    intro e he
    by_cases hk : e.2.kind = kind
    · have hdone := hfinds.done_iff e ((hp.mem_ofKind hkind).2 ⟨he, hk⟩)
      cases hisDone : e.2.isDone hub block <;> simp_all
    · have hdone : e.1 ∉ done := fun h =>
        hk (hp.kind_eq_of_handle hr hkind he (hfinds.done_registered e.1 h))
      simp [hdone, hk]
  told e he := by
    change noticesOf e.1 (p.deliveries ++ deliveriesOf found) = _
    rw [noticesOf_append, noticesOf_deliveriesOf, hp.told e he]
    by_cases hk : e.2.kind = kind
    · rw [hfinds.events e ((hp.mem_ofKind hkind).2 ⟨he, hk⟩), if_neg (hk ▸ hkind),
        if_pos (List.mem_cons.2 (.inl hk)), List.nil_append]
    · have hnone : eventsFor e.1 found = [] := by
        apply eventsFor_eq_nil
        intro f hf heq
        exact hk (hp.kind_eq_of_handle hr hkind he (heq ▸ hfinds.registered f hf))
      rw [hnone, List.map_nil, List.append_nil]
      simp [hk]

/-- The deliveries of a pass are events for registered listeners of its kind. -/
theorem Progress.Served.source (hp : p.Served hub block r kinds) (hkind : kind ∉ kinds)
    (hfinds : Finds hub block (p.registry.ofKind kind) found done) {d : Delivery}
    (hd : d ∈ deliveriesOf found) :
    ∃ l event, (d.handle, l) ∈ r.entries ∧ l.kind = kind ∧ d.notice = .event event ∧
      event.endBlockReceived = false := by
  obtain ⟨⟨h, event⟩, hf, rfl⟩ := List.mem_map.1 hd
  obtain ⟨⟨h', l⟩, he, rfl⟩ := List.mem_map.1 (hfinds.registered _ hf)
  obtain ⟨he, hk⟩ := (hp.mem_ofKind hkind).1 he
  exact ⟨l, event, he, hk, rfl, hfinds.ordinary _ hf⟩

/-- After the passes over all kinds, those that are not done are left. -/
theorem Progress.Served.mem_entries (hp : p.Served hub block r kinds)
    (hkinds : ∀ kind, kind ∈ kinds) {e : ListenerHandle × EventListener} :
    e ∈ p.registry.entries ↔ e ∈ r.entries ∧ e.2.isDone hub block = false := by
  rw [hp.registry, Registry.entries_withEntries, List.mem_filter]
  simp [hkinds e.2.kind]

/-- The last pass tells a listener of the end of its window unless it is done before. -/
theorem Progress.Served.told_endBlockPass (hp : p.Served hub block r kinds)
    (hr : r.handles.Nodup) (hkinds : ∀ kind, kind ∈ kinds)
    {e : ListenerHandle × EventListener} (he : e ∈ r.entries) :
    noticesOf e.1 (endBlockPass hub block.number p).deliveries =
      (e.2.owed hub block).map .event := by
  change noticesOf e.1 (p.deliveries ++ deliveriesOf _) = _
  rw [noticesOf_append, noticesOf_deliveriesOf, hp.told e he, if_pos (hkinds e.2.kind),
    EventListener.owed, List.map_append]
  congr 2
  rw [EventListener.ending]
  cases hdone : e.2.isDone hub block with
  | true =>
      rw [Bool.not_true, Bool.and_false]
      apply eventsFor_eq_nil
      intro f hf heq
      obtain ⟨a, ha, rfl⟩ := List.mem_map.1 hf
      obtain ⟨har, hstill⟩ := (hp.mem_entries hkinds).1 (List.mem_of_mem_filter ha)
      obtain rfl := eq_of_fst_eq hr har he heq
      rw [hdone] at hstill
      cases hstill
  | false =>
      rw [Bool.not_false, Bool.and_true]
      exact eventsFor_filter_map (hp.nodup hr) ((hp.mem_entries hkinds).2 ⟨he, hdone⟩)
        (fun e => e.2.isEndBlock block.number) fun _ => .endBlock hub block.number

/-- After the last pass, those are left that are not done and whose window goes on. -/
theorem Progress.Served.registry_endBlockPass (hp : p.Served hub block r kinds)
    (hr : r.handles.Nodup) (hkinds : ∀ kind, kind ∈ kinds) :
    (endBlockPass hub block.number p).registry = r.withEntries
      (r.entries.filter fun e => !(e.2.isDone hub block || e.2.isEndBlock block.number)) := by
  have hentries : p.registry.entries = r.entries.filter fun e => !e.2.isDone hub block := by
    rw [hp.registry, Registry.entries_withEntries]
    apply List.filter_congr
    intro e _
    simp [hkinds e.2.kind]
  have hended : ∀ e ∈ r.entries, e.2.isDone hub block = false →
      (e.1 ∈ (p.registry.entries.filter fun e => e.2.isEndBlock block.number).map Prod.fst ↔
        e.2.isEndBlock block.number = true) := by
    intro e he hdone
    constructor
    · intro h
      obtain ⟨a, ha, heq⟩ := List.mem_map.1 h
      obtain ⟨ha, hend⟩ := List.mem_filter.1 ha
      obtain rfl := eq_of_fst_eq hr ((hp.mem_entries hkinds).1 ha).1 he heq
      exact hend
    · intro hend
      exact List.mem_map_of_mem
        (List.mem_filter.2 ⟨(hp.mem_entries hkinds).2 ⟨he, hdone⟩, hend⟩)
  change p.registry.removeAll _ = _
  rw [hp.flagged.removeAll_eq, hentries, List.filter_filter, hp.registry,
    Registry.withEntries_withEntries, ← hentries]
  congr 1
  apply List.filter_congr
  intro e he
  cases hdone : e.2.isDone hub block with
  | true => rw [Bool.not_true, Bool.and_false, Bool.true_or, Bool.not_true]
  | false =>
      rw [Bool.not_false, Bool.and_true, Bool.false_or, Bool.not_inj_iff, Bool.eq_iff_iff,
        List.contains_iff_mem]
      exact hended e he hdone

end Served

end Dispatch

open Dispatch in
/-- In a dispatch each listener is told what the block owes it, pass after pass, and nobody else
is told anything. Afterwards the registry has lost those that are done with their first event
and those whose window ends with the block. -/
theorem dispatch_owed (hub : String) (block : DeliveredBlock) {r : Registry}
    (hr : r.Reachable) :
    (∀ e ∈ r.entries,
        noticesOf e.1 (dispatch hub r block).2 = (e.2.owed hub block).map .event) ∧
      (∃ (told : ListenerKind → List Delivery) (endings : List Delivery),
        (dispatch hub r block).2 = told .block ++ told .tx ++ told .chaincode ++ endings ∧
          (∀ kind, ∀ d ∈ told kind, ∃ l event, (d.handle, l) ∈ r.entries ∧ l.kind = kind ∧
            d.notice = .event event ∧ event.endBlockReceived = false) ∧
          ∀ d ∈ endings, ∃ l, (d.handle, l) ∈ r.entries ∧
            l.isEndBlock block.number = true ∧
            d.notice = .event (.endBlock hub block.number)) ∧
      (dispatch hub r block).1 = r.withEntries
        (r.entries.filter fun e => !(e.2.isDone hub block || e.2.isEndBlock block.number)) := by
  have hnodup : r.handles.Nodup := hr.sound.nodup
  have hp₀ : Progress.Served hub block r [] { registry := r } := .start hr.flagged
  -- Each pass serves its kind on top of those before.
  obtain ⟨found₁, done₁, heq₁, hfinds₁⟩ := blockPass_finds hp₀.flagged (hp₀.nodup hnodup)
  have hp₁ := hp₀.pass hnodup (by decide) hfinds₁
  obtain ⟨found₂, done₂, heq₂, hfinds₂⟩ := txPass_finds hp₁.flagged (hp₁.nodup hnodup)
  have hp₂ := hp₁.pass hnodup (by decide) hfinds₂
  obtain ⟨found₃, done₃, heq₃, hfinds₃⟩ := chaincodePass_finds hp₂.flagged (hp₂.nodup hnodup)
  have hp₃ := hp₂.pass hnodup (by decide) hfinds₃
  have hkinds : ∀ kind, kind ∈ [ListenerKind.chaincode, .tx, .block] := by
    intro kind
    cases kind <;> decide
  rw [dispatch, heq₁, heq₂, heq₃]
  refine ⟨fun e he => hp₃.told_endBlockPass hnodup hkinds he, ?_,
    hp₃.registry_endBlockPass hnodup hkinds⟩
  refine ⟨deliveriesByKind found₁ found₂ found₃, _, rfl, ?_, ?_⟩
  · intro kind d hd
    cases kind with
    | block => exact hp₀.source (by decide) hfinds₁ hd
    | tx => exact hp₁.source (by decide) hfinds₂ hd
    | chaincode => exact hp₂.source (by decide) hfinds₃ hd
  · intro d hd
    obtain ⟨f, hf, rfl⟩ := List.mem_map.1 hd
    obtain ⟨⟨h, l⟩, he, rfl⟩ := List.mem_map.1 hf
    obtain ⟨he, hend⟩ := List.mem_filter.1 he
    exact ⟨l, ((hp₃.mem_entries hkinds).1 he).1, hend, rfl⟩

/-- In the last block of both listeners a transaction occurs twice: the listener that leaves
with its first event is told once and not of the end, the other one twice and of the end. -/
theorem dispatch_owed_last_block :
    let once : EventListener := ⟨.tx (.id "tx"), none, some ⟨7⟩, true⟩
    let always : EventListener := ⟨.tx .all, none, some ⟨7⟩, false⟩
    let r : Registry := (({} : Registry).insert once).2.insert always |>.2
    let block : DeliveredBlock :=
      { number := ⟨7⟩
        filtered := some
          { number := 7, filteredTransactions := [{ txid := "tx" }, { txid := "tx" }] } }
    let told : Notice := .event (block.transactionEvent "hub" ("tx", 0))
    r.Reachable ∧ noticesOf ⟨1⟩ (dispatch "hub" r block).2 = [told] ∧
      noticesOf ⟨2⟩ (dispatch "hub" r block).2 =
        [told, told, .event (.endBlock "hub" ⟨7⟩)] ∧
      (dispatch "hub" r block).1.entries = [] := by
  intro once always r block told
  have hr : r.Reachable := (Registry.Reachable.empty.insert once).insert always
  obtain ⟨howed, -, hleft⟩ := dispatch_owed "hub" block hr
  refine ⟨hr, ?_, ?_, ?_⟩
  · exact howed (⟨1⟩, once) (List.mem_cons_self)
  · exact howed (⟨2⟩, always) (List.mem_cons_of_mem _ List.mem_cons_self)
  · rw [hleft]
    rfl

end LedgerClient
