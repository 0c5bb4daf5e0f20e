import LedgerClient.Proofs.Event.Acts
import Mathlib.Data.List.Induction

/-!
# Dispatch without flags

The flags of a registry only repeat what its entries say. They save a dispatch the passes over
kinds of listeners that nobody belongs to, and are asked anew before each pass, when earlier
passes have already removed listeners.

`Dispatch.scanDispatch` is a dispatch that does without them: each of its passes goes through
every entry and asks the listener's own filter. On every registry that operations lead to, the
two do the same, for one block and over a whole run, so a flag never hides a listener.

## Main results

* `Registry.withEntries_eq_foldl`, `Registry.Flagged.removeAll_eq_foldl`: the flags that a removal
  leaves are those set entry by entry, and removing many listeners at once is removing each.
* `RegistryOp.reachable_iff`: the reachable registries are those that operations lead to.
* `RegistryOp.run_flags_exact`: after any operations each flag tells whether a listener of its
  kind is registered, and a dispatch does what one without flags does.
* `RegistryAct.applyAll_eq_scanAll`: the same over a run of acts, blocks among them.
-/

namespace LedgerClient

/-! ### What the flags tell -/

namespace Registry

variable {r : Registry}

theorem anyOf_iff {entries : List (ListenerHandle × EventListener)} {kind : ListenerKind} :
    anyOf entries kind = true ↔ ∃ e ∈ entries, e.2.kind = kind := by
  simp only [anyOf, List.any_eq_true, beq_iff_eq]

/-- A flag is set exactly if a listener of its kind is registered. -/
theorem Flagged.has_iff (hr : r.Flagged) (kind : ListenerKind) :
    r.has kind = true ↔ ∃ e ∈ r.entries, e.2.kind = kind := by
  rw [hr.has_eq, anyOf_iff]

/-- Registries differ in their counters, their entries or a flag. -/
theorem eq_of_has {r' : Registry} (hid : r.lastId = r'.lastId) (hentries : r.entries = r'.entries)
    (hhas : ∀ kind, r.has kind = r'.has kind) : r = r' := by
  obtain ⟨id, entries, hasBlock, hasTx, hasChaincode⟩ := r
  obtain rfl : id = _ := hid
  obtain rfl : entries = _ := hentries
  obtain rfl : hasBlock = _ := hhas .block
  obtain rfl : hasTx = _ := hhas .tx
  obtain rfl : hasChaincode = _ := hhas .chaincode
  rfl

theorem has_setFlag (r : Registry) (kind kind' : ListenerKind) :
    (r.setFlag kind').has kind = (r.has kind || kind == kind') := by
  cases kind' <;> cases kind <;> simp [setFlag, has]

/-- Setting flags sets those and leaves the rest of the registry alone. -/
theorem foldl_setFlag (kinds : List ListenerKind) (r : Registry) :
    (kinds.foldl setFlag r).lastId = r.lastId ∧ (kinds.foldl setFlag r).entries = r.entries ∧
      ∀ kind, (kinds.foldl setFlag r).has kind = (r.has kind || kinds.contains kind) := by
  induction kinds generalizing r with
  | nil => exact ⟨rfl, rfl, fun kind => (Bool.or_false _).symm⟩
  | cons kind' rest ih =>
      obtain ⟨hid, hentries, hhas⟩ := ih (r.setFlag kind')
      rw [List.foldl_cons]
      refine ⟨hid.trans (lastId_setFlag r kind'), hentries.trans (entries_setFlag r kind'), ?_⟩
      intro kind
      rw [hhas, has_setFlag, List.contains_cons, Bool.or_assoc]

/-- Computing the flags anew clears them all and sets that of each entry in turn. -/
theorem withEntries_eq_foldl (r : Registry) (entries : List (ListenerHandle × EventListener)) :
    r.withEntries entries = (entries.map fun e => e.2.kind).foldl setFlag
      { r with entries, hasBlock := false, hasTx := false, hasChaincode := false } := by
  obtain ⟨hid, hentries, hhas⟩ := foldl_setFlag (entries.map fun e => e.2.kind)
    { r with entries, hasBlock := false, hasTx := false, hasChaincode := false }
  refine eq_of_has hid.symm hentries.symm fun kind => ?_
  have hcleared : has { r with entries, hasBlock := false, hasTx := false, hasChaincode := false }
      kind = false := by cases kind <;> rfl
  rw [hhas, hcleared, Bool.false_or, has_withEntries, Bool.eq_iff_iff, anyOf_iff,
    List.contains_iff_mem, List.mem_map]

theorem Flagged.remove_eq (hr : r.Flagged) (h : ListenerHandle) :
    (r.remove h).2 = r.withEntries (r.entries.filter fun e => e.1 != h) := by
  unfold Registry.remove
  split
  · rfl
  · next hnot =>
    have hkeep : (r.entries.filter fun e => e.1 != h) = r.entries := by
      rw [List.filter_eq_self]
      intro e he
      rw [bne_iff_ne]
      rintro rfl
      exact hnot ((contains_iff r e.1).mpr (List.mem_map_of_mem he))
    rw [hkeep, hr]

/-- Removing listeners at once, with the flags computed at the end, is removing one after the
other. Handles that are not registered do not matter. -/
theorem Flagged.removeAll_eq_foldl (hr : r.Flagged) (hs : List ListenerHandle) :
    r.removeAll hs = hs.foldl (fun r h => (r.remove h).2) r := by
  induction hs generalizing r with
  | nil => rfl
  | cons h rest ih =>
      rw [List.foldl_cons, ← ih (hr.remove h), (hr.remove h).removeAll_eq, hr.remove_eq,
        hr.removeAll_eq, withEntries_withEntries, entries_withEntries, List.filter_filter]
      congr 1
      refine List.filter_congr fun e _ => ?_
      rw [List.contains_cons, Bool.not_or, Bool.and_comm]
      rfl

end Registry

/-! ### Dispatch by scans -/

namespace Dispatch

open Registry

/-- What one pass finds among some entries, and who is done with it. The listeners may be of any
kind: each is asked by its own filter. -/
def search (hub : String) (block : DeliveredBlock)
    (entries : List (ListenerHandle × EventListener)) :
    ListenerKind → List (ListenerHandle × BlockEvent) × List ListenerHandle
  | .block =>
    let told := entries.filter fun e => e.2.kind == .block && e.2.inRange block.number
    (told.map fun e => (e.1, block.event hub), doneAmong told)
  | .tx => transactionEvents hub block entries [] block.transactions
  | .chaincode =>
    let wanted (l : EventListener) : List ChaincodeEvent :=
      block.chaincodeEvents.filter l.filter.matchesChaincodeEvent
    let told := entries.filter fun e => e.2.inRange block.number && !(wanted e.2).isEmpty
    (told.map fun e => (e.1, { block.event hub with chaincodeEvents := wanted e.2 }),
      doneAmong told)

/-- A pass that goes through every entry, whatever the flags say. -/
def scan (hub : String) (block : DeliveredBlock) (p : Progress) (kind : ListenerKind) : Progress :=
  let (found, done) := search hub block p.registry.entries kind
  p.add found done

/-- A dispatch that asks no flag. -/
def scanDispatch (hub : String) (registry : Registry) (block : DeliveredBlock) :
    Registry × List Delivery :=
  let p := endBlockPass hub block.number <|
    [ListenerKind.block, .tx, .chaincode].foldl (scan hub block) { registry }
  (p.registry, p.deliveries)

/-- The pass over a kind of listeners. -/
def pass (hub : String) (block : DeliveredBlock) (p : Progress) : ListenerKind → Progress
  | .block => blockPass hub block p
  | .tx => txPass hub block p
  | .chaincode => chaincodePass hub block p

variable {hub : String} {block : DeliveredBlock} {p : Progress}

/-! ### Searching among all listeners

A scan meets the listeners of every kind, but finds something only for those of its own. -/

theorem matchesTransaction_of_kind_ne {l : EventListener} (hl : l.kind ≠ .tx) (txId : String) :
    l.filter.matchesTransaction txId = false := by
  rw [EventListener.kind] at hl
  cases hfilter : l.filter with
  | tx => exact absurd (hfilter ▸ rfl) hl
  | block | chaincode => rfl

theorem matchesChaincodeEvent_of_kind_ne {l : EventListener} (hl : l.kind ≠ .chaincode)
    (e : ChaincodeEvent) : l.filter.matchesChaincodeEvent e = false := by
  rw [EventListener.kind] at hl
  cases hfilter : l.filter with
  | chaincode => exact absurd (hfilter ▸ rfl) hl
  | block | tx => rfl

/-- A test that only listeners of a kind pass needs no look at the kind before. -/
theorem filter_ofKind (r : Registry) {kind : ListenerKind}
    {test : ListenerHandle × EventListener → Bool}
    (htest : ∀ e ∈ r.entries, test e = true → e.2.kind = kind) :
    (r.ofKind kind).filter test = r.entries.filter test := by
  rw [ofKind, List.filter_filter]
  refine List.filter_congr fun e he => ?_
  cases h : test e with
  | false => rfl
  | true => simpa using htest e he h

/-- Going through the transactions, only transaction listeners are found. -/
theorem transactionEvents_ofKind (r : Registry) (done : List ListenerHandle)
    (transactions : List (String × Int32)) :
    transactionEvents hub block (r.ofKind .tx) done transactions =
      transactionEvents hub block r.entries done transactions := by
  induction transactions generalizing done with
  | nil => rfl
  | cons t rest ih =>
      have htold : (r.ofKind .tx).filter (concerns block done t.1) =
          r.entries.filter (concerns block done t.1) := by
        refine filter_ofKind r fun e _ hconcerns => ?_
        by_contra hkind
        have hmatch := matchesTransaction_of_kind_ne hkind t.1
        exact Bool.false_ne_true (hmatch.symm.trans (concerns_iff.mp hconcerns).1.2)
      rw [transactionEvents_cons, transactionEvents_cons, htold]
      simp only [ih]

/-- A search among the listeners of its kind finds what it finds among all. -/
theorem search_ofKind (r : Registry) (kind : ListenerKind) :
    search hub block (r.ofKind kind) kind = search hub block r.entries kind := by
  cases kind with
  | block =>
      simp only [search]
      rw [filter_ofKind r fun e _ he => by simpa using (Bool.and_eq_true_iff.mp he).1]
  | tx => exact transactionEvents_ofKind r [] block.transactions
  | chaincode =>
      simp only [search]
      rw [filter_ofKind r fun e _ he => ?_]
      by_contra hkind
      have hnone : block.chaincodeEvents.filter e.2.filter.matchesChaincodeEvent = [] :=
        List.filter_eq_nil_iff.mpr fun event _ =>
          Bool.eq_false_iff.mp (matchesChaincodeEvent_of_kind_ne hkind event)
      simp [hnone] at he

/-- Where there are no listeners nothing is found. -/
theorem search_nil (kind : ListenerKind) : search hub block [] kind = ([], []) := by
  cases kind with
  | block | chaincode => rfl
  | tx =>
      rw [search]
      induction block.transactions with
      | nil => rfl
      | cons t rest ih =>
          rw [transactionEvents_cons]
          exact Prod.ext (congrArg Prod.fst ih) (congrArg Prod.snd ih)

/-! ### Passes and scans -/

/-- A scan that meets no listener of its kind changes nothing. -/
theorem scan_eq_self {kind : ListenerKind} (hnone : p.registry.ofKind kind = []) :
    scan hub block p kind = p := by
  have hsearch : search hub block p.registry.entries kind = ([], []) := by
    rw [← search_ofKind, hnone, search_nil]
  rw [scan, hsearch]
  simp [Progress.add, removeAll]

/-- A pass is a scan that depends on a flag. -/
theorem pass_eq_ite (p : Progress) (kind : ListenerKind) :
    pass hub block p kind = if p.registry.has kind then scan hub block p kind else p := by
  rw [scan, ← search_ofKind]
  cases kind with
  | tx | chaincode => rfl
  | block =>
      have hkind : ((p.registry.ofKind .block).filter fun e =>
          e.2.kind == .block && e.2.inRange block.number) =
          (p.registry.ofKind .block).filter fun e => e.2.inRange block.number := by
        refine List.filter_congr fun e he => ?_
        rw [(mem_ofKind.mp he).2]
        rfl
      simp only [search, hkind]
      rfl

/-- With the right flags, a pass is a scan: what is skipped would have found nobody. -/
theorem pass_eq_scan (hp : p.registry.Flagged) (kind : ListenerKind) :
    pass hub block p kind = scan hub block p kind := by
  rw [pass_eq_ite]
  split
  · rfl
  · next hskip => exact (scan_eq_self (hp.ofKind_eq_nil hskip)).symm

/-- Listeners that leave in a scan take their flags with them. -/
theorem flagged_scan (hp : p.registry.Flagged) (kind : ListenerKind) :
    (scan hub block p kind).registry.Flagged :=
  hp.removeAll _

/-- Passes one after the other are scans, in whatever order. -/
theorem foldl_pass_eq_scan (hp : p.registry.Flagged) (kinds : List ListenerKind) :
    kinds.foldl (pass hub block) p = kinds.foldl (scan hub block) p := by
  induction kinds generalizing p with
  | nil => rfl
  | cons kind rest ih =>
      -- The next pass asks the flags that this scan has left, so these must be right again.
      have hnext : (scan hub block p kind).registry.Flagged := flagged_scan hp kind
      rw [List.foldl_cons, List.foldl_cons, pass_eq_scan hp, ih hnext]

/-- On a registry with the right flags, asking them makes no difference. -/
theorem dispatch_eq_scan {r : Registry} (hr : r.Flagged) (hub : String) (block : DeliveredBlock) :
    dispatch hub r block = scanDispatch hub r block := by
  have hpasses : notifyAll hub block r =
      [ListenerKind.block, .tx, .chaincode].foldl (pass hub block) { registry := r } := rfl
  rw [dispatch_eq, hpasses, foldl_pass_eq_scan hr, scanDispatch]

/-- A flag that is not set costs a listener its block. -/
example :
    let l : EventListener := ⟨.block, none, none, false⟩
    let stale : Registry := { lastId := 1, entries := [(⟨1⟩, l)] }
    (dispatch "hub" stale { number := ⟨7⟩ }).2 = [] ∧
      (scanDispatch "hub" stale { number := ⟨7⟩ }).2.length = 1 := by
  decide

end Dispatch

/-! ### Operations -/

/-- An operation on a registry. -/
inductive RegistryOp where
  | insert (l : EventListener)
  | remove (h : ListenerHandle)
  | removeAll (hs : List ListenerHandle)
  | drain

namespace RegistryOp

/-- The registry after an operation. -/
def apply (r : Registry) : RegistryOp → Registry
  | .insert l => (r.insert l).2
  | .remove h => (r.remove h).2
  | .removeAll hs => r.removeAll hs
  | .drain => r.drain.2

/-- The registry after operations on an empty one. -/
def run (ops : List RegistryOp) : Registry := ops.foldl apply {}

theorem run_concat (ops : List RegistryOp) (op : RegistryOp) :
    run (ops ++ [op]) = op.apply (run ops) := by
  rw [run, List.foldl_append]
  rfl

theorem reachable_apply {r : Registry} (hr : r.Reachable) (op : RegistryOp) :
    (op.apply r).Reachable := by
  cases op with
  | insert l => exact hr.insert l
  | remove h => exact hr.remove h
  | removeAll hs => exact hr.removeAll hs
  | drain => exact hr.drain

theorem reachable_run (ops : List RegistryOp) : (run ops).Reachable := by
  induction ops using List.reverseRecOn with
  | nil => exact .empty
  | append_singleton ops op ih =>
      rw [run_concat]
      exact reachable_apply ih op

/-- If operations lead to a registry then they lead to what one more makes of it. -/
theorem exists_run_apply {r : Registry} (hr : ∃ ops, run ops = r) (op : RegistryOp) :
    ∃ ops, run ops = op.apply r := by
  obtain ⟨ops, rfl⟩ := hr
  exact ⟨ops ++ [op], run_concat ops op⟩

/-- The reachable registries are those that operations lead to. -/
theorem reachable_iff {r : Registry} : r.Reachable ↔ ∃ ops, run ops = r := by
  constructor
  · intro hr
    induction hr with
    | empty => exact ⟨[], rfl⟩
    | insert _ l ih => exact exists_run_apply ih (.insert l)
    | remove _ h ih => exact exists_run_apply ih (.remove h)
    | removeAll _ hs ih => exact exists_run_apply ih (.removeAll hs)
    | drain _ ih => exact exists_run_apply ih .drain
  · rintro ⟨ops, rfl⟩
    exact reachable_run ops

/-- After any operations each flag is set exactly if a listener of its kind is registered, so a
dispatch that asks the flags tells the same listeners the same, and leaves the same registry, as
one that goes through every entry in each pass. -/
theorem run_flags_exact (ops : List RegistryOp) :
    (∀ kind, (run ops).has kind = true ↔ ∃ e ∈ (run ops).entries, e.2.kind = kind) ∧
      ∀ (hub : String) (block : DeliveredBlock),
        dispatch hub (run ops) block = Dispatch.scanDispatch hub (run ops) block := by
  have hflagged : (run ops).Flagged := (reachable_run ops).flagged
  exact ⟨hflagged.has_iff, Dispatch.dispatch_eq_scan hflagged⟩

end RegistryOp

/-! ### Runs -/

namespace RegistryAct

variable {hub : String} {r : Registry}

/-- Carries out one act, with a dispatch that asks no flag. -/
def scan (hub : String) (r : Registry) : RegistryAct → Registry × List Delivery
  | .block b => Dispatch.scanDispatch hub r b
  | a => a.apply hub r

/-- Carries out acts in order, with dispatches that ask no flag. -/
def scanAll (hub : String) : Registry → List RegistryAct → Registry × List Delivery
  | r, [] => (r, [])
  | r, a :: rest =>
    let (r, told) := a.scan hub r
    let (r, later) := scanAll hub r rest
    (r, told ++ later)

theorem apply_eq_scan (hr : r.Flagged) (a : RegistryAct) : a.apply hub r = a.scan hub r := by
  cases a with
  | block b => exact Dispatch.dispatch_eq_scan hr hub b
  | register | unregister | shutDown => rfl

/-- Over a whole run nobody can tell from what listeners are told that there are flags. -/
theorem applyAll_eq_scanAll (hr : r.Reachable) (acts : List RegistryAct) :
    applyAll hub r acts = scanAll hub r acts := by
  induction acts generalizing r with
  | nil => rfl
  | cons a rest ih =>
      rw [applyAll_cons, ih (reachable_apply hr a), apply_eq_scan hr.flagged]
      rfl

end RegistryAct

end LedgerClient
