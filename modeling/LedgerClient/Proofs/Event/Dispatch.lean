import LedgerClient.Event.Dispatch
import LedgerClient.Proofs.Event.Registry

/-!
# What dispatching a block may do

Whatever a block holds, dispatching it only takes listeners out of the registry, and all
that it tells are events, to listeners that were registered before. Each of the four passes
keeps to this, so the dispatch as a whole does.

## Main results

* `dispatch_within`: a dispatch stays within the registry it starts from.
-/

namespace LedgerClient

namespace Dispatch

/-- The progress of a dispatch that started from the registry `r`: listeners have only
left, and only listeners of `r` are told anything, namely events. -/
structure Progress.Within (r : Registry) (p : Progress) : Prop where
  entries : p.registry.entries.Sublist r.entries
  lastId : p.registry.lastId = r.lastId
  told : ∀ d ∈ p.deliveries, d.handle ∈ r.handles ∧ ∃ event, d.notice = .event event

variable {r : Registry} {p : Progress}

/-- Before the first pass nothing has happened. -/
theorem Progress.Within.start (r : Registry) : Progress.Within r { registry := r } where
  entries := List.Sublist.refl _
  lastId := rfl
  told := by
    intro d hd
    exact absurd hd List.not_mem_nil

/-- A pass that tells registered listeners keeps within the registry. -/
theorem Progress.Within.add (hp : p.Within r) {found : List (ListenerHandle × BlockEvent)}
    (hfound : ∀ f ∈ found, f.1 ∈ p.registry.handles) (done : List ListenerHandle) :
    (p.add found done).Within r where
  entries := (Registry.entries_removeAll_sublist _ _).trans hp.entries
  lastId := by
    rw [Progress.add, Registry.lastId_removeAll, hp.lastId]
  told := by
    intro d hd
    rw [Progress.add, List.mem_append, List.mem_map] at hd
    rcases hd with hd | ⟨⟨h, event⟩, hf, rfl⟩
    · exact hp.told d hd
    · have hreg := hfound _ hf
      exact ⟨(hp.entries.map Prod.fst).subset hreg, event, rfl⟩

/-- The handle of a listener that passes some test is registered. -/
theorem handle_mem_of_filter (r : Registry) (test : ListenerHandle × EventListener → Bool)
    {e : ListenerHandle × EventListener} (he : e ∈ r.entries.filter test) :
    e.1 ∈ r.handles :=
  List.mem_map_of_mem (List.mem_of_mem_filter he)

/-- The pass over the block listeners. -/
theorem blockPass_within (hub : String) (block : DeliveredBlock) (hp : p.Within r) :
    (blockPass hub block p).Within r := by
  unfold blockPass
  split
  · refine hp.add ?_ _
    intro f hf
    rw [List.mem_map] at hf
    obtain ⟨e, he, rfl⟩ := hf
    exact handle_mem_of_filter _ _ (List.mem_of_mem_filter he)
  · exact hp

/-- Whatever the transactions of a block set off reaches one of the listeners given. -/
theorem transactionEvents_fst_mem (hub : String) (block : DeliveredBlock)
    (entries : List (ListenerHandle × EventListener)) (done : List ListenerHandle)
    (transactions : List (String × Int32)) :
    ∀ f ∈ (transactionEvents hub block entries done transactions).1,
      f.1 ∈ entries.map Prod.fst := by
  induction transactions generalizing done with
  | nil =>
      intro f hf
      exact absurd hf List.not_mem_nil
  | cons t rest ih =>
      intro f hf
      obtain ⟨txId, code⟩ := t
      simp only [transactionEvents, List.mem_append, List.mem_map] at hf
      rcases hf with ⟨e, he, rfl⟩ | hf
      · exact List.mem_map_of_mem (List.mem_of_mem_filter he)
      · exact ih _ f hf

/-- The pass over the transaction listeners. -/
theorem txPass_within (hub : String) (block : DeliveredBlock) (hp : p.Within r) :
    (txPass hub block p).Within r := by
  unfold txPass
  split
  · refine hp.add ?_ _
    intro f hf
    have hmem := transactionEvents_fst_mem _ _ _ _ _ f hf
    rw [List.mem_map] at hmem
    obtain ⟨e, he, heq⟩ := hmem
    rw [← heq]
    exact handle_mem_of_filter _ _ he
  · exact hp

/-- The pass over the chaincode listeners. -/
theorem chaincodePass_within (hub : String) (block : DeliveredBlock) (hp : p.Within r) :
    (chaincodePass hub block p).Within r := by
  unfold chaincodePass
  split
  · refine hp.add ?_ _
    intro f hf
    rw [List.mem_map] at hf
    obtain ⟨e, he, rfl⟩ := hf
    exact handle_mem_of_filter _ _ (List.mem_of_mem_filter he)
  · exact hp

/-- The pass over the listeners whose window ends. -/
theorem endBlockPass_within (hub : String) (number : BlockNumber) (hp : p.Within r) :
    (endBlockPass hub number p).Within r := by
  refine hp.add ?_ _
  intro f hf
  rw [List.mem_map] at hf
  obtain ⟨e, he, rfl⟩ := hf
  exact handle_mem_of_filter _ _ he

end Dispatch

open Dispatch in
/-- A dispatch only takes listeners out of the registry, and tells events to listeners that
were registered. -/
theorem dispatch_within (hub : String) (r : Registry) (block : DeliveredBlock) :
    Progress.Within r ⟨(dispatch hub r block).1, (dispatch hub r block).2⟩ :=
  endBlockPass_within _ _ <| chaincodePass_within _ _ <| txPass_within _ _ <|
    blockPass_within _ _ (Progress.Within.start r)

end LedgerClient
