import LedgerClient.Proofs.Event.Owed

/-!
# What becomes of a registry

Four things are done to the registry of a hub: a listener registers, one is removed, a block is
dispatched, and a shutdown takes everybody out. A `RegistryAct` is one of them, and
`RegistryAct.applyAll` carries out any number of them in order. Who registers, who reads the
blocks and which streams these come from does not matter to what listeners are told.

`EventListener.hears` is the same run seen by one listener, without a registry. For a block
listener that stays after its first event it comes down to its window.

## Main results

* `RegistryAct.noticesOf_applyAll`: a registered listener is told what it hears of the acts.
* `EventListener.hears_of_block`: a block listener is told of the blocks in its window up to the
  last one, then of the end of the window.
* `EventListener.inRange_of_hears`: a listener hears of no block outside of its window.
-/

namespace LedgerClient

/-! ### What a dispatch does to a reachable registry -/

theorem ListenerKind.mem_served (kind : ListenerKind) :
    kind ∈ [ListenerKind.chaincode, .tx, .block] := by
  cases kind <;> decide

namespace Dispatch

/-- The passes over the listeners of every kind, before the windows end that end. -/
def notifyAll (hub : String) (block : DeliveredBlock) (r : Registry) : Progress :=
  chaincodePass hub block <| txPass hub block <| blockPass hub block { registry := r }

theorem dispatch_eq (hub : String) (block : DeliveredBlock) (r : Registry) :
    dispatch hub r block = ((endBlockPass hub block.number (notifyAll hub block r)).registry,
      (endBlockPass hub block.number (notifyAll hub block r)).deliveries) := rfl

end Dispatch

namespace Registry

open Dispatch

variable {hub : String} {block : DeliveredBlock} {r : Registry}

/-- The passes serve one kind after the other. -/
theorem Reachable.served (hr : r.Reachable) (hub : String) (block : DeliveredBlock) :
    (notifyAll hub block r).Served hub block r [.chaincode, .tx, .block] ∧
      (notifyAll hub block r).registry.Reachable := by
  have hnodup : r.handles.Nodup := hr.sound.nodup
  have hp₀ : Progress.Served hub block r [] { registry := r } := .start hr.flagged
  obtain ⟨_, done₁, heq₁, hfinds₁⟩ := blockPass_finds hp₀.flagged (hp₀.nodup hnodup)
  have hp₁ := hp₀.pass hnodup (by decide) hfinds₁
  obtain ⟨_, done₂, heq₂, hfinds₂⟩ := txPass_finds hp₁.flagged (hp₁.nodup hnodup)
  have hp₂ := hp₁.pass hnodup (by decide) hfinds₂
  obtain ⟨_, done₃, heq₃, hfinds₃⟩ := chaincodePass_finds hp₂.flagged (hp₂.nodup hnodup)
  rw [notifyAll, heq₁, heq₂, heq₃]
  exact ⟨hp₂.pass hnodup (by decide) hfinds₃, ((hr.removeAll done₁).removeAll done₂).removeAll done₃⟩

/-- A listener is told what a block owes it. -/
theorem Reachable.noticesOf_dispatch (hr : r.Reachable) {e : ListenerHandle × EventListener}
    (he : e ∈ r.entries) :
    noticesOf e.1 (dispatch hub r block).2 = (e.2.owed hub block).map .event := by
  rw [dispatch_eq]
  exact (hr.served hub block).1.told_endBlockPass hr.sound.nodup ListenerKind.mem_served he

/-- Who is done with a block, or has come to the end of the window with it, leaves. -/
theorem Reachable.dispatch_fst (hr : r.Reachable) :
    (dispatch hub r block).1 = r.withEntries
      (r.entries.filter fun e => !(e.2.isDone hub block || e.2.isEndBlock block.number)) := by
  rw [dispatch_eq]
  exact (hr.served hub block).1.registry_endBlockPass hr.sound.nodup ListenerKind.mem_served

/-- A dispatch comes down to removing listeners. -/
theorem Reachable.dispatched (hr : r.Reachable) : (dispatch hub r block).1.Reachable := by
  rw [dispatch_eq]
  exact (hr.served hub block).2.removeAll _

end Registry

/-! ### Acts -/

/-- Something that is done to the registry of a hub. -/
inductive RegistryAct where
  | register (l : EventListener)
  | unregister (h : ListenerHandle)
  /-- A block is dispatched. -/
  | block (b : DeliveredBlock)
  /-- Everybody is taken out and told why. -/
  | shutDown (t : Termination)

namespace RegistryAct

variable {hub : String} {r : Registry} {h : ListenerHandle} {l : EventListener}

/-- Carries out one act; the deliveries are what listeners are told. -/
def apply (hub : String) (r : Registry) : RegistryAct → Registry × List Delivery
  | .register l => ((r.insert l).2, [])
  | .unregister h => ((r.remove h).2, [])
  | .block b => dispatch hub r b
  | .shutDown t => (r.drain.2, r.handles.map (⟨·, .terminated t⟩))

/-- Carries out acts in order. -/
def applyAll (hub : String) : Registry → List RegistryAct → Registry × List Delivery
  | r, [] => (r, [])
  | r, a :: rest =>
    let (r, told) := a.apply hub r
    let (r, later) := applyAll hub r rest
    (r, told ++ later)

theorem applyAll_cons (a : RegistryAct) (rest : List RegistryAct) :
    applyAll hub r (a :: rest) =
      ((applyAll hub (a.apply hub r).1 rest).1,
        (a.apply hub r).2 ++ (applyAll hub (a.apply hub r).1 rest).2) := rfl

@[simp] theorem applyAll_singleton (a : RegistryAct) : applyAll hub r [a] = a.apply hub r := by
  rw [applyAll_cons, applyAll, List.append_nil]

/-- Acts follow each other. -/
theorem applyAll_append (acts acts' : List RegistryAct) :
    applyAll hub r (acts ++ acts') =
      ((applyAll hub (applyAll hub r acts).1 acts').1,
        (applyAll hub r acts).2 ++ (applyAll hub (applyAll hub r acts).1 acts').2) := by
  induction acts generalizing r with
  | nil => rfl
  | cons a rest ih => rw [List.cons_append, applyAll_cons, ih, applyAll_cons, List.append_assoc]

theorem reachable_apply (hr : r.Reachable) (a : RegistryAct) : (a.apply hub r).1.Reachable := by
  cases a with
  | register l => exact hr.insert l
  | unregister h => exact hr.remove h
  | block b => exact hr.dispatched
  | shutDown t => exact hr.drain

theorem reachable_applyAll (hr : r.Reachable) (acts : List RegistryAct) :
    (applyAll hub r acts).1.Reachable := by
  induction acts generalizing r with
  | nil => exact hr
  | cons a rest ih => exact ih (reachable_apply hr a)

/-- Whoever is told something was registered. -/
theorem handle_mem_of_told (a : RegistryAct) {d : Delivery} (hd : d ∈ (a.apply hub r).2) :
    d.handle ∈ r.handles := by
  cases a with
  | register | unregister => exact absurd hd List.not_mem_nil
  | block b => exact ((dispatch_within hub r b).told d hd).1
  | shutDown t =>
      obtain ⟨h, hh, rfl⟩ := List.mem_map.1 hd
      exact hh

/-- Whoever is not registered is told nothing. -/
theorem noticesOf_apply_of_notMem (a : RegistryAct) (hh : h ∉ r.handles) :
    noticesOf h (a.apply hub r).2 = [] := by
  apply noticesOf_eq_nil
  rintro d hd rfl
  exact hh (handle_mem_of_told a hd)

/-- Handles are given out in order. -/
theorem lastId_le_apply (a : RegistryAct) : r.lastId ≤ (a.apply hub r).1.lastId := by
  cases a with
  | register l => exact (Registry.lastId_insert r l).symm ▸ Nat.le_succ _
  | unregister h => exact Nat.le_of_eq (Registry.lastId_remove r h).symm
  | block b => exact Nat.le_of_eq (dispatch_within hub r b).lastId.symm
  | shutDown t => exact Nat.le_refl _

/-- A handle that was given out and is not registered does not come back. -/
theorem notMem_handles_apply (a : RegistryAct) (hle : h.id ≤ r.lastId) (hgone : h ∉ r.handles) :
    h ∉ (a.apply hub r).1.handles := by
  cases a with
  | register l =>
      change h ∉ (r.insert l).2.handles
      rw [Registry.handles_insert, List.mem_append, List.mem_singleton]
      rintro (hh | rfl)
      · exact hgone hh
      · exact absurd hle (Nat.not_succ_le_self _)
  | unregister h' =>
      change h ∉ (r.remove h').2.handles
      rw [Registry.handles_remove]
      exact fun hh => hgone (List.mem_of_mem_filter hh)
  | block b => exact fun hh => hgone (((dispatch_within hub r b).entries.map Prod.fst).subset hh)
  | shutDown t => exact List.not_mem_nil

/-- A listener that is gone is told nothing any more. -/
theorem noticesOf_applyAll_of_gone (hle : h.id ≤ r.lastId) (hgone : h ∉ r.handles)
    (acts : List RegistryAct) : noticesOf h (applyAll hub r acts).2 = [] := by
  induction acts generalizing r with
  | nil => rfl
  | cons a rest ih =>
      rw [applyAll_cons, noticesOf_append, noticesOf_apply_of_notMem a hgone, List.nil_append]
      exact ih (Nat.le_trans hle (lastId_le_apply a)) (notMem_handles_apply a hle hgone)

theorem lastId_le_applyAll (acts : List RegistryAct) :
    r.lastId ≤ (applyAll hub r acts).1.lastId := by
  induction acts generalizing r with
  | nil => exact Nat.le_refl _
  | cons a rest ih => exact Nat.le_trans (lastId_le_apply a) ih

/-- Nobody is told anything under a handle that has not been given out yet. -/
theorem noticesOf_applyAll_of_fresh (hr : r.Reachable) {acts : List RegistryAct}
    (hfresh : (applyAll hub r acts).1.lastId < h.id) :
    noticesOf h (applyAll hub r acts).2 = [] := by
  induction acts generalizing r with
  | nil => rfl
  | cons a rest ih =>
      have hunknown : h ∉ r.handles := by
        intro hh
        have hle := hr.sound.le_lastId h hh
        have hgrows : r.lastId ≤ (applyAll hub r (a :: rest)).1.lastId :=
          lastId_le_applyAll (a :: rest)
        omega
      rw [applyAll_cons, noticesOf_append, noticesOf_apply_of_notMem a hunknown, List.nil_append]
      exact ih (reachable_apply hr a) hfresh

/-! ### One listener among the acts -/

/-- What an act tells a registered listener. -/
def tells (hub : String) (l : EventListener) : RegistryAct → List Notice
  | .register _ | .unregister _ => []
  | .block b => (l.owed hub b).map .event
  | .shutDown t => [.terminated t]

/-- Whether an act takes a registered listener out. -/
def takesOut (hub : String) (h : ListenerHandle) (l : EventListener) : RegistryAct → Bool
  | .register _ => false
  | .unregister h' => h' == h
  | .block b => l.isDone hub b || l.isEndBlock b.number
  | .shutDown _ => true

/-- A registered listener is told of an act what concerns it. -/
theorem noticesOf_apply (hr : r.Reachable) (hl : (h, l) ∈ r.entries) (a : RegistryAct) :
    noticesOf h (a.apply hub r).2 = a.tells hub l := by
  cases a with
  | register | unregister => rfl
  | block b => exact hr.noticesOf_dispatch hl
  | shutDown t =>
      exact noticesOf_broadcast (.terminated t) hr.sound.nodup (List.mem_map_of_mem hl)

/-- A registered listener stays unless an act takes it out. -/
theorem mem_entries_apply (hr : r.Reachable) (hl : (h, l) ∈ r.entries) {a : RegistryAct}
    (hstays : a.takesOut hub h l = false) : (h, l) ∈ (a.apply hub r).1.entries := by
  cases a with
  | register l' => simp [apply, Registry.insert, hl]
  | unregister h' =>
      have hne : h ≠ h' := fun heq => by simp [takesOut, heq] at hstays
      simp only [apply, Registry.remove]
      split
      · simpa using ⟨hl, hne⟩
      · exact hl
  | block b =>
      simp only [apply, hr.dispatch_fst, Registry.entries_withEntries, List.mem_filter]
      exact ⟨hl, by simpa [takesOut] using hstays⟩
  | shutDown t => cases hstays

/-- An act that takes a listener out leaves nobody under its handle. -/
theorem notMem_of_takesOut (hr : r.Reachable) (hl : (h, l) ∈ r.entries) {a : RegistryAct}
    (hout : a.takesOut hub h l = true) : h ∉ (a.apply hub r).1.handles := by
  cases a with
  | register l' => cases hout
  | unregister h' =>
      obtain rfl : h' = h := by simpa [takesOut] using hout
      simp [apply]
  | block b =>
      simp only [apply, hr.dispatch_fst, Registry.handles, Registry.entries_withEntries,
        List.mem_map, List.mem_filter]
      rintro ⟨⟨h', l'⟩, ⟨he, hstays⟩, rfl⟩
      obtain rfl : l' = l := congrArg Prod.snd (Dispatch.eq_of_fst_eq hr.sound.nodup he hl rfl)
      simp only [takesOut] at hout
      simp [hout] at hstays
  | shutDown t => exact List.not_mem_nil

end RegistryAct

/-- What a listener hears of acts while it is registered. -/
def EventListener.hears (hub : String) (h : ListenerHandle) (l : EventListener) :
    List RegistryAct → List Notice
  | [] => []
  | a :: rest => a.tells hub l ++ if a.takesOut hub h l then [] else hears hub h l rest

namespace RegistryAct

variable {hub : String} {r : Registry} {h : ListenerHandle} {l : EventListener}

/-- A registered listener is told what it hears of the acts, whoever else is registered. -/
theorem noticesOf_applyAll (hr : r.Reachable) (hl : (h, l) ∈ r.entries)
    (acts : List RegistryAct) : noticesOf h (applyAll hub r acts).2 = l.hears hub h acts := by
  induction acts generalizing r with
  | nil => rfl
  | cons a rest ih =>
      rw [applyAll_cons, noticesOf_append, noticesOf_apply hr hl, EventListener.hears]
      congr 1
      cases hout : a.takesOut hub h l with
      | true =>
          have hle := hr.sound.le_lastId h (List.mem_map_of_mem hl)
          exact noticesOf_applyAll_of_gone (Nat.le_trans hle (lastId_le_apply a))
            (notMem_of_takesOut hr hl hout) rest
      | false => exact ih (reachable_apply hr a) (mem_entries_apply hr hl hout)

end RegistryAct

/-! ### The window of a block listener -/

namespace RegistryAct

/-- The block that an act dispatches. -/
def block? : RegistryAct → Option DeliveredBlock
  | .block b => some b
  | .register _ | .unregister _ | .shutDown _ => none

/-- Whether an act removes a listener whatever it waits for. -/
def removes (h : ListenerHandle) : RegistryAct → Bool
  | .unregister h' => h' == h
  | .shutDown _ => true
  | .register _ | .block _ => false

/-- The blocks that are dispatched until a listener is unregistered or the hub shuts down. -/
def blocksUntilRemoved (h : ListenerHandle) (acts : List RegistryAct) : List DeliveredBlock :=
  (acts.takeWhile fun a => !a.removes h).filterMap block?

/-- What a listener that has stayed is told when it is removed: the end, if the hub shuts down,
and nothing if it is unregistered. -/
def parting (h : ListenerHandle) (acts : List RegistryAct) : List Notice :=
  match acts.find? (removes h) with
  | some (.shutDown t) => [.terminated t]
  | _ => []

section Removal

variable {h : ListenerHandle} {a : RegistryAct}

theorem blocksUntilRemoved_cons_of_pos (ha : a.removes h = true) (rest : List RegistryAct) :
    blocksUntilRemoved h (a :: rest) = [] := by
  simp [blocksUntilRemoved, ha]

theorem blocksUntilRemoved_cons_of_neg (ha : a.removes h = false) (rest : List RegistryAct) :
    blocksUntilRemoved h (a :: rest) = a.block?.toList ++ blocksUntilRemoved h rest := by
  simp only [blocksUntilRemoved, List.takeWhile_cons, ha, Bool.not_false, if_true]
  cases hb : a.block? <;> simp [hb]

theorem parting_cons_of_neg (ha : a.removes h = false) (rest : List RegistryAct) :
    parting h (a :: rest) = parting h rest := by
  rw [parting, List.find?_cons_of_neg (by simp [ha]), parting]

end Removal

end RegistryAct

namespace EventListener

variable {hub : String} {h : ListenerHandle} {l : EventListener}

/-- The blocks up to and including the first one that is the last of the window. -/
def untilEnd (l : EventListener) (blocks : List DeliveredBlock) : List DeliveredBlock :=
  blocks.take (blocks.findIdx (fun b => l.isEndBlock b.number) + 1)

/-- One ordinary event for each block in the window until the last one has come, and then the
end of the window. -/
def windowEvents (hub : String) (l : EventListener) (blocks : List DeliveredBlock) :
    List BlockEvent :=
  ((l.untilEnd blocks).filter fun b => l.inRange b.number).map (·.event hub) ++
    (blocks.find? fun b => l.isEndBlock b.number).toList.map (.endBlock hub ·.number)

/-- The event for a block in the window. -/
def ordinary (hub : String) (l : EventListener) (b : DeliveredBlock) : List BlockEvent :=
  if l.inRange b.number then [b.event hub] else []

theorem windowEvents_cons_of_end {b : DeliveredBlock} (hend : l.isEndBlock b.number = true)
    (rest : List DeliveredBlock) :
    l.windowEvents hub (b :: rest) = l.ordinary hub b ++ [.endBlock hub b.number] := by
  have htake : l.untilEnd (b :: rest) = [b] := by simp [untilEnd, List.findIdx_cons, hend]
  have hfind : ((b :: rest).find? fun b => l.isEndBlock b.number) = some b := by simp [hend]
  rw [windowEvents, htake, hfind, ordinary]
  cases hrange : l.inRange b.number <;> simp [hrange]

theorem windowEvents_cons_of_not_end {b : DeliveredBlock} (hend : l.isEndBlock b.number = false)
    (rest : List DeliveredBlock) :
    l.windowEvents hub (b :: rest) = l.ordinary hub b ++ l.windowEvents hub rest := by
  have htake : l.untilEnd (b :: rest) = b :: l.untilEnd rest := by
    simp [untilEnd, List.findIdx_cons, hend]
  have hfind : ((b :: rest).find? fun b => l.isEndBlock b.number) =
      rest.find? fun b => l.isEndBlock b.number := by simp [hend]
  rw [windowEvents, htake, hfind, ordinary, windowEvents]
  cases hrange : l.inRange b.number <;> simp [hrange]

/-- A block owes a block listener that stays its ordinary event, and the end of the window if it
is the last block. -/
theorem owed_of_block (hfilter : l.filter = .block) (hstays : l.unregister = false)
    (b : DeliveredBlock) :
    l.owed hub b =
      l.ordinary hub b ++ if l.isEndBlock b.number then [.endBlock hub b.number] else [] := by
  simp [owed, events, ending, isDone, ordinary, hfilter, hstays]

/-- A block listener that stays after its first event hears what belongs to its window of the
blocks until it is removed. If its last block has not come by then, it hears why it is
removed. -/
theorem hears_of_block (hfilter : l.filter = .block) (hstays : l.unregister = false)
    (acts : List RegistryAct) :
    l.hears hub h acts =
      (l.windowEvents hub (RegistryAct.blocksUntilRemoved h acts)).map .event ++
        if (RegistryAct.blocksUntilRemoved h acts).any fun b => l.isEndBlock b.number then []
        else RegistryAct.parting h acts := by
  induction acts with
  | nil => rfl
  | cons a rest ih =>
      rw [hears]
      cases a with
      | register l' => exact ih
      | shutDown t => rfl
      | unregister h' =>
          have hout : RegistryAct.takesOut hub h l (.unregister h') =
              RegistryAct.removes h (.unregister h') := rfl
          rw [hout, RegistryAct.tells, List.nil_append]
          cases hremoves : RegistryAct.removes h (.unregister h') with
          | true =>
              rw [RegistryAct.blocksUntilRemoved_cons_of_pos hremoves, RegistryAct.parting,
                List.find?_cons_of_pos hremoves]
              rfl
          | false =>
              rw [RegistryAct.blocksUntilRemoved_cons_of_neg hremoves,
                RegistryAct.parting_cons_of_neg hremoves]
              exact ih
      | block b =>
          have hdone : l.isDone hub b = false := by rw [isDone, hstays, Bool.false_and]
          have hblocks : RegistryAct.blocksUntilRemoved h (.block b :: rest) =
              b :: RegistryAct.blocksUntilRemoved h rest :=
            RegistryAct.blocksUntilRemoved_cons_of_neg rfl rest
          rw [hblocks, RegistryAct.parting_cons_of_neg rfl, RegistryAct.tells,
            RegistryAct.takesOut, owed_of_block hfilter hstays, hdone, Bool.false_or,
            List.any_cons]
          cases hend : l.isEndBlock b.number with
          | true =>
              rw [windowEvents_cons_of_end hend]
              simp
          | false =>
              rw [windowEvents_cons_of_not_end hend, Bool.false_or]
              simp [ih]

/-! ### The window of any listener -/

/-- What a block brings is about this block. -/
theorem blockNumber_of_owed {b : DeliveredBlock} {event : BlockEvent}
    (hevent : event ∈ l.owed hub b) : event.blockNumber = b.number ∧
      (l.inRange b.number = true ∨ l.isEndBlock b.number = true) := by
  rcases List.mem_append.1 hevent with hordinary | hending
  · rw [events] at hordinary
    split at hordinary
    · next hrange =>
      refine ⟨?_, .inl hrange⟩
      cases hfilter : l.filter with
      | block =>
          rw [hfilter] at hordinary
          rw [List.mem_singleton.1 hordinary]
          rfl
      | tx transactions =>
          rw [hfilter] at hordinary
          obtain ⟨t, -, rfl⟩ := List.mem_map.1 hordinary
          rfl
      | chaincode chaincodeId eventName =>
          simp only [hfilter] at hordinary
          split at hordinary
          · exact absurd hordinary List.not_mem_nil
          · rw [List.mem_singleton.1 hordinary]
            rfl
    · exact absurd hordinary List.not_mem_nil
  · rw [ending] at hending
    split at hending
    · next hend =>
      rw [List.mem_singleton.1 hending]
      exact ⟨rfl, .inr (Bool.and_eq_true_iff.1 hend).1⟩
    · exact absurd hending List.not_mem_nil

/-- The last block of a window lies in it. -/
theorem inRange_of_isEndBlock {filter : ListenerFilter} {options : ListenerOptions}
    (hnew : EventListener.new filter options = .ok l) {n : BlockNumber}
    (hend : l.isEndBlock n = true) : l.inRange n = true := by
  have hstop : l.endBlock = some n := by simpa [isEndBlock] using hend
  have hle (start : BlockNumber) (hstart : l.startBlock = some start) : start ≤ n := by
    have := start_le_end hnew hstart hstop
    rw [BlockNumber.lt_iff_toNat_lt] at this
    exact BlockNumber.le_iff_toNat_le.2 (Nat.le_of_not_lt this)
  have hself : n ≤ n := BlockNumber.le_iff_toNat_le.2 (Nat.le_refl _)
  rw [inRange, hstop, Option.all_some, decide_eq_true hself, Bool.and_true]
  cases hstart : l.startBlock with
  | none => rfl
  | some start => exact decide_eq_true (hle start hstart)

/-- A listener hears of no block outside of its window. -/
theorem inRange_of_hears {filter : ListenerFilter} {options : ListenerOptions}
    (hnew : EventListener.new filter options = .ok l) {acts : List RegistryAct}
    {event : BlockEvent} (hevent : .event event ∈ l.hears hub h acts) :
    l.inRange event.blockNumber = true := by
  induction acts with
  | nil => exact absurd hevent List.not_mem_nil
  | cons a rest ih =>
      rw [hears, List.mem_append] at hevent
      rcases hevent with htold | hlater
      · cases a with
        | register | unregister => exact absurd htold List.not_mem_nil
        | shutDown t => cases List.mem_singleton.1 htold
        | block b =>
            obtain ⟨event', howed, heq⟩ := List.mem_map.1 htold
            obtain rfl := Notice.event.inj heq
            obtain ⟨hnumber, hwindow⟩ := blockNumber_of_owed howed
            rw [hnumber]
            exact hwindow.elim id (inRange_of_isEndBlock hnew)
      · split at hlater
        · exact absurd hlater List.not_mem_nil
        · exact ih hlater

end EventListener

end LedgerClient
