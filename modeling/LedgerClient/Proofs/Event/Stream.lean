import LedgerClient.Proofs.Event.Notices

/-!
# Following a stream

What a hub whose listeners leave it alone makes of a whole stream. It takes in one block
after the other up to the first event that ends the stream for it, and shuts down for the
reason that this event gives. What comes after it is not looked at.

## Main results

* `HubState.onEvent_of_goesOn`, `HubState.onEvent_of_kind`: the hub and the world after one
  event, which either goes on or ends the stream.
* `HubState.readEvents_of_follows`: the hub and the world after all events.
-/

namespace LedgerClient

/-! ### What ends a stream -/

/-- The reason to shut down that lies in a block's number, given the end of the stream. -/
def endKind? (stop : Option BlockPosition) (number : BlockNumber) : Option TerminationKind :=
  match stop with
  | some (.number n) => if n ≤ number then some .endBlockReached else none
  | _ => none

/-- The reason to shut down when a block has been read that may fail to decode. -/
def blockKind? (stop : Option BlockPosition) (b : Block) : Option TerminationKind :=
  match DecodedBlock.decode b with
  | .ok _ => endKind? stop ⟨b.header.number⟩
  | .error _ => some .decodeError

namespace StreamEvent

/-- The reason to shut down that an event is, given the end of the stream, if it is one. -/
def kind? (stop : Option BlockPosition) : StreamEvent → Option TerminationKind
  | .data (.status status) =>
    some (if status.isSuccess && stop == some .newest then .newestBlockReached
      else .unexpectedStatus)
  | .data (.filteredBlock b) => endKind? stop ⟨b.number⟩
  | .data (.block b) | .data (.blockAndPrivateData b _) => blockKind? stop b
  | .ended => some .streamEnded
  | .failed _ => some .streamError

/-- The block that an event carries, if it can be decoded. -/
def block? (hub : String) : StreamEvent → Option DeliveredBlock
  | .data message =>
    match DeliveredBlock.ofResponse hub message with
    | .ok block => block
    | .error _ => none
  | .ended | .failed _ => none

/-- The events up to the first one that ends the stream, and that one. -/
def actedOn (stop : Option BlockPosition) : List StreamEvent → List StreamEvent
  | [] => []
  | event :: rest =>
    match event.kind? stop with
    | none => event :: actedOn stop rest
    | some _ => [event]

end StreamEvent

/-! ### Many blocks -/

/-- What listeners are told about blocks that are dispatched in order, and the registry
afterwards. -/
def dispatchAll (hub : String) (r : Registry) : List DeliveredBlock → Registry × List Delivery
  | [] => (r, [])
  | block :: rest =>
    let (r, ds) := dispatch hub r block
    let (r, ds') := dispatchAll hub r rest
    (r, ds ++ ds')

/-- Blocks are dispatched one part after the other. -/
theorem dispatchAll_append (hub : String) (r : Registry) (blocks more : List DeliveredBlock) :
    dispatchAll hub r (blocks ++ more) =
      ((dispatchAll hub (dispatchAll hub r blocks).1 more).1,
        (dispatchAll hub r blocks).2 ++ (dispatchAll hub (dispatchAll hub r blocks).1 more).2) := by
  induction blocks generalizing r with
  | nil => rfl
  | cons block rest ih =>
      simp only [List.cons_append, dispatchAll]
      rw [ih, List.append_assoc]

/-- The last block that a hub remembers after some blocks. -/
def lastAfter (blocks : List DeliveredBlock) (last : Option BlockNumber) :
    Option BlockNumber :=
  blocks.foldl (fun _ block => some block.number) last

/-- The world after it has heard notices. -/
def hearAll {ε : Type} (hear : Delivery → ε → ε) (ds : List Delivery) (e : ε) : ε :=
  ds.foldl (fun e d => hear d e) e

theorem hearAll_append {ε : Type} (hear : Delivery → ε → ε) (ds ds' : List Delivery) (e : ε) :
    hearAll hear (ds ++ ds') e = hearAll hear ds' (hearAll hear ds e) :=
  List.foldl_append

/-- Dispatching blocks only takes listeners out. -/
theorem dispatchAll_handles_sublist (hub : String) (r : Registry)
    (blocks : List DeliveredBlock) :
    (dispatchAll hub r blocks).1.handles.Sublist r.handles := by
  induction blocks generalizing r with
  | nil => exact List.Sublist.refl _
  | cons block rest ih =>
      exact (ih _).trans ((dispatch_within hub r block).entries.map Prod.fst)

namespace HubState

variable {ε ι : Type} {w : Surroundings ε ι} {hub : String} {s : HubState ι} {e : ε}
variable {hear : Delivery → ε → ε}

/-! ### Listeners that leave the hub alone -/

/-- Notices to listeners that leave the hub alone are heard one after the other. -/
theorem drain_of_silent (hw : ∀ d e, w.handOver d e = .done (hear d e)) (s : HubState ι)
    (e : ε) :
    drain w hub s e =
      some ({ s with queue := [], draining := false }, hearAll hear s.queue e) := by
  obtain ⟨registry, lastBlock, stop, stopSeen, stream, generation, closing, queue, draining⟩ := s
  induction queue generalizing e with
  | nil =>
      rw [drain]
      rfl
  | cons d rest ih =>
      rw [drain]
      simp only [nextNotice, hw, react]
      exact ih _

/-- A flush hands over the whole queue. -/
theorem flush_of_silent (hw : ∀ d e, w.handOver d e = .done (hear d e))
    (hs : s.draining = false) (e : ε) :
    flush w hub s e = some ({ s with queue := [] }, hearAll hear s.queue e) := by
  rw [flush, beginDrain, if_neg (by simp [hs])]
  simp only [drain_of_silent hw, ← hs]

/-- A shutdown of a hub at rest tells everybody of the end, and then releases the stream. -/
theorem closeWith_of_silent (hw : ∀ d e, w.handOver d e = .done (hear d e)) (hs : s.AtRest)
    (t : Termination) (e : ε) :
    closeWith w hub t s e =
      some ({ s with stream := none, registry := s.registry.drain.2 },
        releaseStream w s.stream (hearAll hear (s.registry.handles.map
          (⟨·, .terminated (s.farewell (w.connectionInfo · e) t)⟩)) e)) := by
  rw [closeWith, beginClose_eq, if_neg (by simp [hs.closing])]
  simp only [flush_of_silent hw (s := s.closed _ t) hs.draining]
  obtain ⟨-, hcl, hq⟩ := hs
  simp [closed, endClose, hcl, hq]

/-! ### One event -/

/-- A block ends the stream by its number exactly if it reaches the numbered end. -/
theorem endKind?_eq (s : HubState ι) (number : BlockNumber) :
    endKind? s.stop number = if s.reaches number then some .endBlockReached else none := by
  unfold endKind? reaches
  rcases s.stop with _ | (_ | _ | _ | n)
  · rfl
  · rfl
  · rfl
  · rfl
  · simp

/-- A block that decodes ends the stream by its number only, any other does at once. -/
theorem ofBlock_cases (hub : String) (s : HubState ι) (b : Block) (p : Option PrivateDataMap) :
    (∃ block, DeliveredBlock.ofBlock hub b p = .ok block ∧
      blockKind? s.stop b = if s.reaches block.number then some .endBlockReached else none) ∨
    ∃ t, DeliveredBlock.ofBlock hub b p = .error t ∧ blockKind? s.stop b = some t.kind ∧
      t.connection = none := by
  rw [DeliveredBlock.ofBlock, blockKind?]
  cases DecodedBlock.decode b with
  | ok full => exact Or.inl ⟨_, rfl, endKind?_eq s _⟩
  | error err => exact Or.inr ⟨_, rfl, rfl, rfl⟩

/-- A status ends the stream; before the end has been seen, the hub only has to know whether
it asked for the newest block. -/
theorem statusTermination_of_unseen (hub : String) (hseen : s.stopSeen = false)
    (status : Status) :
    s.statusTermination hub status =
      if status.isSuccess && s.stop == some .newest then .newestBlock hub
      else .unexpectedStatus hub status := by
  simp only [statusTermination, hseen]
  cases s.stop == some .newest <;> simp

/-- What an event means for a hub that has not yet seen the end of its stream. -/
theorem reading_cases (hub : String) (hseen : s.stopSeen = false) (event : StreamEvent) :
    (∃ block, event.reading hub s = .block block ∧ event.block? hub = some block ∧
      event.kind? s.stop = if s.reaches block.number then some .endBlockReached else none) ∨
    ∃ t, event.reading hub s = .finish t ∧ event.block? hub = none ∧
      event.kind? s.stop = some t.kind ∧ t.connection = none := by
  cases event with
  | ended => exact Or.inr ⟨_, rfl, rfl, rfl, rfl⟩
  | failed reason => exact Or.inr ⟨_, rfl, rfl, rfl, rfl⟩
  | data message =>
      cases message with
      | status status =>
          refine Or.inr ⟨_, rfl, rfl, ?_, ?_⟩
          · rw [statusTermination_of_unseen hub hseen, StreamEvent.kind?]
            split <;> rfl
          · rw [statusTermination_of_unseen hub hseen]
            split <;> rfl
      | filteredBlock b => exact Or.inl ⟨_, rfl, rfl, endKind?_eq s _⟩
      | block b =>
          simp only [StreamEvent.reading, StreamEvent.block?, DeliveredBlock.ofResponse,
            StreamEvent.kind?]
          rcases ofBlock_cases hub s b none with ⟨block, hb, hk⟩ | ⟨t, hb, hk, hc⟩
          · exact Or.inl ⟨block, by rw [hb]; rfl, by rw [hb]; rfl, hk⟩
          · exact Or.inr ⟨t, by rw [hb]; rfl, by rw [hb]; rfl, hk, hc⟩
      | blockAndPrivateData b data =>
          simp only [StreamEvent.reading, StreamEvent.block?, DeliveredBlock.ofResponse,
            StreamEvent.kind?]
          rcases ofBlock_cases hub s b (some data) with ⟨block, hb, hk⟩ | ⟨t, hb, hk, hc⟩
          · exact Or.inl ⟨block, by rw [hb]; rfl, by rw [hb]; rfl, hk⟩
          · exact Or.inr ⟨t, by rw [hb]; rfl, by rw [hb]; rfl, hk, hc⟩

/-- A hub at rest that follows a stream of a generation and has not yet seen its end. -/
structure Follows (s : HubState ι) (generation : Nat) (source : ι) : Prop extends
    s.AtRest where
  stream : s.stream = some ⟨generation, source⟩
  unseen : s.stopSeen = false

/-- The stream that a hub follows is the current one. -/
theorem Follows.isCurrent {generation : Nat} {source : ι} (hs : s.Follows generation source) :
    s.isCurrent generation = true := by
  rw [HubState.isCurrent, hs.stream]
  simp

/-- The hub after blocks of its stream have been dispatched. -/
def afterBlocks (hub : String) (blocks : List DeliveredBlock) (s : HubState ι) : HubState ι :=
  { s with
    registry := (dispatchAll hub s.registry blocks).1
    lastBlock := lastAfter blocks s.lastBlock }

/-- What listeners are told about these blocks. -/
def toldOfBlocks (hub : String) (blocks : List DeliveredBlock) (s : HubState ι) :
    List Delivery :=
  (dispatchAll hub s.registry blocks).2

variable {generation : Nat} {source : ι}

/-- Once a block has been taken in, the notices about it are heard. -/
theorem flush_receive (hw : ∀ d e, w.handOver d e = .done (hear d e)) (hs : s.AtRest)
    (block : DeliveredBlock) (e : ε) :
    flush w hub (s.receive hub block).2 e =
      some ({ s.afterBlocks hub [block] with
          stopSeen := s.stopSeen || s.reaches block.number },
        hearAll hear (s.toldOfBlocks hub [block]) e) := by
  rw [flush_of_silent hw (s := (s.receive hub block).2) hs.draining, receive_snd]
  simp [afterBlocks, toldOfBlocks, dispatchAll, lastAfter, hs.queue]

/-- An event that does not end the stream is a block, which is dispatched. -/
theorem onEvent_of_kind_eq_none (hw : ∀ d e, w.handOver d e = .done (hear d e))
    (hs : s.Follows generation source) {event : StreamEvent} (hk : event.kind? s.stop = none)
    (e : ε) :
    onEvent w hub generation event s e =
      some (s.afterBlocks hub (event.block? hub).toList,
        hearAll hear (s.toldOfBlocks hub (event.block? hub).toList) e) := by
  rcases reading_cases hub hs.unseen event with ⟨block, hr, hb, hk'⟩ | ⟨t, -, -, hk', -⟩
  · rw [hk] at hk'
    have hreach : s.reaches block.number = false := by
      by_contra hne
      simp [hne] at hk'
    rw [onEvent_eq, hr, hb]
    simp only [onBlock_eq w hub block hs.isCurrent, flush_receive hw hs.toAtRest, hreach]
    simp [afterBlocks]
  · rw [hk] at hk'
    exact absurd hk' (by simp)

/-- What a shutdown makes of a hub `s` and a world `e`: every listener hears of the end,
which shows the reason, the source of the stream and the last block; then the source is
released. -/
structure ShutDown (w : Surroundings ε ι) (hear : Delivery → ε → ε) (kind : TerminationKind)
    (source : ι) (s : HubState ι) (e : ε) (r : HubState ι × ε) : Prop extends r.1.AtRest where
  stream : r.1.stream = none
  registry : r.1.registry.entries = []
  lastBlock : r.1.lastBlock = s.lastBlock
  world : ∃ t : Termination, t.kind = kind ∧ t.connection = some (w.connectionInfo source e) ∧
    t.lastBlockNumber = s.lastBlock ∧
    r.2 = w.release source
      (hearAll hear (s.registry.handles.map (⟨·, .terminated t⟩)) e)

/-- A hub that follows a stream shuts down when it is told to. -/
theorem closeWith_shutDown (hub : String) (hw : ∀ d e, w.handOver d e = .done (hear d e))
    (hs : s.AtRest) (hstream : s.stream = some ⟨generation, source⟩) {t : Termination}
    (ht : t.connection = none) (e : ε) :
    ∃ r, closeWith w hub t s e = some r ∧ ShutDown w hear t.kind source s e r := by
  refine ⟨_, closeWith_of_silent hw hs t e, ⟨hs.draining, hs.closing, hs.queue⟩, rfl, rfl, rfl,
    s.farewell (w.connectionInfo · e) t, rfl, ?_, rfl, ?_⟩
  · simp [farewell, ht, hstream]
  · rw [hstream]
    rfl

/-- An event that ends the stream shuts the hub down for its reason, after the block that it
may be has been dispatched. -/
theorem onEvent_of_kind_eq_some (hub : String) (hw : ∀ d e, w.handOver d e = .done (hear d e))
    (hs : s.Follows generation source) {event : StreamEvent} {kind : TerminationKind}
    (hk : event.kind? s.stop = some kind) (e : ε) :
    ∃ r, onEvent w hub generation event s e = some r ∧
      ShutDown w hear kind source (s.afterBlocks hub (event.block? hub).toList)
        (hearAll hear (s.toldOfBlocks hub (event.block? hub).toList) e) r := by
  rw [onEvent_eq]
  rcases reading_cases hub hs.unseen event with ⟨block, hr, hb, hk'⟩ | ⟨t, hr, hb, hk', ht⟩
  · have hreach : s.reaches block.number = true := by
      by_contra hne
      simp [hk, hne] at hk'
    rw [hk, hreach, if_pos rfl, Option.some.injEq] at hk'
    subst hk'
    rw [hr, hb]
    simp only [onBlock_eq w hub block hs.isCurrent, flush_receive hw hs.toAtRest, hreach,
      Option.bind_some, if_true]
    -- That the end has been seen makes no difference to the shutdown.
    obtain ⟨r, hclose, hdown⟩ := closeWith_shutDown hub
      (s := { s.afterBlocks hub [block] with stopSeen := s.stopSeen || true })
      (t := .endBlock hub block.number) hw ⟨hs.draining, hs.closing, hs.queue⟩ hs.stream rfl
      (hearAll hear (s.toldOfBlocks hub [block]) e)
    exact ⟨r, hclose, hdown.toAtRest, hdown.stream, hdown.registry, hdown.lastBlock,
      hdown.world⟩
  · rw [hk, Option.some.injEq] at hk'
    subst hk'
    rw [hr, hb]
    simp only [closeFor, if_pos hs.isCurrent]
    exact closeWith_shutDown hub hw hs.toAtRest hs.stream ht e

/-! ### All events -/

/-- A hub that has shut down reads no further. -/
theorem readEvents_of_stream_eq_none (w : Surroundings ε ι) (hub : String) (generation : Nat)
    (events : List StreamEvent) (hs : s.stream = none) (e : ε) :
    readEvents w hub generation events s e = some (s, e) := by
  cases events with
  | nil => rfl
  | cons event rest =>
      rw [readEvents, if_neg]
      simp [isCurrent, hs]

/-- Blocks are dispatched one part after the other. -/
theorem afterBlocks_append (hub : String) (blocks more : List DeliveredBlock)
    (s : HubState ι) :
    s.afterBlocks hub (blocks ++ more) = (s.afterBlocks hub blocks).afterBlocks hub more := by
  simp [afterBlocks, dispatchAll_append, lastAfter, List.foldl_append]

/-- Listeners are told about one part of the blocks after the other. -/
theorem toldOfBlocks_append (hub : String) (blocks more : List DeliveredBlock)
    (s : HubState ι) :
    s.toldOfBlocks hub (blocks ++ more) =
      s.toldOfBlocks hub blocks ++ (s.afterBlocks hub blocks).toldOfBlocks hub more := by
  simp [toldOfBlocks, afterBlocks, dispatchAll_append]

/-- Blocks leave a hub following its stream. -/
theorem Follows.afterBlocks (hs : s.Follows generation source) (hub : String)
    (blocks : List DeliveredBlock) : (s.afterBlocks hub blocks).Follows generation source :=
  ⟨⟨hs.draining, hs.closing, hs.queue⟩, hs.stream, hs.unseen⟩

/-- What comes of a hub `s` and a world `e` when blocks have been dispatched and then, if
there is a reason to, the hub has shut down. -/
def Outcome (w : Surroundings ε ι) (hub : String) (hear : Delivery → ε → ε)
    (blocks : List DeliveredBlock) (kind : Option TerminationKind) (source : ι)
    (s : HubState ι) (e : ε) (r : HubState ι × ε) : Prop :=
  match kind with
  | none => r = (s.afterBlocks hub blocks, hearAll hear (s.toldOfBlocks hub blocks) e)
  | some kind => ShutDown w hear kind source (s.afterBlocks hub blocks)
      (hearAll hear (s.toldOfBlocks hub blocks) e) r

/-- A hub that follows a stream dispatches the blocks up to the first event that ends the
stream, and then shuts down for the reason that this event is. -/
theorem readEvents_of_follows (hub : String) (hw : ∀ d e, w.handOver d e = .done (hear d e))
    (hs : s.Follows generation source) (events : List StreamEvent) (e : ε) :
    ∃ r, readEvents w hub generation events s e = some r ∧
      Outcome w hub hear ((StreamEvent.actedOn s.stop events).filterMap (·.block? hub))
        (events.findSome? (·.kind? s.stop)) source s e r := by
  induction events generalizing s e with
  | nil => exact ⟨_, rfl, rfl⟩
  | cons event rest ih =>
      have hcons : ∀ events : List StreamEvent,
          (event :: events).filterMap (·.block? hub) =
            (event.block? hub).toList ++ events.filterMap (·.block? hub) := by
        intro events
        rw [List.filterMap_cons]
        cases event.block? hub <;> rfl
      rw [readEvents, if_pos hs.isCurrent, StreamEvent.actedOn, List.findSome?_cons]
      cases hk : event.kind? s.stop with
      | none =>
          rw [onEvent_of_kind_eq_none hw hs hk]
          obtain ⟨r, hr, hout⟩ := ih (hs.afterBlocks hub (event.block? hub).toList)
            (hearAll hear (s.toldOfBlocks hub (event.block? hub).toList) e)
          refine ⟨r, hr, ?_⟩
          simp only [Outcome, hcons, afterBlocks_append, toldOfBlocks_append, hearAll_append]
          exact hout
      | some kind =>
          obtain ⟨r, hr, hdown⟩ := onEvent_of_kind_eq_some hub hw hs hk e
          refine ⟨r, ?_, ?_⟩
          · rw [hr]
            exact readEvents_of_stream_eq_none _ _ _ _ hdown.stream _
          · simp only [Outcome, hcons, List.filterMap_nil, List.append_nil]
            exact hdown

/-- Whatever a hub has been through, once a stream has been started on it, it dispatches the
blocks of the stream in order, up to the first event that ends the stream and with the block
that this event may carry. If there is such an event the hub then shuts down for the reason
that the event is, whatever would have come after it. -/
theorem start_readEvents {w₀ : Surroundings ε ι} {hub₀ : String} {e₀ : ε}
    {history : List HubMark} (hub : String) (hw : ∀ d e, w.handOver d e = .done (hear d e))
    (hs : Reachable w₀ hub₀ ⟨s, e₀, [], history⟩) (source : ι) (stop : Option BlockPosition)
    (first : DeliverResponse) (rest : List StreamEvent) (e : ε) :
    let events := StreamEvent.data first :: rest
    let blocks := (StreamEvent.actedOn stop events).filterMap (·.block? hub)
    let after := (s.install source stop).afterBlocks hub blocks
    let heard := hearAll hear ((s.install source stop).toldOfBlocks hub blocks) e
    after.registry.handles.Nodup ∧
    ∃ r, ((s.start w hub source stop first e).bind fun r =>
        r.1.readEvents w hub (s.generation + 1) rest r.2) = some r ∧
      match events.findSome? (·.kind? stop) with
      | none => r = (after, heard)
      | some kind => ShutDown w hear kind source after heard r := by
  intro events blocks after heard
  have hrest : s.AtRest := hs.nested.atRest rfl
  have hfollows : (s.install source stop).Follows (s.generation + 1) source :=
    ⟨⟨hrest.draining, hrest.closing, hrest.queue⟩, rfl, rfl⟩
  refine ⟨?_, ?_⟩
  · exact hs.balanced.registry.nodup.sublist (dispatchAll_handles_sublist _ _ _)
  · obtain ⟨r, hr, hout⟩ := readEvents_of_follows hub hw hfollows events e
    rw [readEvents, if_pos hfollows.isCurrent] at hr
    exact ⟨r, hr, hout⟩

/-- A stream up to block 1 that goes on to block 2. -/
theorem start_readEvents_past_end :
    let s : HubState Unit := { registry := (({} : Registry).insert ⟨.block, none, none, false⟩).2 }
    ∃ r, ((s.start .recording "hub" () (some (.number ⟨1⟩)) (.filteredBlock { number := 0 })
        []).bind fun r => r.1.readEvents .recording "hub" 1
          [.data (.filteredBlock { number := 1 }), .data (.filteredBlock { number := 2 })]
          r.2) = some r ∧
      r.1.lastBlock = some ⟨1⟩ ∧ r.1.registry.entries = [] ∧
      ∃ t : Termination, t.kind = .endBlockReached ∧ ⟨⟨1⟩, .terminated t⟩ ∈ r.2 := by
  intro s
  have hfresh : Reachable Surroundings.recording "hub" ⟨{}, [], [], []⟩ := .fresh []
  have hs := hfresh.call (.register ⟨.block, none, none, false⟩)
  have hw : ∀ d heard, Surroundings.recording.handOver d heard = .done (heard ++ [d]) :=
    fun _ _ => rfl
  obtain ⟨-, r, hr, hdown⟩ := start_readEvents "hub" hw hs () (some (.number ⟨1⟩))
    (.filteredBlock { number := 0 })
    [.data (.filteredBlock { number := 1 }), .data (.filteredBlock { number := 2 })] []
  obtain ⟨t, hkind, -, -, hworld⟩ := hdown.world
  refine ⟨r, hr, hdown.lastBlock, hdown.registry, t, hkind, ?_⟩
  rw [hworld]
  exact List.mem_append_right _ (List.mem_singleton.mpr rfl)

end HubState

end LedgerClient
