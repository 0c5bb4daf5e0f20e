import LedgerClient.Network.World
import LedgerClient.Proofs.Event.Generations
import LedgerClient.Proofs.Event.Shutdown

/-!
# Sending for a stream

Everything that may become of a request that is sent. It is refused, and nothing has happened;
or some event source starts, after those before it have failed; or all of them fail, and the
hub shuts down.

While a hub shuts down callbacks can do nothing but register and unregister listeners, so
no notices are added to those of the shutdown. A shutdown always returns therefore, which other
operations need not do.

## Main results

* `HubState.closeWith_returns`: a shutdown returns.
* `Reachable.closeWith_told`: a shutdown tells every listener of the end once, and nobody of
  anything else.
* `HubState.firstStarted_cases`: event sources are tried in order, each after all before it
  have failed.
* `World.beginStream_eq_error_iff`: what keeps an event source of a client from starting.
* `EventHub.send_cases`: what becomes of a request that is sent.
-/

namespace LedgerClient

open Relation (ReflTransGen)

variable {ε ι τ : Type}

namespace HubState

variable {s : HubState ι} {e : ε} (w : Surroundings ε ι) (hub : String)

/-! ### Shutdowns return -/

/-- While a hub shuts down, a callback changes nothing but who is registered. -/
theorem react_of_closing (reaction : Reaction ε) (hs : s.closing = true) :
    ∃ registry e', react w hub reaction s = ({ s with registry }, e') := by
  induction reaction generalizing s with
  | done e' => exact ⟨_, e', rfl⟩
  | register listener next ih =>
      exact ih (s.registry.insert listener).1
        (s := { s with registry := (s.registry.insert listener).2 }) hs
  | unregister handle next ih =>
      exact ih (s.registry.remove handle).1
        (s := { s with registry := (s.registry.remove handle).2 }) hs
  | close e' next ih =>
      have hdropped : s.closeQueued w (.closed hub) e' = (s, e') := by
        rw [closeQueued, beginClose_eq, if_pos hs]
      rw [react, hdropped]
      exact ih e' hs

/-- While a hub shuts down, the handing over of notices comes to an end. -/
theorem drain_of_closing (hs : s.closing = true) (e : ε) :
    ∃ registry e',
      drain w hub s e = some ({ s with registry, queue := [], draining := false }, e') := by
  obtain ⟨queue, hqueue⟩ : ∃ queue, s.queue = queue := ⟨_, rfl⟩
  induction queue generalizing s e with
  | nil =>
      refine ⟨s.registry, e, ?_⟩
      rw [drain, nextNotice, hqueue]
  | cons d rest ih =>
      obtain ⟨registry, e₁, hreact⟩ :=
        react_of_closing w hub (w.handOver d e) (s := { s with queue := rest }) hs
      obtain ⟨registry', e', hdrain⟩ :=
        ih (s := { s with queue := rest, registry }) hs e₁ rfl
      refine ⟨registry', e', ?_⟩
      rw [drain, nextNotice, hqueue]
      simp only [hreact]
      exact hdrain

/-- While a hub shuts down, a flush returns and leaves the stream alone. -/
theorem flush_of_closing (hs : s.closing = true) (e : ε) :
    ∃ s' e', flush w hub s e = some (s', e') ∧ s'.stream = s.stream := by
  rw [flush]
  cases hbegin : s.beginDrain with
  | none => exact ⟨s, e, rfl, rfl⟩
  | some s₁ =>
      obtain ⟨-, rfl⟩ := of_beginDrain_eq_some hbegin
      obtain ⟨registry, e', hdrain⟩ :=
        drain_of_closing w hub (s := { s with draining := true }) hs e
      exact ⟨_, e', hdrain, rfl⟩

/-- A shutdown returns, and leaves no stream behind unless another one is under way. -/
theorem closeWith_returns (t : Termination) (s : HubState ι) (e : ε) :
    ∃ s' e', closeWith w hub t s e = some (s', e') ∧
      s'.stream = if s.closing then s.stream else none := by
  rw [closeWith, beginClose_eq]
  by_cases hclosing : s.closing = true
  · simp only [if_pos hclosing]
    exact ⟨s, e, rfl, rfl⟩
  · simp only [if_neg hclosing]
    obtain ⟨s', e', hflush, hstream⟩ :=
      flush_of_closing w hub (s := s.closed (w.connectionInfo · e) t) rfl e
    exact ⟨s'.endClose, releaseStream w s.stream e', by rw [hflush]; rfl, hstream⟩

end HubState

/-! ### Shutdowns tell everybody once -/

section Course

variable {w : Surroundings ε ι} {hub : String} {m m' : Moment ε ι}

/-- While a hub shuts down, nobody is told of anything more. -/
theorem Moment.Step.told_of_closing (hs : m.Step w hub m') (hm : m.state.closing = true) :
    m'.ledger.told = m.ledger.told := by
  cases hs with
  | closeBegun h =>
      obtain ⟨hclosing, -, -⟩ := HubState.of_beginClose_eq_some h
      exact absurd (hm.symm.trans hclosing) nofun
  | flushBegun h =>
      obtain ⟨-, rfl⟩ := HubState.of_beginDrain_eq_some h
      rfl
  | drainEnded h =>
      obtain ⟨-, rfl⟩ := HubState.of_nextNotice_eq_none h
      rfl
  | handedOver h =>
      obtain ⟨rest, hq, rfl⟩ := HubState.of_nextNotice_eq_some h
      simp [Moment.ledger, handedIn, hq]
  | closeDropped | registered => simp [Moment.ledger, handedIn]
  | closeEnded | flushSkipped | returned | unregistered | closeAsked | resumed => rfl

/-- A shutdown whose end is still to come is under way. -/
theorem Moment.Nested.closing {stream : Option (ActiveStream ι)} (hm : m.Nested)
    (hend : .endClose stream ∈ m.tasks) : m.state.closing = true := by
  have hcloses := hm.closes
  have hpos : 0 < m.tasks.countP HubTask.isEndClose := List.countP_pos_iff.mpr ⟨_, hend, rfl⟩
  by_contra hclosing
  rw [if_neg hclosing] at hcloses
  omega

/-- From the beginning of a shutdown to its end, nobody is told of anything more. -/
theorem told_until_closed {stream : Option (ActiveStream ι)} (hm : Reachable w hub m)
    (hlast : m.tasks.getLast? = some (.endClose stream))
    (hs : ReflTransGen (Moment.Step w hub) m m') :
    m'.ledger.told = m.ledger.told ∧
      (m'.tasks.getLast? = some (.endClose stream) ∨ m'.tasks = []) := by
  induction hs with
  | refl => exact ⟨rfl, .inl hlast⟩
  | @tail m₁ m₂ hsteps hstep ih =>
      obtain ⟨htold, hlast₁ | hidle⟩ := ih
      · have hclosing := (hm.steps hsteps).1.nested.closing (List.mem_of_getLast? hlast₁)
        refine ⟨(hstep.told_of_closing hclosing).trans htold, ?_⟩
        rcases hstep.getLast_eq with ⟨task, htask⟩ | hkept
        · rw [htask] at hlast₁
          obtain rfl : task = .endClose stream := by simpa using hlast₁
          cases hstep with
          | closeEnded => exact .inr (List.cons.inj htask).2
          | _ => exact nomatch (List.cons.inj htask).1
        · exact .inl (hkept.trans hlast₁)
      · obtain ⟨task, added, rest, htasks, -⟩ := hstep.tasks_eq
        exact nomatch hidle.symm.trans htasks

/-- A shutdown that finds the hub at rest tells every listener of the end once, and nobody of
anything else. -/
theorem Reachable.closeWith_told {s : HubState ι} {e : ε} {history : List HubMark}
    {t : Termination} {r : HubState ι × ε} (hm : Reachable w hub ⟨s, e, [], history⟩)
    (h : s.closeWith w hub t e = some r) :
    ∃ more, Reachable w hub ⟨r.1, r.2, [], history ++ more⟩ ∧
      handedIn more =
        s.registry.handles.map (⟨·, .terminated (s.farewell (w.connectionInfo · e) t)⟩) := by
  have hrest : s.AtRest := hm.nested.atRest rfl
  obtain ⟨history', hsteps⟩ := (HubCall.run_eq_some_iff (.close t) hm).mp h
  obtain ⟨hend, more, rfl⟩ := (hm.call (.close t)).steps hsteps
  refine ⟨more, hend, ?_⟩
  rcases ReflTransGen.cases_head hsteps with hnone | ⟨m₁, hfirst, hlater⟩
  · exact nomatch congrArg Moment.tasks hnone
  cases hfirst with
  | closeDropped hb =>
      rw [HubState.beginClose_eq, hrest.closing] at hb
      exact nomatch hb
  | closeBegun hb =>
      have hbegun := (hm.call (.close t)).step (.closeBegun hb)
      obtain ⟨htold, -⟩ := told_until_closed hbegun rfl hlater
      obtain ⟨-, rfl, -⟩ := HubState.of_beginClose_eq_some hb
      have hqueue : r.1.queue = [] := (hend.nested.atRest rfl).queue
      simpa [Moment.ledger, handedIn, HubCall.begin, HubState.closed, hqueue, hrest.queue]
        using htold

end Course

/-! ### Trying event sources -/

/-- Some targets are tried in order and all fail, with these errors. -/
inductive Failing (begin : τ → ε → Except ServiceError (ι × DeliverResponse) × ε) :
    List τ → ε → List ServiceError → ε → Prop where
  | nil (e : ε) : Failing begin [] e [] e
  | cons {target rest error errors e e₁ e'} (h : begin target e = (.error error, e₁))
      (hrest : Failing begin rest e₁ errors e') :
      Failing begin (target :: rest) e (error :: errors) e'

/-- Event sources are tried in order, each after all before it have failed, until one delivers
a first message. If none does, the last error is what remains. -/
theorem HubState.firstStarted_cases
    (begin : τ → ε → Except ServiceError (ι × DeliverResponse) × ε) (lastError : ServiceError)
    (targets : List τ) (e : ε) :
    (∃ failed target rest errors e₁ source first e₂, targets = failed ++ target :: rest ∧
      Failing begin failed e errors e₁ ∧ begin target e₁ = (.ok (source, first), e₂) ∧
      firstStarted begin lastError targets e = (.ok (source, first), e₂)) ∨
    (∃ errors e₁, Failing begin targets e errors e₁ ∧
      firstStarted begin lastError targets e = (.error (errors.getLastD lastError), e₁)) := by
  induction targets generalizing lastError e with
  | nil => exact .inr ⟨[], e, .nil e, rfl⟩
  | cons target rest ih =>
      cases hbegin : begin target e with
      | mk result e₁ =>
          rw [firstStarted, hbegin]
          cases result with
          | ok started =>
              obtain ⟨source, first⟩ := started
              exact .inl ⟨[], target, rest, [], e, source, first, e₁, rfl, .nil e, hbegin, rfl⟩
          | error error =>
              rcases ih error e₁ with
                ⟨failed, next, rest', errors, e₂, source, first, e₃, rfl, hfailed, hnext, heq⟩ |
                ⟨errors, e₂, hfailed, heq⟩
              · exact .inl ⟨target :: failed, next, rest', error :: errors, e₂, source, first, e₃,
                  rfl, .cons hbegin hfailed, hnext, heq⟩
              · refine .inr ⟨error :: errors, e₂, .cons hbegin hfailed, ?_⟩
                rw [List.getLastD_cons]
                exact heq

/-- Targets that all fail have the last error to show for it. -/
theorem Failing.exists_last {begin : τ → ε → Except ServiceError (ι × DeliverResponse) × ε}
    {targets : List τ} {e e' : ε} {errors : List ServiceError} (lastError : ServiceError)
    (h : Failing begin targets e errors e') (htargets : targets ≠ []) :
    errors.getLast? = some (errors.getLastD lastError) := by
  cases h with
  | nil => exact absurd rfl htargets
  | cons => rw [List.getLast?_cons, List.getLastD_cons, List.getLastD_eq_getLast?]

/-! ### The event sources of a client -/

/-- A source that cannot be connected again is not connected. -/
theorem Eventer.ensureConnected_error {σ γ κ : Type} {transport : κ → Transport σ γ}
    {v v' : Eventer γ κ} {s s' : σ} {error : ServiceError}
    (h : v.ensureConnected transport s = (.error error, v', s')) :
    v'.link.isConnected = false := by
  rw [ensureConnected] at h
  split at h
  · cases h
  next hnot =>
  split at h
  · next endpoint connector _ _ =>
    rcases hconnect : v.link.connect (transport connector) endpoint s with ⟨result, link, s₁⟩
    rw [hconnect] at h
    cases h
    rw [Link.connect_error hconnect]
    exact Bool.eq_false_iff.mpr hnot
  · cases h
    exact Bool.eq_false_iff.mpr hnot

namespace World

variable {id : EventerId} {blockType : BlockType} {envelope : Envelope} {timeout : Option Nat}
  {world world' : World}

/-- The limit for starting a stream at an event source. -/
def startLimit (id : EventerId) (timeout : Option Nat) (world : World) : Nat :=
  match world.link? id with
  | some l => l.requestTimeout timeout
  | none => 0

/-- An event source delivers a first message in time: it is connected or can be connected
again, it opens a stream, and the message can be read from the stream without waiting. -/
def Delivers (id : EventerId) (blockType : BlockType) (envelope : Envelope)
    (timeout : Option Nat) (source : StreamSource) (first : DeliverResponse)
    (world world' : World) : Prop :=
  source.eventer = id ∧ ∃ w₁ w₂, world.ensureConnected id = (.ok (), w₁) ∧
    w₁.openStream blockType envelope (some (w₁.startLimit id timeout)) id =
      (.ok source.feed, w₂) ∧
    w₂.takeEvent? source.feed = (some (.data first), world')

/-- What starting an event source comes to, with one name for the limit and one for letting go. -/
theorem beginStream_eq (id : EventerId) (blockType : BlockType) (envelope : Envelope)
    (timeout : Option Nat) (world : World) :
    world.beginStream id blockType envelope timeout =
      match world.ensureConnected id with
      | (.error e, w) => (.error e, w)
      | (.ok (), w) =>
        match w.openStream blockType envelope (some (w.startLimit id timeout)) id with
        | (.error e, w') => (.error e, w'.disconnect id)
        | (.ok feed, w') =>
          match w'.takeEvent? feed with
          | (some (.data first), w') => (.ok (⟨id, feed⟩, first), w')
          | (some (.failed reason), w') =>
            (.error (.transport (w.connectionInfo id) .deliver reason), w'.releaseSource ⟨id, feed⟩)
          | (some .ended, w') =>
            (.error (.transport (w.connectionInfo id) .deliver "stream ended before any data"),
              w'.releaseSource ⟨id, feed⟩)
          | (none, w') =>
            (.error (.timeout (w.connectionInfo id) .startEventService (w.startLimit id timeout)),
              (w'.elapse (w.startLimit id timeout)).releaseSource ⟨id, feed⟩) := rfl

/-- An event source starts exactly if it delivers a first message in time. -/
theorem beginStream_eq_ok_iff {source : StreamSource} {first : DeliverResponse} :
    world.beginStream id blockType envelope timeout = (.ok (source, first), world') ↔
      Delivers id blockType envelope timeout source first world world' := by
  rw [beginStream_eq]
  constructor
  · intro h
    split at h
    · cases h
    next w₁ hconnected =>
    split at h
    · cases h
    next feed w₂ hopened =>
    split at h <;> simp only [Prod.mk.injEq, Except.ok.injEq, reduceCtorEq, false_and] at h
    next message w₃ htaken =>
    obtain ⟨⟨rfl, rfl⟩, rfl⟩ := h
    exact ⟨rfl, w₁, w₂, hconnected, hopened, htaken⟩
  · rintro ⟨rfl, w₁, w₂, hconnected, hopened, htaken⟩
    simp only [hconnected, hopened, htaken]

/-- What keeps an event source from starting, with the error that is reported and the world that
is left behind. -/
inductive Falters (id : EventerId) (blockType : BlockType) (envelope : Envelope)
    (timeout : Option Nat) (world : World) : ServiceError → World → Prop
  /-- It cannot be connected again, and is left alone. -/
  | unreachable {error world'} (hconnect : world.ensureConnected id = (.error error, world')) :
      Falters id blockType envelope timeout world error world'
  /-- It opens no stream in time, and is disconnected. -/
  | unopened {error w₁ w₂} (hconnect : world.ensureConnected id = (.ok (), w₁))
      (hopen : w₁.openStream blockType envelope (some (w₁.startLimit id timeout)) id =
        (.error error, w₂)) :
      Falters id blockType envelope timeout world error (w₂.disconnect id)
  /-- It opens a stream, which breaks or ends before any message. The stream is released. -/
  | broken {feed event reason w₁ w₂ w₃} (hconnect : world.ensureConnected id = (.ok (), w₁))
      (hopen : w₁.openStream blockType envelope (some (w₁.startLimit id timeout)) id =
        (.ok feed, w₂))
      (htake : w₂.takeEvent? feed = (some event, w₃))
      (hevent : event = .failed reason ∨
        event = .ended ∧ reason = "stream ended before any data") :
      Falters id blockType envelope timeout world
        (.transport (w₁.connectionInfo id) .deliver reason) (w₃.releaseSource ⟨id, feed⟩)
  /-- It opens a stream, and the limit passes without a message. The stream is released. -/
  | late {feed w₁ w₂ w₃} (hconnect : world.ensureConnected id = (.ok (), w₁))
      (hopen : w₁.openStream blockType envelope (some (w₁.startLimit id timeout)) id =
        (.ok feed, w₂))
      (htake : w₂.takeEvent? feed = (none, w₃)) :
      Falters id blockType envelope timeout world
        (.timeout (w₁.connectionInfo id) .startEventService (w₁.startLimit id timeout))
        ((w₃.elapse (w₁.startLimit id timeout)).releaseSource ⟨id, feed⟩)

/-- An event source fails to start exactly if something keeps it from it. -/
theorem beginStream_eq_error_iff {error : ServiceError} :
    world.beginStream id blockType envelope timeout = (.error error, world') ↔
      Falters id blockType envelope timeout world error world' := by
  rw [beginStream_eq]
  constructor
  · intro h
    split at h
    · next hconnect =>
      cases h
      exact .unreachable hconnect
    next w₁ hconnect =>
    split at h
    · next hopen =>
      cases h
      exact .unopened hconnect hopen
    next feed w₂ hopen =>
    split at h
    · cases h
    · next htake =>
      cases h
      exact .broken hconnect hopen htake (.inl rfl)
    · next htake =>
      cases h
      exact .broken hconnect hopen htake (.inr ⟨rfl, rfl⟩)
    · next htake =>
      cases h
      exact .late hconnect hopen htake
  · rintro (⟨hconnect⟩ | ⟨hconnect, hopen⟩ | ⟨hconnect, hopen, htake, rfl | ⟨rfl, rfl⟩⟩ |
      ⟨hconnect, hopen, htake⟩)
    · simp only [hconnect]
    · simp only [hconnect, hopen]
    · simp only [hconnect, hopen, htake]
    · simp only [hconnect, hopen, htake]
    · simp only [hconnect, hopen, htake]

/-- An event source that has been disconnected is not connected. -/
theorem link?_disconnect (id : EventerId) (world : World) :
    ((world.disconnect id).link? id).any Link.isConnected = false := by
  rw [disconnect]
  cases hlink : world.link? id with
  | none => rw [hlink]; rfl
  | some l =>
      have hclosed : (l.disconnect (transport .eventer) world).1.isConnected = false := by
        rw [Link.disconnect, Link.isConnected]
        cases hclient : l.client <;> simp [hclient]
      simp only [setLink, link?, Table.get?_modify_self]
      cases (Table.get? (eventers _) id.index) with
      | none => rfl
      | some v => exact hclosed

/-- An event source that cannot be connected again is not connected. -/
theorem link?_of_ensureConnected_error {error : ServiceError}
    (h : world.ensureConnected id = (.error error, world')) :
    (world'.link? id).any Link.isConnected = false := by
  rw [ensureConnected] at h
  split at h
  · next hnone =>
    cases h
    simp [link?, hnone]
  · next v hv =>
    rcases hagain : v.ensureConnected (fun () => transport .eventer) world with ⟨result, v', w₁⟩
    rw [hagain] at h
    cases h
    have hnot := Eventer.ensureConnected_error hagain
    simp only [link?, Table.get?_set_self]
    cases w₁.eventers.get? id.index with
    | none => rfl
    | some _ => exact hnot

/-- An event source that fails to start is not connected. -/
theorem Falters.link? {error : ServiceError}
    (h : Falters id blockType envelope timeout world error world') :
    (world'.link? id).any Link.isConnected = false := by
  cases h with
  | unreachable hconnect => exact link?_of_ensureConnected_error hconnect
  | unopened | broken | late => exact link?_disconnect _ _

/-- Disconnecting an event source leaves the streams alone. -/
theorem feeds_disconnect (id : EventerId) (world : World) :
    (world.disconnect id).network.feeds = world.network.feeds := by
  rw [disconnect]
  cases world.link? id with
  | none => rfl
  | some l =>
      simp only [Link.disconnect]
      cases l.client <;> rfl

/-- A stream has been let go of: its event source is not connected, nobody reads the stream any
more, and nothing is left in it to be read. -/
structure Released (source : StreamSource) (world : World) : Prop where
  link : (world.link? source.eventer).any Link.isConnected = false
  feed : ∀ feed, world.network.feeds.get? source.feed.index = some feed →
    feed.receiverOpen = false ∧ feed.buffer = []

/-- To release a stream is to let go of it. -/
theorem released_releaseSource (source : StreamSource) (world : World) :
    (world.releaseSource source).Released source where
  link := link?_disconnect _ _
  feed := by
    intro feed hfeed
    rw [releaseSource, feeds_disconnect, dropFeed, Table.get?_modify_self] at hfeed
    obtain ⟨old, -, rfl⟩ := Option.map_eq_some_iff.mp hfeed
    exact ⟨rfl, rfl⟩

end World

/-! ### Sending -/

/-- A stream of `source` has taken the place of the one that the hub had in `s`, if it had one.
Its generation is a fresh one, everybody is still registered, and no notice has been queued or
handed over. -/
structure HubState.Replaced (w : Surroundings ε ι) (hub : String) (s : HubState ι) (e : ε)
    (source : ι) (s' : HubState ι) (e' : ε) : Prop where
  stream : s'.stream = some ⟨s'.generation, source⟩
  registry : s'.registry = s.registry
  queue : s'.queue = s.queue
  lastBlock : s'.lastBlock = s.lastBlock
  silent : ∀ history, Reachable w hub ⟨s, e, [], history⟩ → Reachable w hub ⟨s', e', [], history⟩
  fresh : ∀ e₀ p history log, Traced.Later w hub (.start e₀) p →
    Traced.Later w hub p ⟨⟨s, e, [], history⟩, log⟩ →
    ¬ p.moment.state.isCurrent s'.generation = true

/-- A hub has stopped listening since no event source could be started. Everybody who was
registered in `s` has been told so once, nobody has been told of anything else, and the notice
shows the last error. -/
structure HubState.GivenUp (w : Surroundings ε ι) (hub : String) (s : HubState ι) (e : ε)
    (error : ServiceError) (s' : HubState ι) (e' : ε) : Prop where
  stream : s'.stream = none
  nodup : ∀ history, Reachable w hub ⟨s, e, [], history⟩ → s.registry.handles.Nodup
  told : ∀ history, Reachable w hub ⟨s, e, [], history⟩ → ∃ more t,
    Reachable w hub ⟨s', e', [], history ++ more⟩ ∧
    handedIn more = s.registry.handles.map (⟨·, .terminated t⟩) ∧
    t.kind = (if error.isTimeout then .setupTimeout else .setupFailed) ∧
    t.connection = error.connection? ∧ t.lastBlockNumber = s.lastBlock

section Sending

variable {w : Surroundings ε ι} {hub : String} {s : HubState ι} {e : ε}

/-- Between two operations the stream is taken out, and then the world changes. -/
theorem Reachable.stopped {history : List HubMark} (hm : Reachable w hub ⟨s, e, [], history⟩)
    (e' : ε) : Reachable w hub ⟨(s.stopStream w e).1, e', [], history⟩ :=
  (hm.call .stopStream).elapse e'

/-- A stream is replaced by taking it out and installing another one. -/
theorem HubState.stopStream_install_replaced (source : ι) (stop : Option BlockPosition) (e' : ε) :
    Replaced w hub s e source ((s.stopStream w e).1.install source stop) e' where
  stream := rfl
  registry := rfl
  queue := rfl
  lastBlock := rfl
  silent := fun _ hm => (hm.stopped e').call (.install source stop)
  fresh := by
    intro e₀ p history log hp hlater hcurrent
    have hle : s.generation + 1 ≤ s.generation :=
      Nat.le_trans (hp.isCurrent_le hcurrent) hlater.advances.generation_le
    exact absurd hle (Nat.not_succ_le_self _)

/-- A hub gives up by a shutdown that shows the last error. -/
theorem HubState.stopStream_closeWith_givenUp {error : ServiceError} {e₁ : ε}
    {r : HubState ι × ε}
    (h : (s.stopStream w e).1.closeWith w hub (.setup hub error) e₁ = some r) :
    GivenUp w hub s e error r.1 r.2 where
  stream := by
    obtain ⟨s', e', hclose, hstream⟩ :=
      closeWith_returns w hub (.setup hub error) (s.stopStream w e).1 e₁
    obtain rfl := Option.some.inj (h.symm.trans hclose)
    rw [hstream]
    exact ite_self _
  nodup := fun _ hm => hm.balanced.registry.nodup
  told := by
    intro history hm
    obtain ⟨more, hend, htold⟩ := (hm.stopped e₁).closeWith_told h
    refine ⟨more, _, hend, htold, ?_, ?_, rfl⟩
    · simp only [farewell, Termination.setup]
      split <;> rfl
    · simp only [farewell, Termination.setup, stopStream]
      split <;> cases error.connection? <;> rfl

end Sending

namespace EventHub

/-- A signed request that has targets is sent to them after the stream has been taken out. -/
theorem send_of_envelope (w : Surroundings ε ι)
    (begin : τ → BlockType → Envelope → Option Nat → ε →
      Except ServiceError (ι × DeliverResponse) × ε)
    {targets : List τ} (timeout : Option Nat) {h : EventHub ι} {e : ε} {envelope : Envelope}
    (htargets : targets ≠ []) (henvelope : h.request.state.envelope action = .ok envelope) :
    h.send w begin targets timeout e =
      match HubState.firstStarted (fun target => begin target h.request.blockType envelope
          (timeout <|> h.config.setupTimeout)) (.missingParameter "targets") targets
          (HubState.releaseStream w h.state.stream e) with
      | (.ok (source, first), e₁) =>
        ((h.state.stopStream w e).1.start w h.name source h.request.stop first e₁).map
          fun r => (.ok (), h.withState r)
      | (.error error, e₁) =>
        ((h.state.stopStream w e).1.closeWith w h.name (.setup h.name error) e₁).map
          fun r => (.error (.service error), h.withState r) := by
  rw [send, if_neg (by simpa using htargets), henvelope]
  simp only [HubState.stopStream]
  -- Both sides read the same attempts, so their outcome is split once for both.
  generalize HubState.firstStarted _ _ targets _ = outcome
  obtain ⟨error | ⟨source, first⟩, e₁⟩ := outcome
  · exact Option.map_eq_bind.symm
  · exact Option.map_eq_bind.symm

/-- What becomes of a request that is sent, whatever the hub has been through, whatever the
event sources do and whatever callbacks do.

Without targets, or without a signed request, it is refused and nothing has changed. Otherwise
the source of the stream that the hub has is released, and then targets are tried in order, each
after all before it have failed. If one delivers a first message, its stream takes the place of
the old one, and the rest is the handling of this message. If none does, the hub gives up. The
event sources of a client are such targets: they start if they deliver a first message in time,
and otherwise something keeps them from it, and they are left without a connection. To release
one is to let go of its stream and to disconnect it. -/
theorem send_cases (w : Surroundings ε ι)
    (begin : τ → BlockType → Envelope → Option Nat → ε →
      Except ServiceError (ι × DeliverResponse) × ε)
    (targets : List τ) (timeout : Option Nat) (h : EventHub ι) (e : ε) :
    (targets = [] →
      h.send w begin targets timeout e = some (.error (.missingParameter "targets"), h, e)) ∧
    (targets ≠ [] → (h.request.state.payload = none ∨ h.request.state.signature = none) →
      ∃ error, h.request.state.envelope action = .error error ∧
        h.send w begin targets timeout e = some (.error (.action error), h, e)) ∧
    (targets ≠ [] → ∀ payload signature, h.request.state = ⟨some payload, some signature⟩ →
      let start (target : τ) := begin target h.request.blockType { payload, signature }
        (timeout <|> h.config.setupTimeout)
      let released := match h.state.stream with
        | some stream => w.release stream.source e
        | none => e
      (∃ failed target rest errors e₁ source first e₂ s',
        targets = failed ++ target :: rest ∧ Failing start failed released errors e₁ ∧
        start target e₁ = (.ok (source, first), e₂) ∧
        h.state.Replaced w h.name e source s' e₂ ∧ s'.stop = h.request.stop ∧
        h.send w begin targets timeout e =
          (s'.onMessage w h.name s'.generation first e₂).map fun r => (.ok (), h.withState r)) ∨
      (∃ errors error e₁ s' e',
        Failing start targets released errors e₁ ∧ errors.getLast? = some error ∧
        h.send w begin targets timeout e =
          some (.error (.service error), { h with state := s' }, e') ∧
        h.state.GivenUp w h.name e error s' e')) ∧
    (∀ (id : EventerId) blockType envelope limit (world world' : World),
      (∀ source first,
        world.beginStream id blockType envelope limit = (.ok (source, first), world') ↔
          World.Delivers id blockType envelope limit source first world world') ∧
      ∀ error,
        (world.beginStream id blockType envelope limit = (.error error, world') ↔
          World.Falters id blockType envelope limit world error world') ∧
        (World.Falters id blockType envelope limit world error world' →
          (world'.link? id).any Link.isConnected = false)) ∧
    ∀ (source : StreamSource) (world : World), (world.releaseSource source).Released source := by
  refine ⟨?_, ?_, ?_, fun _ _ _ _ _ _ => ⟨fun _ _ => World.beginStream_eq_ok_iff,
    fun _ => ⟨World.beginStream_eq_error_iff, World.Falters.link?⟩⟩, World.released_releaseSource⟩
  · rintro rfl
    rfl
  · intro htargets hunsigned
    obtain ⟨error, herror⟩ : ∃ error, h.request.state.envelope action = .error error := by
      rw [SignState.envelope]
      rcases hunsigned with hnone | hnone
      · exact ⟨_, by rw [hnone]⟩
      · cases hpayload : h.request.state.payload <;> exact ⟨_, by rw [hnone]⟩
    refine ⟨error, herror, ?_⟩
    rw [send, if_neg (by simpa using htargets), herror]
  · intro htargets payload signature hsigned start released
    have hreleased : HubState.releaseStream w h.state.stream e = released := by
      cases hstream : h.state.stream <;> simp only [released, hstream] <;> rfl
    have hsend := send_of_envelope w begin timeout (h := h) (e := e) htargets
      (show h.request.state.envelope action = .ok { payload, signature } by rw [hsigned]; rfl)
    rw [hreleased] at hsend
    rcases HubState.firstStarted_cases start (.missingParameter "targets") targets released with
      ⟨failed, target, rest, errors, e₁, source, first, e₂, rfl, hfailed, hstart, heq⟩ |
      ⟨errors, e₁, hfailed, heq⟩
    · simp only [start] at heq
      rw [heq] at hsend
      exact .inl ⟨failed, target, rest, errors, e₁, source, first, e₂, _, rfl, hfailed, hstart,
        HubState.stopStream_install_replaced source h.request.stop e₂, rfl, hsend⟩
    · simp only [start] at heq
      rw [heq] at hsend
      obtain ⟨s', e', hclose, -⟩ := HubState.closeWith_returns w h.name
        (.setup h.name (errors.getLastD (.missingParameter "targets")))
        (h.state.stopStream w e).1 e₁
      refine .inr ⟨errors, _, e₁, s', e', hfailed, hfailed.exists_last _ htargets, ?_,
        HubState.stopStream_closeWith_givenUp hclose⟩
      rw [hsend]
      simp only [hclose]
      rfl

/-- A hub with a listener and a stream, whose request has been signed. -/
def listening : EventHub Unit where
  name := "hub"
  channel := "ch"
  config := {}
  request := { state := ⟨some [1], some [2]⟩ }
  state := .untilOne

/-- What can be noted while a request is sent. -/
inductive SendNote where
  | released
  | tried (target : Nat)
  | told (d : Delivery)
  deriving DecidableEq, Repr

/-- Surroundings that note what is released and who is told. -/
def noting : Surroundings (List SendNote) Unit where
  handOver d notes := .done (notes ++ [.told d])
  release _ notes := notes ++ [.released]
  connectionInfo _ _ := {}

/-- Targets that fail: the first one is not connected, and the others do not answer in time. -/
def silentTarget (target : Nat) (_ : BlockType) (_ : Envelope) (_ : Option Nat)
    (notes : List SendNote) : Except ServiceError (Unit × DeliverResponse) × List SendNote :=
  (.error (if target = 1 then .notConnected {} else .timeout {} .startEventService target),
    notes ++ [.tried target])

/-- The timeout that the second target ends with. -/
def noAnswer : ServiceError := .timeout {} .startEventService 2

/-- The shutdown after the two targets tells the listener of the timeout. -/
theorem closeWith_noting : ∃ s',
    (HubState.untilOne.stopStream noting []).1.closeWith noting "hub" (.setup "hub" noAnswer)
      [.released, .tried 1, .tried 2] =
    some (s', [.released, .tried 1, .tried 2, .told ⟨⟨1⟩, .terminated (.setup "hub" noAnswer)⟩]) :=
  ⟨_, (HubCall.run_eq_some_iff (.close (.setup "hub" noAnswer))
    ((Reachable.untilOne noting "hub" []).stopped _)).mpr ⟨_, .head (.closeBegun rfl)
      (.head (.flushBegun rfl) (.head (.handedOver rfl) (.head .returned
        (.head (.drainEnded rfl) (.single .closeEnded)))))⟩⟩

/-- The old stream is released, and then two targets fail in turn, the second of them since its
limit is over. The listener hears of a timeout, and the hub is left without a stream. -/
theorem send_cases_none_starts :
    ∃ s' t,
      listening.send noting silentTarget [1, 2] none [] =
        some (.error (.service noAnswer), { listening with state := s' },
          [.released, .tried 1, .tried 2, .told ⟨⟨1⟩, .terminated t⟩]) ∧
      s'.stream = none ∧ t.kind = .setupTimeout := by
  obtain ⟨-, -, hsend, -⟩ := send_cases noting silentTarget [1, 2] none listening []
  rcases hsend (List.cons_ne_nil _ _) [1] [2] rfl with
    ⟨failed, target, rest, errors, e₁, source, first, e₂, s', -, -, hstart, -⟩ |
    ⟨errors, error, e₁, s', notes, hfailing, hlast, hsend, hgivenUp⟩
  · cases hstart
  · obtain ⟨⟩ | ⟨hfirst, hsecond⟩ := hfailing
    obtain ⟨⟩ | ⟨hsecond, hrest⟩ := hsecond
    cases hrest
    cases hfirst
    cases hsecond
    cases hlast
    obtain ⟨s₁, hclose⟩ := closeWith_noting
    have hclosed := (send_of_envelope noting silentTarget none (h := listening) (e := [])
      (List.cons_ne_nil 1 [2]) rfl).trans (congrArg (Option.map _) hclose)
    cases hsend.symm.trans hclosed
    exact ⟨_, _, hsend, hgivenUp.stream, rfl⟩

end EventHub

end LedgerClient
