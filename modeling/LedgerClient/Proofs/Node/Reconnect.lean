import LedgerClient.Node.Node
import LedgerClient.Proofs.Node.Lifecycle

/-!
# Event sources that are connected again

An event source remembers the endpoint of the last connect that succeeded, which is part of its
link, and the connector of the last connect that was tried. After a connect that failed the two
need not belong together: connecting again then goes to the old endpoint through the connector
that has failed. A run of calls is followed together with the attempts that connectors are asked
for.

## Main results

* `EventerRun.Sound.run`: what is remembered after any calls.
* `EventerRun.remembered`: which attempt it takes to connect again, and when it is made through
  the connector that last reached the endpoint.
* `EventerRun.remembered_other_connector`: an attempt through a connector that never reached it.
-/

namespace LedgerClient

variable {σ γ κ : Type}

/-! ### Calls and what is known of them -/

/-- What may be done with an event source; it is disconnected in any outside world. -/
inductive EventerCall (σ γ κ : Type) where
  | connect (e : Endpoint) (connector : κ)
  | disconnect (t : Transport σ γ)
  | ensureConnected

/-- What a call on an event source has come to. -/
inductive EventerMark (κ : Type) where
  | connect (e : Endpoint) (connector : κ) (result : Except ServiceError Unit)
  | disconnected
  | ensured (result : Except ServiceError Unit)

namespace EventerMark

/-- The connector of a connect, whatever has become of it. -/
def told? : EventerMark κ → Option κ
  | .connect _ connector _ => some connector
  | .disconnected | .ensured _ => none

/-- The connector and the endpoint of a connect that succeeded. -/
def reached? : EventerMark κ → Option (κ × Endpoint)
  | .connect e connector (.ok ()) => some (connector, e)
  | .connect _ _ (.error _) | .disconnected | .ensured _ => none

/-- The connector of the last connect. -/
def lastTold (marks : List (EventerMark κ)) : Option κ :=
  (marks.filterMap told?).getLast?

/-- The connector and the endpoint of the last connect that succeeded. -/
def lastReached (marks : List (EventerMark κ)) : Option (κ × Endpoint) :=
  (marks.filterMap reached?).getLast?

theorem lastTold_append (marks : List (EventerMark κ)) (mark : EventerMark κ) :
    lastTold (marks ++ [mark]) = mark.told?.or (lastTold marks) := by
  cases h : mark.told? <;> simp [lastTold, h]

theorem lastReached_append (marks : List (EventerMark κ)) (mark : EventerMark κ) :
    lastReached (marks ++ [mark]) = mark.reached?.or (lastReached marks) := by
  cases h : mark.reached? <;> simp [lastReached, h]

/-- A connector that reached an endpoint was told. -/
theorem told?_of_reached? {mark : EventerMark κ} {connector : κ} {e : Endpoint}
    (h : mark.reached? = some (connector, e)) : mark.told? = some connector := by
  unfold reached? at h
  split at h <;> cases h
  rfl

theorem reached?_eq_none {mark : EventerMark κ} (h : mark.told? = none) : mark.reached? = none := by
  refine Option.eq_none_iff_forall_ne_some.mpr fun p hp => ?_
  have htold : mark.told? = some p.1 := told?_of_reached? hp
  rw [h] at htold
  cases htold

/-- As long as no connect is tried after one that succeeded, its connector is the last one that
was told and its endpoint the last one that was reached. -/
theorem last_of_append_cons {after : List (EventerMark κ)} {mark : EventerMark κ}
    {connector : κ} {e : Endpoint} (before : List (EventerMark κ))
    (hmark : mark.reached? = some (connector, e))
    (hafter : ∀ mark ∈ after, mark.told? = none) :
    lastTold (before ++ mark :: after) = some connector ∧
      lastReached (before ++ mark :: after) = some (connector, e) := by
  constructor
  · rw [lastTold, List.filterMap_append, List.filterMap_cons, told?_of_reached? hmark,
      List.filterMap_eq_nil_iff.mpr hafter]
    simp
  · rw [lastReached, List.filterMap_append, List.filterMap_cons, hmark,
      List.filterMap_eq_nil_iff.mpr fun mark hmark => reached?_eq_none (hafter mark hmark)]
    simp

/-- Some connector was told if an endpoint was reached. -/
theorem exists_lastTold {marks : List (EventerMark κ)} {p : κ × Endpoint}
    (h : lastReached marks = some p) : ∃ connector, lastTold marks = some connector := by
  obtain ⟨mark, hmark, hreached⟩ := List.mem_filterMap.mp (List.mem_of_getLast? h)
  have htold : p.1 ∈ marks.filterMap told? :=
    List.mem_filterMap.mpr ⟨mark, hmark, told?_of_reached? hreached⟩
  exact ⟨_, List.getLast?_eq_some_getLast (List.ne_nil_of_mem htold)⟩

end EventerMark

/-- Notes the attempts that a connector is asked for. -/
def noteAttempt (connector : κ) (attempts : List (κ × Endpoint)) :
    Errand γ → List (κ × Endpoint)
  | .dialled e _ => attempts ++ [(connector, e)]
  | .closed _ | .asked _ => attempts

/-- The same outside world with the attempts noted. -/
def noted (transport : κ → Transport σ γ) (connector : κ) :
    Transport (σ × List (κ × Endpoint)) γ :=
  (transport connector).logged (noteAttempt connector)

/-- A run of calls on an event source: the source and the world after them, the attempts that
connectors were asked for, and what is known of the calls. -/
structure EventerRun (σ γ κ : Type) where
  eventer : Eventer γ κ
  world : σ
  attempts : List (κ × Endpoint) := []
  marks : List (EventerMark κ) := []

namespace EventerRun

open EventerMark (lastTold lastReached)

/-- An event source that was never connected. -/
def fresh (name : String) (mspid : Option String) (world : σ) : EventerRun σ γ κ :=
  { eventer := { link := { name, kind := .eventer, mspid } }, world }

/-- The run after one more call. -/
def after (transport : κ → Transport σ γ) (r : EventerRun σ γ κ) :
    EventerCall σ γ κ → EventerRun σ γ κ
  | .connect e connector =>
    let (result, eventer, world, attempts) :=
      r.eventer.connect (noted transport) e connector (r.world, r.attempts)
    { eventer, world, attempts, marks := r.marks ++ [.connect e connector result] }
  | .disconnect t =>
    let (link, world) := r.eventer.link.disconnect t r.world
    { r with eventer := { r.eventer with link }, world, marks := r.marks ++ [.disconnected] }
  | .ensureConnected =>
    let (result, eventer, world, attempts) :=
      r.eventer.ensureConnected (noted transport) (r.world, r.attempts)
    { eventer, world, attempts, marks := r.marks ++ [.ensured result] }

/-- The run after some more calls. -/
def run (transport : κ → Transport σ γ) (calls : List (EventerCall σ γ κ))
    (r : EventerRun σ γ κ) : EventerRun σ γ κ :=
  calls.foldl (after transport) r

/-! ### What a call does -/

/-- A connection attempt of a link asks the connector if no client is installed. The link keeps
its endpoint if the attempt fails, and takes the new one if it succeeds. -/
theorem connect_noted (transport : κ → Transport σ γ) (e : Endpoint) (connector : κ) (l : Link γ)
    (s : σ) (attempts : List (κ × Endpoint)) :
    ∃ result l' s', l.connect (transport connector) e s = (result, l', s') ∧
      l.connect (noted transport connector) e (s, attempts) =
        (result, l', s', if l.isConnected then attempts else attempts ++ [(connector, e)]) ∧
      (l'.name = l.name ∧ l'.mspid = l.mspid) ∧
      ((∃ error, result = .error error) ∧ l' = l ∨
        result = .ok () ∧ l'.endpoint = some e) := by
  obtain ⟨errands, result, l', s', hplain, hlogged, hconnects⟩ :=
    Link.connect_logged (noteAttempt connector) (transport connector) e l s attempts
  refine ⟨result, l', s', hplain, ?_⟩
  rw [noted, hlogged]
  cases hconnects with
  | already client hl =>
      exact ⟨by simp [Link.isConnected, hl], ⟨rfl, rfl⟩, .inl ⟨⟨_, rfl⟩, rfl⟩⟩
  | refused reason hl | unanswered hl | notReady client reason hl | neverReady client hl =>
      exact ⟨by simp [Link.isConnected, hl, noteAttempt], ⟨rfl, rfl⟩, .inl ⟨⟨_, rfl⟩, rfl⟩⟩
  | ready client hl =>
      exact ⟨by simp [Link.isConnected, hl, noteAttempt], ⟨rfl, rfl⟩, .inr ⟨rfl, rfl⟩⟩

variable {transport : κ → Transport σ γ} {r : EventerRun σ γ κ} {name : String}
  {mspid : Option String}

/-- Where a client is installed nothing is to be done to be connected. -/
theorem after_ensureConnected_of_connected (h : r.eventer.link.isConnected = true) :
    r.after transport .ensureConnected = { r with marks := r.marks ++ [.ensured (.ok ())] } := by
  simp [after, Eventer.ensureConnected, h]

/-- Without an endpoint to go to nothing is tried. -/
theorem after_ensureConnected_of_none (h : r.eventer.link.isConnected = false)
    (hnone : r.eventer.link.endpoint = none) :
    r.after transport .ensureConnected =
      { r with
        marks := r.marks ++
          [.ensured (.error (.notConnected r.eventer.link.connectionInfo))] } := by
  simp [after, Eventer.ensureConnected, h, hnone]

/-- What is tried otherwise is what is remembered. -/
theorem after_ensureConnected_of_some {e : Endpoint} {connector : κ}
    (h : r.eventer.link.isConnected = false) (he : r.eventer.link.endpoint = some e)
    (hconnector : r.eventer.connector = some connector) :
    ∃ result link world,
      r.eventer.link.connect (transport connector) e r.world = (result, link, world) ∧
      (link.name = r.eventer.link.name ∧ link.mspid = r.eventer.link.mspid) ∧
      link.endpoint = some e ∧
      r.after transport .ensureConnected =
        { eventer := { r.eventer with link }, world
          attempts := r.attempts ++ [(connector, e)]
          marks := r.marks ++ [.ensured result] } := by
  obtain ⟨result, link, world, hplain, hnoted, hsame, hresult⟩ :=
    connect_noted transport e connector r.eventer.link r.world r.attempts
  refine ⟨result, link, world, hplain, hsame, ?_, ?_⟩
  · rcases hresult with ⟨-, rfl⟩ | ⟨-, hendpoint⟩
    · exact he
    · exact hendpoint
  · rw [h] at hnoted
    simp only [after, Eventer.ensureConnected, h, he, hconnector, hnoted]
    rfl

/-- A connect: the attempt, if any, is noted, and the connector is remembered in any case. -/
theorem after_connect (transport : κ → Transport σ γ) (e : Endpoint) (connector : κ)
    (r : EventerRun σ γ κ) :
    ∃ result link world,
      r.eventer.link.connect (transport connector) e r.world = (result, link, world) ∧
      (link.name = r.eventer.link.name ∧ link.mspid = r.eventer.link.mspid) ∧
      ((∃ error, result = .error error) ∧ link = r.eventer.link ∨
        result = .ok () ∧ link.endpoint = some e) ∧
      r.after transport (.connect e connector) =
        { eventer := { link, connector := some connector }, world
          attempts := if r.eventer.link.isConnected then r.attempts
            else r.attempts ++ [(connector, e)]
          marks := r.marks ++ [.connect e connector result] } := by
  obtain ⟨result, link, world, hplain, hnoted, hsame, hresult⟩ :=
    connect_noted transport e connector r.eventer.link r.world r.attempts
  refine ⟨result, link, world, hplain, hsame, hresult, ?_⟩
  simp only [after, Eventer.connect, hnoted]

/-! ### What is remembered -/

/-- What holds in every run of an event source. -/
structure Sound (name : String) (mspid : Option String) (r : EventerRun σ γ κ) : Prop where
  name_eq : r.eventer.link.name = name
  mspid_eq : r.eventer.link.mspid = mspid
  endpoint_eq : r.eventer.link.endpoint = (lastReached r.marks).map Prod.snd
  connector_eq : r.eventer.connector = lastTold r.marks

theorem sound_fresh (name : String) (mspid : Option String) (world : σ) :
    (fresh name mspid world : EventerRun σ γ κ).Sound name mspid :=
  ⟨rfl, rfl, rfl, rfl⟩

/-- A call that is no connect and keeps what is remembered preserves the invariant. -/
theorem Sound.of_untold {r' : EventerRun σ γ κ} {mark : EventerMark κ} (h : r.Sound name mspid)
    (hmark : mark.told? = none) (hmarks : r'.marks = r.marks ++ [mark])
    (hlink : r'.eventer.link.name = r.eventer.link.name ∧
      r'.eventer.link.mspid = r.eventer.link.mspid)
    (hendpoint : r'.eventer.link.endpoint = r.eventer.link.endpoint)
    (hconnector : r'.eventer.connector = r.eventer.connector) : r'.Sound name mspid where
  name_eq := hlink.1.trans h.name_eq
  mspid_eq := hlink.2.trans h.mspid_eq
  endpoint_eq := by
    rw [hendpoint, hmarks, EventerMark.lastReached_append, EventerMark.reached?_eq_none hmark,
      Option.none_or, h.endpoint_eq]
  connector_eq := by
    rw [hconnector, hmarks, EventerMark.lastTold_append, hmark, Option.none_or, h.connector_eq]

/-- What is tried to be connected again, once an endpoint was reached: this endpoint, through the
connector that was told last. -/
theorem Sound.after_ensureConnected {p : κ × Endpoint} (transport : κ → Transport σ γ)
    (h : r.Sound name mspid)
    (hconnected : r.eventer.link.isConnected = false) (hreached : lastReached r.marks = some p) :
    ∃ connector, lastTold r.marks = some connector ∧ ∃ result link world,
      r.eventer.link.connect (transport connector) p.2 r.world = (result, link, world) ∧
      (link.name = r.eventer.link.name ∧ link.mspid = r.eventer.link.mspid) ∧
      link.endpoint = r.eventer.link.endpoint ∧
      r.after transport .ensureConnected =
        { eventer := { r.eventer with link }, world
          attempts := r.attempts ++ [(connector, p.2)]
          marks := r.marks ++ [.ensured result] } := by
  obtain ⟨connector, htold⟩ := EventerMark.exists_lastTold hreached
  have he : r.eventer.link.endpoint = some p.2 := by simp [h.endpoint_eq, hreached]
  rw [he]
  exact ⟨connector, htold,
    after_ensureConnected_of_some hconnected he (h.connector_eq.trans htold)⟩

/-- Each call preserves the invariant. -/
theorem Sound.after (h : r.Sound name mspid) (call : EventerCall σ γ κ) :
    (r.after transport call).Sound name mspid := by
  cases call with
  | connect e connector =>
      obtain ⟨result, link, world, -, ⟨hname, hmspid⟩, hresult, hafter⟩ :=
        after_connect transport e connector r
      rw [hafter]
      refine
        { name_eq := hname.trans h.name_eq
          mspid_eq := hmspid.trans h.mspid_eq
          endpoint_eq := ?_, connector_eq := ?_ }
      · rw [EventerMark.lastReached_append]
        obtain ⟨⟨error, rfl⟩, rfl⟩ | ⟨rfl, hendpoint⟩ := hresult
        · exact h.endpoint_eq
        · exact hendpoint
      · rw [EventerMark.lastTold_append]
        rfl
  | disconnect t =>
      have hlink : (r.eventer.link.disconnect t r.world).1 =
          { r.eventer.link with client := none } := Link.disconnect_fst t _ _
      refine h.of_untold rfl rfl ?_ ?_ rfl
      · simp [EventerRun.after, hlink]
      · simp [EventerRun.after, hlink]
  | ensureConnected =>
      cases hconnected : r.eventer.link.isConnected with
      | true =>
          rw [after_ensureConnected_of_connected hconnected]
          exact h.of_untold rfl rfl ⟨rfl, rfl⟩ rfl rfl
      | false =>
          cases hreached : lastReached r.marks with
          | none =>
              rw [after_ensureConnected_of_none hconnected (by simp [h.endpoint_eq, hreached])]
              exact h.of_untold rfl rfl ⟨rfl, rfl⟩ rfl rfl
          | some p =>
              obtain ⟨connector, -, result, link, world, -, hlink, hendpoint, hafter⟩ :=
                h.after_ensureConnected transport hconnected hreached
              rw [hafter]
              exact h.of_untold rfl rfl hlink hendpoint rfl

/-- The invariant holds in all runs. -/
theorem Sound.run (calls : List (EventerCall σ γ κ)) (h : r.Sound name mspid) :
    (r.run transport calls).Sound name mspid := by
  induction calls generalizing r with
  | nil => exact h
  | cons call calls ih => exact ih (h.after call)

/-- What is remembered of an event source after any calls, and what becomes of it. A connect that
fails leaves the link as it was, but its connector is remembered, which makes no difference only
if it was the last one told already. Where a client is installed, nothing is to be done to be
connected. Otherwise nothing is tried if no endpoint was ever reached, and else one attempt is
made, to the endpoint that was reached last but through the connector that was told last. This is
the connector that reached the endpoint as long as no other connect was tried since. -/
theorem remembered (transport : κ → Transport σ γ) (name : String) (mspid : Option String)
    (world : σ) (calls : List (EventerCall σ γ κ)) :
    let r := (fresh name mspid world).run transport calls
    (∀ e connector error, (r.eventer.connect transport e connector r.world).1 = .error error →
      (r.after transport (.connect e connector)).eventer =
          { r.eventer with connector := some connector } ∧
        ((r.after transport (.connect e connector)).eventer = r.eventer ↔
          lastTold r.marks = some connector)) ∧
      (r.eventer.link.isConnected = true →
        r.after transport .ensureConnected =
          { r with marks := r.marks ++ [.ensured (.ok ())] }) ∧
      (r.eventer.link.isConnected = false → lastReached r.marks = none →
        r.after transport .ensureConnected =
          { r with
            marks := r.marks ++
              [.ensured (.error (.notConnected { name, url := "", mspid }))] }) ∧
      (∀ p, r.eventer.link.isConnected = false → lastReached r.marks = some p →
        ∃ connector, lastTold r.marks = some connector ∧ ∃ result link world,
          r.eventer.link.connect (transport connector) p.2 r.world = (result, link, world) ∧
          r.after transport .ensureConnected =
            { eventer := { r.eventer with link }, world
              attempts := r.attempts ++ [(connector, p.2)]
              marks := r.marks ++ [.ensured result] }) ∧
      ∀ before e connector after,
        r.marks = before ++ .connect e connector (.ok ()) :: after →
        (∀ mark ∈ after, mark.told? = none) → r.eventer.link.isConnected = false →
          (r.after transport .ensureConnected).attempts = r.attempts ++ [(connector, e)] := by
  intro r
  have hsound : r.Sound name mspid := (sound_fresh name mspid world).run calls
  refine ⟨fun e connector error herror => ?_, after_ensureConnected_of_connected,
    fun hconnected hreached => ?_, fun p hconnected hreached => ?_,
    fun before e connector after hmarks hafter hconnected => ?_⟩
  · obtain ⟨result, link, world, hplain, -, hresult, hafter⟩ :=
      after_connect transport e connector r
    have heventer : (r.after transport (.connect e connector)).eventer =
        { r.eventer with connector := some connector } := by
      rw [hafter]
      obtain ⟨-, rfl⟩ | ⟨rfl, -⟩ := hresult
      · rfl
      · simp [Eventer.connect, hplain] at herror
    refine ⟨heventer, ?_⟩
    rw [heventer, ← hsound.connector_eq]
    constructor
    · intro heq
      exact (congrArg Eventer.connector heq).symm
    · intro heq
      rw [← heq]
  · have hnone : r.eventer.link.endpoint = none := by simp [hsound.endpoint_eq, hreached]
    rw [after_ensureConnected_of_none hconnected hnone, Link.connectionInfo, hnone, Link.infoAt,
      hsound.name_eq, hsound.mspid_eq]
    rfl
  · obtain ⟨connector, htold, result, link, world, hplain, -, -, hafter⟩ :=
      hsound.after_ensureConnected transport hconnected hreached
    exact ⟨connector, htold, result, link, world, hplain, hafter⟩
  · have hmark : (EventerMark.connect e connector (.ok ())).reached? = some (connector, e) := rfl
    obtain ⟨htold, hreached⟩ := EventerMark.last_of_append_cons before hmark hafter
    rw [← hmarks] at htold hreached
    obtain ⟨connector', htold', _, _, _, -, -, -, hensured⟩ :=
      hsound.after_ensureConnected transport hconnected hreached
    obtain rfl := Option.some.inj (htold.symm.trans htold')
    rw [hensured]

/-- Two connectors, the second of which refuses every connection. -/
def refusing : Bool → Transport Unit Nat
  | true =>
    { dial := fun _ s => (.ok 0, s), ready := fun _ _ => .ok ()
      close := fun _ s => s, elapse := fun _ s => s }
  | false =>
    { dial := fun _ s => (.fail "connection refused", s), ready := fun _ _ => .hang
      close := fun _ s => s, elapse := fun _ s => s }

/-- A source that was disconnected is connected again through its connector, unless another
connector has been told. -/
theorem remembered_same_connector :
    let e : Endpoint := { protocol := .grpc, host := "peer", port := 7053 }
    let r := (fresh "peer" (some "Org1") ()).run refusing
      [.connect e true, .disconnect (refusing true)]
    (r.eventer.link.isConnected = false ∧
        (r.after refusing .ensureConnected).attempts = [(true, e), (true, e)]) ∧
      ∃ error, (r.eventer.connect refusing e false ()).1 = .error error ∧
        (r.after refusing (.connect e false)).eventer =
          { r.eventer with connector := some false } := by
  intro e r
  obtain ⟨hfailed, -, -, -, hagain⟩ := remembered refusing "peer" (some "Org1") ()
    [.connect e true, .disconnect (refusing true)]
  refine ⟨⟨rfl, hagain [] e true [.disconnected] rfl (by simp [EventerMark.told?]) rfl⟩,
    _, rfl, (hfailed e false _ rfl).1⟩

/-- After a connect that was refused an event source is not as it was, and to be connected again
it asks the connector that has refused for the endpoint that it never reached. -/
theorem remembered_other_connector :
    let e : Endpoint := { protocol := .grpc, host := "peer", port := 7053 }
    let e' : Endpoint := { protocol := .grpc, host := "other", port := 7053 }
    let r := (fresh "peer" (some "Org1") ()).run refusing
      [.connect e true, .disconnect (refusing true)]
    let failed := r.after refusing (.connect e' false)
    let again := failed.after refusing .ensureConnected
    (∃ error, failed.marks = r.marks ++ [.connect e' false (.error error)]) ∧
      failed.eventer ≠ r.eventer ∧
      failed.eventer.link.isConnected = false ∧ lastReached failed.marks = some (true, e) ∧
      again.attempts = failed.attempts ++ [(false, e)] ∧
      again.attempts ≠ failed.attempts ++ [(true, e)] ∧
      again.eventer.link.isConnected = false := by
  intro e e' r failed again
  refine ⟨⟨_, rfl⟩, fun heq => ?_, rfl, rfl, rfl, fun heq => ?_, rfl⟩
  · cases congrArg Eventer.connector heq
  · cases List.append_cancel_left heq

end EventerRun

end LedgerClient
