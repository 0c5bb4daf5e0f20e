import LedgerClient.Proofs.Discovery.Onward
import LedgerClient.Proofs.Discovery.Refresh
import Mathlib.Logic.Function.Basic

/-!
# A discovery that is shared

Any number of calls use a discovery at the same time: they build and sign its request, send it,
and ask for results that are not too old, directly or in order to endorse, commit or query. A
call that finds the results too old waits for its turn to send the request again, and looks at
them once more when it has it. Calls are suspended while they wait for their turn, for an answer,
and while nodes are connected that an answer names. Between these points they run undisturbed.

`SharedDiscovery` is a discovery with the calls that are under way, and `SharedDiscovery.Next` goes
from one suspension to the next. Sends and refreshes leave marks.

## Main results

* `SharedDiscovery.later_send`: a send that is not interrupted does what `ChannelDiscovery.send`
  does.
* `SharedDiscovery.later_getResults`: likewise for a call that asks for results that are not too
  old.
* `SharedDiscovery.later_refreshes`: likewise for all the calls that need such results.
-/

namespace LedgerClient

/-! ### Calls -/

/-- A request that a send has taken along: what it sends, and the tags of its queries. What
is built meanwhile does not change it. -/
structure TakenRequest where
  signed : SignedRequest
  tags : List QueryTag
  settings : SendSettings

/-- How far a call has come. A send has the turn if it is a refresh. -/
inductive CallStage where
  | idle
  /-- The results were too old by these settings, so the call waits for its turn. -/
  | waiting (settings : SendSettings)
  /-- The first of the targets is asked. -/
  | asking (turn : Bool) (q : TakenRequest) (targets : List DiscovererId)
  /-- A tree was read, and the channel is brought up to date with it. -/
  | updating (turn : Bool) (q : TakenRequest) (tree : DiscoveryTree)
  | done (outcome : Except DiscoveryError DiscoveryResults)

/-- Whether a call has the turn. -/
def CallStage.refreshing : CallStage → Bool
  | asking turn _ _ | updating turn _ _ => turn
  | idle | waiting _ | done _ => false

namespace ChannelDiscovery

/-- Building or signing the request, whether it succeeds or not, makes one discovery of another. -/
inductive Prepares (d : ChannelDiscovery) (w : World) (d' : ChannelDiscovery) : Prop where
  | build (signer : Signer) (wish : DiscoveryWish) {answer : Except DiscoveryError Bytes}
      (h : (building signer wish w).perform d = (answer, d'))
  | sign (signer : Signer) {answer : Except DiscoveryError Unit}
      (h : (signing signer).perform d = (answer, d'))
  | signWith (signature : Bytes) {answer : Except DiscoveryError Unit}
      (h : (attaching signature).perform d = (answer, d'))

/-- What a call that needs results comes to without a send: nothing if they are too old by some
settings. -/
def onHand (settings : Option SendSettings) (now : Nat) (d : ChannelDiscovery) :
    Option (Except DiscoveryError DiscoveryResults) :=
  match d.results with
  | none => some (.error .noResults)
  | some cached =>
    if settings.any fun s => cached.isStale s.refreshAge now then none else some (.ok cached)

/-- What a send takes along. -/
def takeAlong (r : DiscoverRequest) (d : ChannelDiscovery) : Except DiscoveryError TakenRequest :=
  if r.targets.isEmpty then .error (.missingParameter "targets")
  else
    match d.request.signed with
    | .error e => .error e
    | .ok signed => .ok { signed, tags := d.request.tags, settings := r.settings d.config }

/-- The results that a tree becomes. -/
def renewal (tree : DiscoveryTree) (now : Nat) (d : ChannelDiscovery) : DiscoveryResults where
  tree
  timestamp := now
  serial := match d.results with
    | some r => r.serial + 1
    | none => 1

end ChannelDiscovery

/-! ### Runs -/

/-- What is remembered of sends and refreshes. -/
inductive RefreshMark (κ : Type) where
  /-- A send that is no refresh has begun. -/
  | sent (call : κ)
  /-- A call that has waited has got its turn. -/
  | resumed (call : κ) (time : Nat)
  /-- It has begun to send the request again. -/
  | resent (call : κ)
  /-- What that came to. -/
  | renewed (call : κ) (outcome : Except DiscoveryError DiscoveryResults)

namespace RefreshMark

variable {κ : Type}

/-- Whether the request is sent again. -/
def isResent : RefreshMark κ → Bool
  | resent _ => true
  | sent _ | resumed _ _ | renewed _ _ => false

/-- What a refresh has come to. -/
def outcome? : RefreshMark κ → Option (Except DiscoveryError DiscoveryResults)
  | renewed _ outcome => some outcome
  | sent _ | resumed _ _ | resent _ => none

end RefreshMark

/-- A discovery in a world, with the calls of `κ`. -/
structure SharedDiscovery (κ : Type) where
  discovery : ChannelDiscovery
  world : World
  calls : κ → CallStage
  /-- Whether somebody has the turn. -/
  locked : Bool := false

namespace SharedDiscovery

variable {κ : Type} [DecidableEq κ]

/-- The time. -/
def now (T : SharedDiscovery κ) : Nat := T.world.network.clock

/-- Brings a call to a stage. -/
def put (k : κ) (stage : CallStage) (T : SharedDiscovery κ) : SharedDiscovery κ :=
  { T with calls := Function.update T.calls k stage }

/-- A call begins to ask its targets, and leaves its settings behind. -/
def begin (k : κ) (turn : Bool) (q : TakenRequest) (T : SharedDiscovery κ) : SharedDiscovery κ :=
  { T.put k (.asking turn q q.settings.targets) with
    discovery := { T.discovery with last := some q.settings }
    locked := T.locked || turn }

/-- A call is over, and gives back the turn if it has it. -/
def finish (k : κ) (turn : Bool) (outcome : Except DiscoveryError DiscoveryResults)
    (T : SharedDiscovery κ) : SharedDiscovery κ :=
  { T.put k (.done outcome) with locked := T.locked && !turn }

/-- The mark of a refresh that is over. -/
def endMarks (k : κ) (turn : Bool) (outcome : Except DiscoveryError DiscoveryResults) :
    List (RefreshMark κ) :=
  if turn then [.renewed k outcome] else []

/-- The run of one call up to where it is suspended next, with the marks it leaves. What the
outside world does meanwhile, in particular what it answers, is up to it. -/
inductive Next : SharedDiscovery κ → List (RefreshMark κ) → SharedDiscovery κ → Prop where
  | elapse {T w} (hw : T.world.Onward w) : Next T [] { T with world := w }
  | prepared {T d} (h : T.discovery.Prepares T.world d) : Next T [] { T with discovery := d }
  /-- There are no results, or they are not too old. -/
  | given {T k outcome} (hk : T.calls k = .idle)
      (h : T.discovery.onHand T.discovery.last T.now = some outcome) :
      Next T [] (T.put k (.done outcome))
  /-- The results are too old. -/
  | found {T k settings} (hk : T.calls k = .idle) (hlast : T.discovery.last = some settings)
      (h : T.discovery.onHand (some settings) T.now = none) :
      Next T [] (T.put k (.waiting settings))
  /-- When its turn has come, a call finds that somebody else has renewed the results. -/
  | served {T k settings outcome} (hk : T.calls k = .waiting settings) (hfree : T.locked = false)
      (h : T.discovery.onHand (some settings) T.now = some outcome) :
      Next T [.resumed k T.now] (T.put k (.done outcome))
  /-- The results are still too old, but the request cannot be sent. -/
  | barred {T k settings e} (hk : T.calls k = .waiting settings) (hfree : T.locked = false)
      (h : T.discovery.onHand (some settings) T.now = none)
      (hq : T.discovery.takeAlong (ChannelDiscovery.SendSettings.toRequest settings) = .error e) :
      Next T [.resumed k T.now, .renewed k (.error e)] (T.put k (.done (.error e)))
  /-- The results are still too old, so the request is sent again. -/
  | renews {T k settings q} (hk : T.calls k = .waiting settings) (hfree : T.locked = false)
      (h : T.discovery.onHand (some settings) T.now = none)
      (hq : T.discovery.takeAlong (ChannelDiscovery.SendSettings.toRequest settings) = .ok q) :
      Next T [.resumed k T.now, .resent k] (T.begin k true q)
  | unsent {T k r e} (hk : T.calls k = .idle) (hq : T.discovery.takeAlong r = .error e) :
      Next T [.sent k] (T.put k (.done (.error e)))
  | sends {T k r q} (hk : T.calls k = .idle) (hq : T.discovery.takeAlong r = .ok q) :
      Next T [.sent k] (T.begin k false q)
  /-- A target fails, and the next one is asked. -/
  | refused {T k turn q target rest} (hk : T.calls k = .asking turn q (target :: rest))
      (hrest : rest ≠ []) : Next T [] (T.put k (.asking turn q rest))
  /-- The last target fails. -/
  | failed {T k turn q target} (hk : T.calls k = .asking turn q [target]) (e : ServiceError) :
      Next T (endMarks k turn (.error (.service e))) (T.finish k turn (.error (.service e)))
  /-- A target answers, but the answer cannot be read. -/
  | unreadable {T k turn q target rest response e}
      (hk : T.calls k = .asking turn q (target :: rest))
      (h : DiscoveryTree.ofResponse q.tags response = .error e) :
      Next T (endMarks k turn (.error e)) (T.finish k turn (.error e))
  | read {T k turn q target rest response tree} (hk : T.calls k = .asking turn q (target :: rest))
      (h : DiscoveryTree.ofResponse q.tags response = .ok tree) :
      Next T [] (T.put k (.updating turn q tree))
  /-- The channel is up to date. -/
  | updated {T k turn q tree} (hk : T.calls k = .updating turn q tree) :
      Next T (endMarks k turn (.ok (T.discovery.renewal tree T.now)))
        (finish k turn (.ok (T.discovery.renewal tree T.now))
          { T with discovery :=
              { T.discovery with results := some (T.discovery.renewal tree T.now) } })

/-- What comes later in the same run, with the marks that were left meanwhile, in order. -/
inductive Later : SharedDiscovery κ → List (RefreshMark κ) → SharedDiscovery κ → Prop where
  | refl (T) : Later T [] T
  | tail {T marks T' new T''} (h : Later T marks T') (hn : Next T' new T'') :
      Later T (marks ++ new) T''

/-- A new discovery in any world, before the first call. -/
def fresh (κ : Type) (name : String) (channel : ChannelId) (config : DiscoveryConfig) (w : World) :
    SharedDiscovery κ where
  discovery := { name, channel, config }
  world := w
  calls := fun _ => .idle

/-- The moments of all runs of a new discovery. -/
def Reached (T : SharedDiscovery κ) : Prop :=
  ∃ name channel config w marks, Later (fresh κ name channel config w) marks T

variable {T T' T'' : SharedDiscovery κ} {marks marks' new : List (RefreshMark κ)} {j k : κ}
  {stage : CallStage}

theorem Later.trans (h : Later T marks T') (h' : Later T' marks' T'') :
    Later T (marks ++ marks') T'' := by
  induction h' with
  | refl => rwa [List.append_nil]
  | tail _ hn ih => exact List.append_assoc .. ▸ ih.tail hn

theorem Next.later (h : Next T marks T') : Later T marks T' :=
  (Later.refl T).tail h

theorem Reached.later (hT : Reached T) (h : Later T marks T') : Reached T' := by
  obtain ⟨name, channel, config, w, before, hbefore⟩ := hT
  exact ⟨name, channel, config, w, _, hbefore.trans h⟩

/-- What holds at first and is kept by every step holds at every moment of every run. -/
theorem Reached.induction {P : SharedDiscovery κ → Prop}
    (hfresh : ∀ name channel config w, P (fresh κ name channel config w))
    (hnext : ∀ {T new T'}, Next T new T' → P T → P T') (hT : Reached T) : P T := by
  obtain ⟨name, channel, config, w, marks, h⟩ := hT
  induction h with
  | refl => exact hfresh name channel config w
  | tail _ hn ih => exact hnext hn ih

@[simp] theorem put_calls_self (k : κ) (stage : CallStage) (T : SharedDiscovery κ) :
    (T.put k stage).calls k = stage :=
  Function.update_self ..

theorem put_calls_of_ne (h : j ≠ k) (stage : CallStage) (T : SharedDiscovery κ) :
    (T.put k stage).calls j = T.calls j :=
  Function.update_of_ne h ..

/-- What holds of the stages of the others, and of that to which a call is brought, holds of all
stages afterwards. -/
theorem forall_put {P : κ → CallStage → Prop} (h : ∀ j, j ≠ k → P j (T.calls j))
    (hstage : P k stage) (j : κ) : P j ((T.put k stage).calls j) := by
  by_cases hj : j = k
  · subst hj
    rwa [put_calls_self]
  · rw [put_calls_of_ne hj]
    exact h j hj

theorem put_put (k : κ) (stage stage' : CallStage) (T : SharedDiscovery κ) :
    (T.put k stage).put k stage' = T.put k stage' :=
  congrArg (SharedDiscovery.mk T.discovery T.world · T.locked) (Function.update_idem ..)

end SharedDiscovery

/-! ### Parts of a send -/

namespace ChannelDiscovery

variable {r : DiscoverRequest} {d d' : ChannelDiscovery} {q : TakenRequest}

/-- What a send takes along comes from its wishes, the configuration and the signed request. -/
theorem takeAlong_eq_ok_iff : d.takeAlong r = .ok q ↔
    r.targets ≠ [] ∧ d.request.signed = .ok q.signed ∧ q.tags = d.request.tags ∧
      q.settings = r.settings d.config := by
  rw [takeAlong]
  split
  · next h => simp [List.isEmpty_iff.mp h]
  · next h =>
    have hne : r.targets ≠ [] := mt List.isEmpty_iff.mpr h
    split
    · next hsigned => simp [hsigned]
    · next hsigned =>
      obtain ⟨signed, tags, settings⟩ := q
      simp [hsigned, hne, eq_comm]

/-- A send asks with what it has taken along. -/
theorem send_eq (r : DiscoverRequest) (d : ChannelDiscovery) (w : World) :
    d.send r w =
      match d.takeAlong r with
      | .error e => (.error e, d, w)
      | .ok q =>
        { d with last := some q.settings }.askInOrder q.signed q.settings
          (.missingParameter "targets") q.settings.targets w := by
  rw [send, takeAlong]
  split
  · rfl
  · cases d.request.signed <;> rfl

/-- A call finds nothing on hand if there are results and they are too old. -/
theorem onHand_eq_none_iff {settings : Option SendSettings} {now : Nat} :
    d.onHand settings now = none ↔ ∃ cached s, d.results = some cached ∧ settings = some s ∧
      cached.isStale s.refreshAge now = true := by
  rw [onHand]
  cases d.results <;> simp [Option.any_eq_true]

/-- What is on hand is what asking for results comes to. -/
theorem getResults_of_onHand {w : World} {outcome : Except DiscoveryError DiscoveryResults}
    (h : d.onHand d.last w.network.clock = some outcome) :
    d.getResults true w = (outcome, d, w) := by
  rw [onHand] at h
  rw [getResults]
  cases hresults : d.results with
  | none =>
      simp only [hresults] at h
      cases h
      rfl
  | some cached =>
      simp only [hresults] at h
      split at h
      · cases h
      next hfresh =>
      cases h
      cases hlast : d.last with
      | none => rfl
      | some settings =>
          rw [hlast] at hfresh
          exact if_neg hfresh

/-- If there is nothing on hand, the last send is repeated. -/
theorem getResults_of_stale {w : World} {settings : SendSettings} (hlast : d.last = some settings)
    (h : d.onHand (some settings) w.network.clock = none) :
    d.getResults true w = d.send (SendSettings.toRequest settings) w := by
  obtain ⟨cached, s, hresults, hs, hstale⟩ := onHand_eq_none_iff.mp h
  obtain rfl := Option.some.inj hs
  simp [getResults, hresults, hlast, hstale]

/-- Processing a response keeps the renewal by its tree. -/
theorem process_eq (target : DiscovererId) (asLocalhost : Bool) (response : DiscoveryResponse)
    (d : ChannelDiscovery) (w : World) :
    d.process target asLocalhost response w =
      match DiscoveryTree.ofResponse d.request.tags response with
      | .error e => (.error e, d, w)
      | .ok tree =>
        let w' := w.materialize d.channel (d.reach target asLocalhost w) tree
        (.ok (d.renewal tree w'.network.clock),
          { d with results := some (d.renewal tree w'.network.clock) }, w') := rfl

/-- Building and signing touch nothing but the request. -/
theorem Prepares.exists_request {w : World} (h : d.Prepares w d') :
    ∃ request, d' = { d with request } := by
  cases h with
  | build _ _ h => exact exists_request_of_building (congrArg Prod.snd h)
  | sign _ h | signWith _ h => exact exists_request_of_onRequest (congrArg Prod.snd h)

end ChannelDiscovery

/-! ### Calls that nobody interrupts -/

namespace SharedDiscovery

variable {κ : Type} [DecidableEq κ] {T : SharedDiscovery κ} {k : κ}

/-- A call is over, and leaves a discovery and a world behind. -/
def leave (k : κ) (turn : Bool)
    (left : Except DiscoveryError DiscoveryResults × ChannelDiscovery × World)
    (T : SharedDiscovery κ) : SharedDiscovery κ :=
  { T.finish k turn left.1 with discovery := left.2.1, world := left.2.2 }

/-- What a call did before makes no difference to what it leaves behind. -/
theorem leave_put (k : κ) (turn : Bool) (stage : CallStage) (w : World)
    (left : Except DiscoveryError DiscoveryResults × ChannelDiscovery × World)
    (T : SharedDiscovery κ) :
    (put k stage { T with world := w }).leave k turn left = T.leave k turn left := by
  simp only [leave, finish, put_put]
  rfl

/-- A call that asks and is not interrupted does what `ChannelDiscovery.askInOrder` does. -/
theorem later_askInOrder {turn : Bool} {q : TakenRequest} (hq : T.discovery.request.tags = q.tags)
    {targets : List DiscovererId} (htargets : targets ≠ [])
    (hk : T.calls k = .asking turn q targets) (lastError : DiscoveryError) :
    ∃ marks, Later T marks (T.leave k turn
      (T.discovery.askInOrder q.signed q.settings lastError targets T.world)) := by
  induction targets generalizing T lastError with
  | nil => exact absurd rfl htargets
  | cons target rest ih =>
      have honward := T.world.sendDiscovery_onward q.signed q.settings.timeout target
      rw [ChannelDiscovery.askInOrder]
      generalize T.world.sendDiscovery q.signed q.settings.timeout target = asked at honward ⊢
      obtain ⟨answer, w⟩ := asked
      have hasked : Later T [] { T with world := w } := (Next.elapse honward).later
      cases answer with
      | error e =>
          by_cases hrest : rest = []
          · subst hrest
            exact ⟨_, hasked.tail (.failed (T := { T with world := w }) hk e)⟩
          · have hrefused := hasked.tail (.refused (T := { T with world := w }) hk hrest)
            obtain ⟨marks, hmarks⟩ := ih (T := put k (.asking turn q rest) { T with world := w })
              hq hrest (put_calls_self ..) (.service e)
            have hleft := hrefused.trans hmarks
            rw [leave_put] at hleft
            exact ⟨_, hleft⟩
      | ok response =>
          simp only [ChannelDiscovery.process_eq, hq]
          cases hread : DiscoveryTree.ofResponse q.tags response with
          | error e => exact ⟨_, hasked.tail (.unreadable (T := { T with world := w }) hk hread)⟩
          | ok tree =>
              dsimp only
              have honward := w.materialize_onward T.discovery.channel
                (T.discovery.reach target q.settings.asLocalhost w) tree
              generalize w.materialize T.discovery.channel
                (T.discovery.reach target q.settings.asLocalhost w) tree = w' at honward ⊢
              have hread := hasked.tail (.read (T := { T with world := w }) hk hread)
              have hleft := (hread.tail (.elapse honward)).tail (.updated (put_calls_self ..))
              rw [← leave_put k turn (.updating turn q tree) w _ T]
              exact ⟨_, hleft⟩

/-- A call that is over at once leaves everything else as it was. -/
theorem put_done_eq (k : κ) (outcome : Except DiscoveryError DiscoveryResults)
    (T : SharedDiscovery κ) :
    T.put k (.done outcome) = T.leave k false (outcome, T.discovery, T.world) := by
  simp only [leave, finish, put, Bool.not_false, Bool.and_true]

/-- A call that begins to ask and is not interrupted does the rest of a send, and gives back the
turn that it has taken. -/
theorem later_begin {r : DiscoverRequest} {q : TakenRequest} (hq : T.discovery.takeAlong r = .ok q)
    (turn : Bool) (hturn : turn = true → T.locked = false) :
    ∃ marks, Later (T.begin k turn q) marks
      (T.leave k false (T.discovery.send r T.world)) := by
  obtain ⟨htargets, -, htags, hsettings⟩ := ChannelDiscovery.takeAlong_eq_ok_iff.mp hq
  obtain ⟨marks, hleft⟩ := later_askInOrder (T := T.begin k turn q) htags.symm
    (hsettings ▸ htargets) (put_calls_self ..) (.missingParameter "targets")
  have hlocked : ((T.locked || turn) && !turn) = (T.locked && !false) := by
    cases turn with
    | false => simp only [Bool.or_false]
    | true => simp only [hturn rfl, Bool.false_or, Bool.not_true, Bool.and_false, Bool.false_and]
  refine ⟨marks, ?_⟩
  rw [ChannelDiscovery.send_eq, hq]
  simpa only [leave, finish, begin, put, Function.update_idem, hlocked] using hleft

/-- A call that sends and is not interrupted does what `ChannelDiscovery.send` does. -/
theorem later_send (hk : T.calls k = .idle) (r : DiscoverRequest) :
    ∃ marks, Later T marks (T.leave k false (T.discovery.send r T.world)) := by
  cases hq : T.discovery.takeAlong r with
  | error e =>
      rw [ChannelDiscovery.send_eq, hq, ← put_done_eq]
      exact ⟨_, (Next.unsent hk hq).later⟩
  | ok q =>
      obtain ⟨marks, hleft⟩ := later_begin hq false (k := k) nofun
      exact ⟨_, (Next.sends hk hq).later.trans hleft⟩

/-- If nobody has the turn, a call that asks for results and is not interrupted does what
`ChannelDiscovery.getResults` does. -/
theorem later_getResults (hk : T.calls k = .idle) (hfree : T.locked = false) :
    ∃ marks, Later T marks (T.leave k false (T.discovery.getResults true T.world)) := by
  cases hgiven : T.discovery.onHand T.discovery.last T.now with
  | some outcome =>
      rw [ChannelDiscovery.getResults_of_onHand hgiven, ← put_done_eq]
      exact ⟨_, (Next.given hk hgiven).later⟩
  | none =>
      obtain ⟨-, settings, -, hlast, -⟩ := ChannelDiscovery.onHand_eq_none_iff.mp hgiven
      rw [hlast] at hgiven
      rw [ChannelDiscovery.getResults_of_stale hlast hgiven]
      have hfound := (Next.found hk hlast hgiven).later
      cases hq : T.discovery.takeAlong (ChannelDiscovery.SendSettings.toRequest settings) with
      | error e =>
          have hbarred := hfound.tail (.barred (put_calls_self ..) hfree hgiven hq)
          rw [ChannelDiscovery.send_eq, hq, ← put_done_eq]
          rw [put_put] at hbarred
          exact ⟨_, hbarred⟩
      | ok q =>
          have hrenews := hfound.tail (.renews (put_calls_self ..) hfree hgiven hq)
          obtain ⟨marks, hleft⟩ := later_begin (k := k)
            (T := T.put k (.waiting settings)) hq true fun _ => hfree
          have hleft := hrenews.trans hleft
          rw [leave_put] at hleft
          exact ⟨_, hleft⟩

/-- If nobody has the turn, a call that needs results and is not interrupted leaves the discovery
as it does by itself. -/
theorem later_refreshes (hk : T.calls k = .idle) (hfree : T.locked = false) {c : DiscoveryCall}
    (hrefresh : c.refreshes = true) {d : ChannelDiscovery} {w : World}
    (hc : c.perform T.discovery T.world = some (d, w)) :
    ∃ marks outcome w', Later T marks (T.leave k false (outcome, d, w')) := by
  obtain ⟨marks, hleft⟩ := later_getResults hk hfree
  obtain rfl := ChannelDiscovery.eq_of_refreshes hrefresh hc
  exact ⟨marks, _, _, hleft⟩

end SharedDiscovery

end LedgerClient
