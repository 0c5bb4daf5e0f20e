import LedgerClient.Proofs.Discovery.Shared

/-!
# Refreshing in turns

Many callers may find the results of a discovery too old at the same time. They wait for their
turn, and look at the results once more when they have it. So one of them sends the request again,
and if that succeeds the others are given what it has brought. If it fails, the next one may try.
This holds for any number of callers and in whatever order they go on.

## Main results

* `SharedDiscovery.Reached.turns`: at most one call refreshes at a time.
* `SharedDiscovery.refreshes_take_turns`: what callers get that find the results too old, while
  nobody sends but to refresh them.
-/

namespace LedgerClient

/-! ### Callers of the same results -/

namespace CallStage

/-- A call does not send. If it waits, it waits with given settings. -/
def Rests (settings : SendSettings) : CallStage → Prop
  | idle | done _ => True
  | waiting s => s = settings
  | asking _ _ _ | updating _ _ _ => False

/-- As long as no refresh has succeeded: where a call stands that stood at `start` before, and
what it may have failed with. -/
def Pending (settings : SendSettings) (start : CallStage) (Failed : DiscoveryError → Prop) :
    CallStage → Prop
  | idle => True
  | waiting s => s = settings
  | asking turn q _ | updating turn q _ => turn = true ∧ q.settings = settings
  | done outcome => start = done outcome ∨ ∃ e, outcome = .error e ∧ Failed e

/-- Once a refresh has succeeded: where a call stands that stood at `start` before. -/
def Served (settings : SendSettings) (start : CallStage) (R : DiscoveryResults) :
    CallStage → Prop
  | idle => True
  | waiting s => s = settings
  | asking _ _ _ | updating _ _ _ => False
  | done outcome => start = done outcome ∨ outcome = .ok R

/-- At first a call that does not send is pending. -/
theorem Rests.pending {settings : SendSettings} {stage : CallStage} (h : Rests settings stage)
    (Failed : DiscoveryError → Prop) : Pending settings stage Failed stage := by
  cases stage with
  | idle | waiting => exact h
  | asking | updating => exact h.elim
  | done outcome => exact .inl rfl

/-- A call that does not send does not have the turn. -/
theorem Rests.refreshing_eq {settings : SendSettings} {stage : CallStage}
    (h : Rests settings stage) : stage.refreshing = false := by
  cases stage with
  | idle | waiting | done => rfl
  | asking | updating => exact h.elim

/-- When more refreshes fail, a pending call is still pending. -/
theorem Pending.mono {settings : SendSettings} {start stage : CallStage}
    {Failed Failed' : DiscoveryError → Prop} (h : Pending settings start Failed stage)
    (hfailed : ∀ e, Failed e → Failed' e) : Pending settings start Failed' stage := by
  cases stage with
  | done outcome => exact h.imp_right fun ⟨e, he⟩ => ⟨e, he.1, hfailed e he.2⟩
  | idle | waiting | asking | updating => exact h

/-- If nothing has failed, a pending call without the turn is one that can be served. -/
theorem Pending.served {settings : SendSettings} {start stage : CallStage}
    {Failed : DiscoveryError → Prop} (h : Pending settings start Failed stage)
    (hstage : stage.refreshing = false) (hnone : ∀ e, ¬ Failed e) (R : DiscoveryResults) :
    Served settings start R stage := by
  cases stage with
  | idle | waiting => exact h
  | asking | updating => cases h.1.symm.trans hstage
  | done outcome => exact .inl (h.resolve_right fun ⟨e, _, he⟩ => hnone e he)

end CallStage

namespace SharedDiscovery

variable {κ : Type} {T T' : SharedDiscovery κ} {marks new : List (RefreshMark κ)}
  {j k : κ} {stage : CallStage} {turn : Bool} {q : TakenRequest} {settings : SendSettings}
  {old R : DiscoveryResults} {start : κ → CallStage}
  {outcome : Except DiscoveryError DiscoveryResults}

/-- What the first refresh has come to that is over. -/
def firstOutcome (marks : List (RefreshMark κ)) : Option (Except DiscoveryError DiscoveryResults) :=
  marks.findSome? RefreshMark.outcome?

/-- Settings are complete: sending with them again needs nothing of the configuration. -/
def Complete (settings : SendSettings) (config : DiscoveryConfig) : Prop :=
  settings.targets ≠ [] ∧
    (ChannelDiscovery.SendSettings.toRequest settings).settings config = settings

/-- The results are too old, and nobody sends. -/
structure Expired (settings : SendSettings) (old : DiscoveryResults) (T : SharedDiscovery κ) :
    Prop where
  last : T.discovery.last = some settings
  results : T.discovery.results = some old
  stale : old.isStale settings.refreshAge T.now = true
  rests : ∀ k, (T.calls k).Rests settings

/-- After results have expired, as long as no refresh has succeeded. -/
structure Before (settings : SendSettings) (old : DiscoveryResults) (start : κ → CallStage)
    (marks : List (RefreshMark κ)) (T : SharedDiscovery κ) : Prop where
  last : T.discovery.last = some settings
  complete : Complete settings T.discovery.config
  results : T.discovery.results = some old
  stale : old.isStale settings.refreshAge T.now = true
  calls : ∀ k, CallStage.Pending settings (start k) (fun e => .renewed k (.error e) ∈ marks)
    (T.calls k)
  /-- The first refresh sends the request once. -/
  resent : firstOutcome marks = none →
    marks.countP RefreshMark.isResent = if T.locked then 1 else 0

/-- After the first refresh has succeeded. -/
structure After (settings : SendSettings) (R : DiscoveryResults) (start : κ → CallStage)
    (marks : List (RefreshMark κ)) (T : SharedDiscovery κ) : Prop where
  last : T.discovery.last = some settings
  results : T.discovery.results = some R
  free : T.locked = false
  calls : ∀ k, CallStage.Served settings (start k) R (T.calls k)
  resent : marks.countP RefreshMark.isResent = 1

theorem firstOutcome_append (marks new : List (RefreshMark κ)) :
    firstOutcome (marks ++ new) = (firstOutcome marks).or (firstOutcome new) :=
  List.findSome?_append

theorem isStale_mono {r : DiscoveryResults} {age now now' : Nat}
    (h : r.isStale age now = true) (hle : now ≤ now') : r.isStale age now' = true := by
  rw [ChannelDiscovery.isStale_iff] at h ⊢
  omega

/-- Old results are not on hand. -/
theorem onHand_of_stale {d : ChannelDiscovery} {now : Nat} (hresults : d.results = some old)
    (h : old.isStale settings.refreshAge now = true) : d.onHand (some settings) now = none :=
  ChannelDiscovery.onHand_eq_none_iff.mpr ⟨old, settings, hresults, rfl, h⟩

theorem Before.onHand (h : Before settings old start marks T) :
    T.discovery.onHand (some settings) T.now = none :=
  onHand_of_stale h.results h.stale

/-- Who has no part in sending leaves the count of it alone. -/
theorem Before.resent_append (h : Before settings old start marks T)
    (hnew : new.countP RefreshMark.isResent = 0) (hlocked : T'.locked = T.locked)
    (hnone : firstOutcome (marks ++ new) = none) :
    (marks ++ new).countP RefreshMark.isResent = if T'.locked then 1 else 0 := by
  rw [firstOutcome_append, Option.or_eq_none_iff] at hnone
  rw [List.countP_append, hnew, hlocked]
  exact h.resent hnone.1

/-- Who waits, waits with the settings that were left behind. -/
theorem Before.settings_eq {s : SendSettings} (h : Before settings old start marks T)
    (hk : T.calls k = .waiting s) : s = settings :=
  (congrArg (CallStage.Pending settings (start k) _) hk).mp (h.calls k)

/-- Who asks, refreshes. -/
theorem Before.asking {targets : List DiscovererId} (h : Before settings old start marks T)
    (hk : T.calls k = .asking turn q targets) : turn = true ∧ q.settings = settings :=
  (congrArg (CallStage.Pending settings (start k) _) hk).mp (h.calls k)

/-- Who brings the channel up to date, refreshes. -/
theorem Before.updating {tree : DiscoveryTree} (h : Before settings old start marks T)
    (hk : T.calls k = .updating turn q tree) : turn = true ∧ q.settings = settings :=
  (congrArg (CallStage.Pending settings (start k) _) hk).mp (h.calls k)

/-- Who waits, waits with the settings that were left behind. -/
theorem After.settings_eq {s : SendSettings} (h : After settings R start marks T)
    (hk : T.calls k = .waiting s) : s = settings :=
  (congrArg (CallStage.Served settings (start k) _) hk).mp (h.calls k)

/-- Nobody asks. -/
theorem After.not_asking {targets : List DiscovererId} (h : After settings R start marks T) :
    T.calls k ≠ .asking turn q targets :=
  fun hk => (congrArg (CallStage.Served settings (start k) _) hk).mp (h.calls k)

/-- Nobody brings the channel up to date. -/
theorem After.not_updating {tree : DiscoveryTree} (h : After settings R start marks T) :
    T.calls k ≠ .updating turn q tree :=
  fun hk => (congrArg (CallStage.Served settings (start k) _) hk).mp (h.calls k)

/-- Results that are not too old are on hand. -/
theorem After.onHand {now : Nat} (h : After settings R start marks T)
    (hnow : now ≤ R.timestamp + settings.refreshAge) :
    T.discovery.onHand (some settings) now = some (.ok R) := by
  rw [ChannelDiscovery.onHand, h.results]
  refine if_neg fun hstale => ?_
  have hlt := (ChannelDiscovery.isStale_iff R settings.refreshAge now).mp hstale
  omega

/-- What is on hand are the results of the refresh. -/
theorem After.of_onHand {s : Option SendSettings} {now : Nat} (h : After settings R start marks T)
    (hsome : T.discovery.onHand s now = some outcome) : outcome = .ok R := by
  rw [ChannelDiscovery.onHand, h.results] at hsome
  simp only at hsome
  split at hsome
  · cases hsome
  · exact (Option.some.inj hsome).symm

/-! ### The turn -/

/-- A call at some stage has the turn if it is the holder. -/
def Holds (holder : Option κ) (k : κ) (stage : CallStage) : Prop :=
  stage.refreshing = true ↔ holder = some k

/-- The turn is held by one call, or by none. -/
def Turns (T : SharedDiscovery κ) : Prop :=
  ∃ holder : Option κ, T.locked = holder.isSome ∧ ∀ k, Holds holder k (T.calls k)

theorem Turns.alone (h : T.Turns) (hj : (T.calls j).refreshing = true)
    (hk : (T.calls k).refreshing = true) : j = k := by
  obtain ⟨holder, -, hholder⟩ := h
  exact Option.some.inj (((hholder j).mp hj).symm.trans ((hholder k).mp hk))

theorem Turns.locked_iff (h : T.Turns) :
    T.locked = true ↔ ∃ k, (T.calls k).refreshing = true := by
  obtain ⟨holder, hlocked, hholder⟩ := h
  rw [hlocked, Option.isSome_iff_exists]
  exact exists_congr fun k => (hholder k).symm

variable [DecidableEq κ]

/-- A call that goes on keeps its turn, if it has it. -/
theorem Turns.put (h : T.Turns) (hstage : stage.refreshing = (T.calls k).refreshing) :
    (T.put k stage).Turns := by
  obtain ⟨holder, hlocked, hholder⟩ := h
  have hk : Holds holder k stage := by
    rw [Holds, hstage]
    exact hholder k
  exact ⟨holder, hlocked, forall_put (fun j _ => hholder j) hk⟩

/-- A call takes the turn if nobody has it. -/
theorem Turns.begin (h : T.Turns) (hk : (T.calls k).refreshing = false)
    (hturn : turn = true → T.locked = false) : (T.begin k turn q).Turns := by
  cases turn with
  | false =>
      have hput : (T.put k (.asking false q q.settings.targets)).Turns := h.put hk.symm
      obtain ⟨holder, hlocked, hholder⟩ := hput
      exact ⟨holder, (Bool.or_false _).trans hlocked, hholder⟩
  | true =>
      refine ⟨some k, Bool.or_true _, forall_put (P := Holds (some k)) (fun j hj => ?_)
        (iff_of_true rfl rfl)⟩
      refine iff_of_false (fun hrefreshing => ?_) fun heq => hj (Option.some.inj heq).symm
      exact nomatch (hturn rfl).symm.trans (h.locked_iff.mpr ⟨j, hrefreshing⟩)

/-- A call that is over gives back its turn. -/
theorem Turns.finish (h : T.Turns) (hk : (T.calls k).refreshing = turn) :
    (T.finish k turn outcome).Turns := by
  cases turn with
  | false =>
      have hput : (T.put k (.done outcome)).Turns := h.put hk.symm
      obtain ⟨holder, hlocked, hholder⟩ := hput
      exact ⟨holder, (Bool.and_true _).trans hlocked, hholder⟩
  | true =>
      refine ⟨none, Bool.and_false _, forall_put (P := Holds none) (fun j hj => ?_) ⟨nofun, nofun⟩⟩
      exact iff_of_false (fun hrefreshing => hj (h.alone hrefreshing hk)) nofun

/-- Whatever a call does, at most one has the turn afterwards. -/
theorem Next.turns (hn : Next T new T') (h : T.Turns) : T'.Turns := by
  cases hn with
  | elapse | prepared => exact h
  | given hk | found hk | unsent hk | served hk | barred hk | refused hk | read hk =>
      exact h.put (by rw [hk]; rfl)
  | renews hk hfree => exact h.begin (by rw [hk]; rfl) fun _ => hfree
  | sends hk => exact h.begin (by rw [hk]; rfl) nofun
  | failed hk | unreadable hk | updated hk => exact h.finish (by rw [hk]; rfl)

/-- At most one call has the turn at any moment. -/
theorem Reached.turns (hT : Reached T) : T.Turns :=
  hT.induction (fun _ _ _ _ => ⟨none, rfl, fun _ => iff_of_false nofun nofun⟩) Next.turns

/-! ### What is not touched -/

/-- What a send takes along has complete settings. -/
theorem complete_of_takeAlong {d : ChannelDiscovery} {r : DiscoverRequest}
    (hq : d.takeAlong r = .ok q) : Complete q.settings d.config := by
  obtain ⟨htargets, -, -, hsettings⟩ := ChannelDiscovery.takeAlong_eq_ok_iff.mp hq
  rw [hsettings]
  exact ⟨htargets, ChannelDiscovery.settings_toRequest_settings d.config r⟩

/-- The settings that are left behind are complete, whatever a call does. -/
theorem Next.complete (hn : Next T new T')
    (h : ∀ s, T.discovery.last = some s → Complete s T.discovery.config) :
    ∀ s, T'.discovery.last = some s → Complete s T'.discovery.config := by
  cases hn with
  | prepared hprepares =>
      obtain ⟨request, rfl⟩ := hprepares.exists_request
      exact h
  | renews _ _ _ hq | sends _ hq =>
      intro s hs
      obtain rfl := Option.some.inj hs
      exact complete_of_takeAlong hq
  | elapse | given | found | served | barred | unsent | refused | failed | unreadable | read
  | updated => exact h

theorem Reached.complete (hT : Reached T) (hlast : T.discovery.last = some settings) :
    Complete settings T.discovery.config :=
  hT.induction (P := fun T => ∀ s, T.discovery.last = some s → Complete s T.discovery.config)
    (fun _ _ _ _ => nofun) Next.complete settings hlast

/-! ### Until a refresh succeeds -/

/-- What one call does leaves the others pending. -/
theorem Before.put (h : Before settings old start marks T)
    (hstage : CallStage.Pending settings (start k)
      (fun e => .renewed k (.error e) ∈ marks ++ new) stage) (j : κ) :
    CallStage.Pending settings (start j) (fun e => .renewed j (.error e) ∈ marks ++ new)
      ((T.put k stage).calls j) :=
  forall_put (P := fun j => CallStage.Pending settings (start j) fun e =>
      .renewed j (.error e) ∈ marks ++ new)
    (fun j _ => (h.calls j).mono fun _ => List.mem_append_left new) hstage j

/-- A refresh has failed. -/
theorem Before.fail (h : Before settings old start marks T) {e : DiscoveryError}
    (hnew : .renewed k (.error e) ∈ new) (locked : Bool) :
    Before settings old start (marks ++ new) { T.put k (.done (.error e)) with locked } := by
  refine ⟨h.last, h.complete, h.results, h.stale,
    h.put (.inr ⟨e, rfl, List.mem_append_right marks hnew⟩), fun hnone => ?_⟩
  rw [firstOutcome_append, Option.or_eq_none_iff] at hnone
  cases List.findSome?_eq_none_iff.mp hnone.2 _ hnew

/-- Until a refresh succeeds, whatever a call does leaves things as they are. -/
theorem Before.next (h : Before settings old start marks T) (hn : Next T new T')
    (hsent : ∀ k, .sent k ∉ new) (hfails : ∀ k R, .renewed k (.ok R) ∉ new) :
    Before settings old start (marks ++ new) T' := by
  have hcalls : ∀ k, CallStage.Pending settings (start k)
      (fun e => .renewed k (.error e) ∈ marks ++ new) (T.calls k) :=
    fun k => (h.calls k).mono fun e => List.mem_append_left new
  cases hn with
  | elapse hw =>
      exact ⟨h.last, h.complete, h.results, isStale_mono h.stale hw.clock, hcalls,
        h.resent_append rfl rfl⟩
  | prepared hprepares =>
      obtain ⟨request, rfl⟩ := hprepares.exists_request
      exact ⟨h.last, h.complete, h.results, h.stale, hcalls, h.resent_append rfl rfl⟩
  | given hk hgiven =>
      rw [h.last, h.onHand] at hgiven
      cases hgiven
  | found hk hlast =>
      obtain rfl := Option.some.inj (h.last.symm.trans hlast)
      exact ⟨h.last, h.complete, h.results, h.stale, h.put rfl, h.resent_append rfl rfl⟩
  | served hk hfree hserved =>
      rw [h.settings_eq hk, h.onHand] at hserved
      cases hserved
  | barred => exact h.fail (.tail _ (.head _)) T.locked
  | @renews _ _ q hk hfree hstale hq =>
      obtain ⟨-, -, -, hsettings⟩ := ChannelDiscovery.takeAlong_eq_ok_iff.mp hq
      rw [h.settings_eq hk, h.complete.2] at hsettings
      refine ⟨congrArg some hsettings, h.complete, h.results, h.stale, h.put ⟨rfl, hsettings⟩, ?_⟩
      intro hnone
      rw [firstOutcome_append, Option.or_eq_none_iff] at hnone
      rw [List.countP_append, h.resent hnone.1, hfree]
      exact (if_pos (Bool.or_true _)).symm
  | unsent | sends => exact absurd (List.mem_singleton_self _) (hsent _)
  | failed hk | unreadable hk =>
      obtain ⟨rfl, -⟩ := h.asking hk
      exact h.fail (.head _) _
  | refused hk | read hk =>
      exact ⟨h.last, h.complete, h.results, h.stale, h.put (h.asking hk), h.resent_append rfl rfl⟩
  | updated hk =>
      obtain ⟨rfl, -⟩ := h.updating hk
      exact absurd (List.mem_singleton_self _) (hfails _ _)

/-- Only a refresh that has its turn and has brought the channel up to date can succeed. -/
theorem Next.renewed_ok (hn : Next T new T') (hnew : .renewed k (.ok R) ∈ new) :
    ∃ q tree, T.calls k = .updating true q tree ∧ new = [.renewed k (.ok R)] ∧
      T' = finish k true (.ok R)
        { T with discovery := { T.discovery with results := some R } } := by
  cases hn with
  | elapse | prepared | given | found | refused | read => cases hnew
  | served | barred | renews | unsent | sends => simp at hnew
  | @failed _ turn | @unreadable _ turn => cases turn <;> simp [endMarks] at hnew
  | @updated k' turn q tree hk =>
      cases turn with
      | false => cases hnew
      | true =>
          obtain ⟨rfl, h⟩ := RefreshMark.renewed.inj (List.mem_singleton.mp hnew)
          obtain rfl := Except.ok.inj h
          exact ⟨q, tree, hk, rfl, rfl⟩

/-- If nothing has failed before, a refresh that succeeds leaves its results to all others. -/
theorem Before.after (h : Before settings old start marks T) (hnone : firstOutcome marks = none)
    (hturns : T.Turns) (hn : Next T new T') (hnew : .renewed k (.ok R) ∈ new) :
    After settings R start (marks ++ new) T' := by
  obtain ⟨q, tree, hk, rfl, rfl⟩ := hn.renewed_ok hnew
  have hlocked : T.locked = true := hturns.locked_iff.mpr ⟨k, by rw [hk]; rfl⟩
  refine ⟨h.last, rfl, Bool.and_false _, ?_, ?_⟩
  · refine forall_put (P := fun j => CallStage.Served settings (start j) R) (fun j hj => ?_)
      (.inr rfl)
    refine (h.calls j).served (Bool.eq_false_iff.mpr fun hrefreshing => ?_) (fun e he => ?_) R
    · exact hj (hturns.alone hrefreshing (by rw [hk]; rfl))
    · cases List.findSome?_eq_none_iff.mp hnone _ he
  · rw [List.countP_append, h.resent hnone, hlocked]
    rfl

/-! ### After a refresh has succeeded -/

/-- What one call does leaves the others served. -/
theorem After.put (h : After settings R start marks T)
    (hstage : CallStage.Served settings (start k) R stage) (j : κ) :
    CallStage.Served settings (start j) R ((T.put k stage).calls j) :=
  forall_put (P := fun j => CallStage.Served settings (start j) R) (fun j _ => h.calls j) hstage j

/-- As long as callers go on in time, whatever a call does leaves the results to the others. -/
theorem After.next (h : After settings R start marks T) (hn : Next T new T')
    (hsent : ∀ k, .sent k ∉ new)
    (hintime : ∀ k time, .resumed k time ∈ new → time ≤ R.timestamp + settings.refreshAge) :
    After settings R start (marks ++ new) T' := by
  have hresent : (marks ++ []).countP RefreshMark.isResent = 1 := by
    rw [List.append_nil]
    exact h.resent
  cases hn with
  | elapse => exact ⟨h.last, h.results, h.free, h.calls, hresent⟩
  | prepared hprepares =>
      obtain ⟨request, rfl⟩ := hprepares.exists_request
      exact ⟨h.last, h.results, h.free, h.calls, hresent⟩
  | given hk hgiven =>
      exact ⟨h.last, h.results, h.free, h.put (.inr (h.of_onHand hgiven)), hresent⟩
  | found hk hlast =>
      obtain rfl := Option.some.inj (h.last.symm.trans hlast)
      exact ⟨h.last, h.results, h.free, h.put rfl, hresent⟩
  | served hk hfree hserved =>
      refine ⟨h.last, h.results, h.free, h.put (.inr (h.of_onHand hserved)), ?_⟩
      rw [List.countP_append, h.resent]
      rfl
  | barred hk _ hstale | renews hk _ hstale =>
      rw [h.settings_eq hk, h.onHand (hintime _ _ (.head _))] at hstale
      cases hstale
  | unsent | sends => exact absurd (List.mem_singleton_self _) (hsent _)
  | refused hk | failed hk | unreadable hk | read hk => exact absurd hk h.not_asking
  | updated hk => exact absurd hk h.not_updating

/-! ### Runs -/

/-- What holds when results have expired. -/
theorem Expired.before (h : Expired settings old T) (hT : Reached T) :
    Before settings old T.calls [] T where
  last := h.last
  complete := hT.complete h.last
  results := h.results
  stale := h.stale
  calls := fun k => (h.rests k).pending _
  resent := by
    intro _
    have hfree : T.locked = false := by
      refine Bool.eq_false_iff.mpr fun hlocked => ?_
      obtain ⟨k, hk⟩ := hT.turns.locked_iff.mp hlocked
      exact nomatch (h.rests k).refreshing_eq.symm.trans hk
    rw [hfree]
    rfl

/-- Until a refresh succeeds, a run leaves things as they are. -/
theorem Later.before (h : Later T marks T') (hT : Reached T) (hexpired : Expired settings old T)
    (hsent : ∀ k, .sent k ∉ marks) (hfails : ∀ k R, .renewed k (.ok R) ∉ marks) :
    Before settings old T.calls marks T' := by
  induction h with
  | refl => exact hexpired.before hT
  | tail h hn ih =>
      simp only [List.mem_append, not_or] at hsent hfails
      exact (ih (fun k => (hsent k).1) fun k R => (hfails k R).1).next hn
        (fun k => (hsent k).2) fun k R => (hfails k R).2

/-- Once the first refresh has succeeded, its results are there for everybody. -/
theorem Later.after (h : Later T marks T') (hT : Reached T) (hexpired : Expired settings old T)
    (hsent : ∀ k, .sent k ∉ marks) (hfirst : firstOutcome marks = some (.ok R))
    (hintime : ∀ k time, .resumed k time ∈ marks → time ≤ R.timestamp + settings.refreshAge) :
    After settings R T.calls marks T' := by
  induction h with
  | refl => cases hfirst
  | @tail marks T₁ new T₂ h hn ih =>
      simp only [List.mem_append, or_imp, forall_and, not_or] at hsent hintime
      cases hbefore : firstOutcome marks with
      | some outcome =>
          rw [firstOutcome_append, hbefore] at hfirst
          exact (ih hsent.1 (hbefore.trans hfirst) hintime.1).next hn hsent.2 hintime.2
      | none =>
          rw [firstOutcome_append, hbefore] at hfirst
          have hquiet : ∀ k R, .renewed k (.ok R) ∉ marks :=
            fun k R hmem => nomatch List.findSome?_eq_none_iff.mp hbefore _ hmem
          obtain ⟨mark, hmem, hmark⟩ := List.exists_of_findSome?_eq_some hfirst
          cases mark with
          | renewed k outcome =>
              obtain rfl := Option.some.inj hmark
              exact (h.before hT hexpired hsent.1 hquiet).after hbefore (hT.later h).turns hn hmem
          | sent | resumed | resent => cases hmark

/-- A call that has waited has its turn, and sends the request again with its settings if it is
signed. -/
def Retries (k : κ) (settings : SendSettings) (T : SharedDiscovery κ) : Prop :=
  match T.discovery.request.signed with
  | .error e =>
    Next T [.resumed k T.now, .renewed k (.error e)] (T.put k (.done (.error e)))
  | .ok signed =>
    Next T [.resumed k T.now, .resent k]
      (T.begin k true { signed, tags := T.discovery.request.tags, settings })

/-- If nobody has the turn, whoever waits may try. -/
theorem Before.retries (h : Before settings old start marks T) (hfree : T.locked = false)
    {s : SendSettings} (hk : T.calls k = .waiting s) : T.Retries k settings := by
  obtain rfl := h.settings_eq hk
  have hnonempty : ¬ (ChannelDiscovery.SendSettings.toRequest s).targets.isEmpty = true :=
    mt List.isEmpty_iff.mp h.complete.1
  rw [Retries]
  split
  · next e hsigned =>
    refine .barred hk hfree h.onHand ?_
    rw [ChannelDiscovery.takeAlong, if_neg hnonempty, hsigned]
  · next signed hsigned =>
    refine .renews hk hfree h.onHand ?_
    rw [ChannelDiscovery.takeAlong, if_neg hnonempty, hsigned, h.complete.2]

/-- If nobody has the turn, whoever waits and goes on in time is given the new results. -/
theorem After.serves (h : After settings R start marks T)
    (hnow : T.now ≤ R.timestamp + settings.refreshAge) {s : SendSettings}
    (hk : T.calls k = .waiting s) :
    Next T [.resumed k T.now] (T.put k (.done (.ok R))) := by
  obtain rfl := h.settings_eq hk
  exact .served hk h.free (h.onHand hnow)

/-- At any moment of any run of a discovery, at most one call refreshes the results, and if
somebody has the turn it is such a call. All the calls that need results, to have them or to
endorse, commit or query, are calls of such runs: if nobody has the turn, a call that nobody
interrupts leaves the discovery as any of them does by itself.

Let the results be too old at a moment when nobody sends, and let nobody send afterwards but to
refresh them. Then, if the first refresh that is over has succeeded and whoever waits goes on
before the new results are too old in their turn, the request is sent again exactly once; all the
calls that have come to an end since then came to the new results, nobody asks any more, and
whoever still waits will be given them. As long as no refresh has succeeded, the results stay as
they are, only refreshes are under way, the calls that have come to an end are those whose
refresh has failed, and whenever nobody has the turn each call that waits may try. Until one has
failed, the request has been sent at most once. -/
theorem refreshes_take_turns (hT : Reached T) :
    (∀ j k, (T.calls j).refreshing = true → (T.calls k).refreshing = true → j = k) ∧
    (T.locked = true ↔ ∃ k, (T.calls k).refreshing = true) ∧
    (∀ k (c : DiscoveryCall) d w, T.calls k = .idle → T.locked = false → c.refreshes = true →
      c.perform T.discovery T.world = some (d, w) →
      ∃ marks outcome w', Later T marks (T.leave k false (outcome, d, w'))) ∧
    ∀ settings old marks T', Expired settings old T → Later T marks T' →
      (∀ k, .sent k ∉ marks) →
      (∀ R, firstOutcome marks = some (.ok R) →
        (∀ k time, .resumed k time ∈ marks → time ≤ R.timestamp + settings.refreshAge) →
        marks.countP RefreshMark.isResent = 1 ∧
        T'.discovery.results = some R ∧
        (∀ k, CallStage.Served settings (T.calls k) R (T'.calls k)) ∧
        (T'.now ≤ R.timestamp + settings.refreshAge → ∀ k s, T'.calls k = .waiting s →
          Next T' [.resumed k T'.now] (T'.put k (.done (.ok R))))) ∧
      ((∀ k R, .renewed k (.ok R) ∉ marks) →
        T'.discovery.results = some old ∧
        (∀ k, CallStage.Pending settings (T.calls k) (fun e => .renewed k (.error e) ∈ marks)
          (T'.calls k)) ∧
        (T'.locked = false → ∀ k s, T'.calls k = .waiting s → T'.Retries k settings) ∧
        (firstOutcome marks = none →
          marks.countP RefreshMark.isResent = if T'.locked then 1 else 0)) := by
  refine ⟨fun j k => hT.turns.alone, hT.turns.locked_iff,
    fun k c d w hk hfree hrefresh => later_refreshes hk hfree hrefresh, ?_⟩
  intro settings old marks T' hexpired h hsent
  constructor
  · intro R hfirst hintime
    have hafter := h.after hT hexpired hsent hfirst hintime
    exact ⟨hafter.resent, hafter.results, hafter.calls, fun hnow k s => hafter.serves hnow⟩
  · intro hfails
    have hbefore := h.before hT hexpired hsent hfails
    exact ⟨hbefore.results, hbefore.calls, fun hfree k s => hbefore.retries hfree, hbefore.resent⟩

/-- Two callers find results too old; the second one is the first to have its turn. The first one
waits until that refresh is over, and is given the same results. -/
theorem refreshes_take_turns_two :
    ∃ (T T' : SharedDiscovery (Fin 3)) (settings : SendSettings) (old R : DiscoveryResults)
      (marks : List (RefreshMark (Fin 3))),
      Reached T ∧ T.discovery.results = some old ∧ T.calls 1 = .waiting settings ∧
      T.calls 2 = .waiting settings ∧ Later T marks T' ∧
      old.timestamp = 0 ∧ R.timestamp = 11 ∧
      marks.countP RefreshMark.isResent = 1 ∧ T'.discovery.results = some R ∧
      T'.calls 1 = .done (.ok R) ∧ T'.calls 2 = .done (.ok R) := by
  let response : DiscoveryResponse := { results := [.config {}] }
  have hread : ∀ tags, DiscoveryTree.ofResponse tags response = .ok {} := fun _ => rfl
  -- a first send, and the time after which its results are too old
  have hbuilt := (Later.refl (fresh (Fin 3) "d" ⟨0⟩ {} (.answering response))).tail
    (.prepared (.build .sample {} rfl))
  have hsigned := hbuilt.tail (.prepared (.sign .sample rfl))
  have hsends := hsigned.tail
    (.sends (k := 0) (r := { targets := [⟨1⟩], refreshAge := some 10 }) rfl rfl)
  have hsent := (hsends.tail (.read (k := 0) rfl (hread _))).tail (.updated (k := 0) rfl)
  have hlate := hsent.tail (.elapse (World.elapse_onward 11 _))
  have hfound := (hlate.tail (.found (k := 1) rfl rfl rfl)).tail (.found (k := 2) rfl rfl rfl)
  have hT : Reached _ := ⟨_, _, _, _, _, hfound⟩
  have hrefl : ∀ {T : SharedDiscovery (Fin 3)}, Reached T → Later T [] T := fun _ => .refl _
  have hrenews := (hrefl hT).tail (.renews (k := 2) rfl rfl rfl rfl)
  have hrenewed := (hrenews.tail (.read (k := 2) rfl (hread _))).tail (.updated (k := 2) rfl)
  have hserved := (hrenewed.tail (.elapse (World.elapse_onward 5 _))).tail
    (.served (k := 1) rfl rfl rfl)
  have hrun := (refreshes_take_turns hT).2.2.2
    { targets := [⟨1⟩], timeout := none, asLocalhost := false, refreshAge := 10 }
    { tree := {}, timestamp := 0, serial := 1 } _ _
    ⟨rfl, rfl, rfl, Fin.forall_fin_succ.mpr ⟨trivial, Fin.forall_fin_two.mpr ⟨rfl, rfl⟩⟩⟩
    hserved (by simp [endMarks])
  obtain ⟨hresent, hresults, hcalls, -⟩ := hrun.1 _ rfl <| by
    intro k time hmem
    simp only [endMarks, List.nil_append, List.cons_append, List.append_nil, List.mem_cons,
      RefreshMark.resumed.injEq, reduceCtorEq, if_true, List.not_mem_nil, or_false,
      false_or] at hmem
    rcases hmem with ⟨-, rfl⟩ | ⟨-, rfl⟩ <;> exact Nat.le_of_ble_eq_true rfl
  exact ⟨_, _, _, _, _, _, hT, rfl, rfl, rfl, hserved, rfl, rfl, hresent, hresults,
    congrArg CallStage.done ((hcalls 1).resolve_left nofun),
    congrArg CallStage.done ((hcalls 2).resolve_left nofun)⟩

end SharedDiscovery

end LedgerClient
