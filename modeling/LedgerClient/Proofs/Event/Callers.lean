import LedgerClient.Proofs.Event.Operations

/-!
# Any number of callers

Everybody who queues notices flushes the queue afterwards, and leaves this to somebody else if
somebody is at it. Here any number of callers do so at the same time. Each has a stack of what
is left to do; a `QueueStep` is one atomic section of one caller, and in a `Crowd` the callers
take turns in any order. A listener's callback may queue further notices and flush, and it may
panic, which drops what it would have done next.

## Main results

* `Crowd.Reachable.orderly`: at every moment of every run no queued notice is forgotten, and the
  hub says that notices are being handed over exactly if one of the callers is at it.
* `Crowd.FairRun.exists_more_handed`: as long as notices are queued and every caller goes on,
  another one is handed over.
* `Crowd.handed_in_order`: every notice is handed over once, in order and one at a time, and
  when all callers are done none is left.
* `Alone.flush`, `Alone.closeWith`: a flush or a shutdown that nobody interrupts is what one such
  caller does.
-/

namespace LedgerClient

open Relation (ReflTransGen)

/-! ### What one caller does -/

/-- Something that a caller or a callback does with the queue. -/
inductive QueueAct where
  | append (deliveries : List Delivery)
  | flush

/-- Something that is left to do for a caller. -/
inductive QueueTask where
  | act (a : QueueAct)
  /-- Go on handing over notices. -/
  | drain
  /-- Let the callback go on that `d` was handed to. -/
  | callback (d : Delivery) (acts : List QueueAct)

namespace QueueTask

/-- Whether a task goes on handing over notices. -/
def isDrain : QueueTask → Bool
  | .drain => true
  | .act _ | .callback _ _ => false

/-- Whether a task lets a callback go on. -/
def isCallback : QueueTask → Bool
  | .callback _ _ => true
  | .act _ | .drain => false

/-- Whether a task sees to it that notices are handed over. -/
def handsOver : QueueTask → Bool
  | .act .flush | .drain => true
  | .act (.append _) | .callback _ _ => false

/-- A bound for the sections that a task takes until it is done or a notice is handed over. -/
def weight : QueueTask → Nat
  | .act (.append _) | .drain => 1
  | .act .flush => 2
  | .callback _ acts => 3 * acts.length + 1

/-- The bound for everything that a caller has left to do. -/
def load : List QueueTask → Nat
  | [] => 0
  | t :: ts => t.weight + load ts

end QueueTask

variable {ι κ ε : Type}

/-- One atomic section of a caller: the hub and what is left to do before and after it, the
notices it has queued and those it has handed over. -/
inductive QueueStep : HubState ι → List QueueTask → HubState ι → List QueueTask →
    List Delivery → List Delivery → Prop where
  /-- A caller comes to queue notices and to flush at the end. -/
  | arrived {s} (acts : List QueueAct) :
      QueueStep s [] s (acts.map .act ++ [.act .flush]) [] []
  | appended {s ds rest} : QueueStep s (.act (.append ds) :: rest) (s.enqueue ds) rest ds []
  | flushSkipped {s rest} (h : s.beginDrain = none) :
      QueueStep s (.act .flush :: rest) s rest [] []
  | flushBegun {s s' rest} (h : s.beginDrain = some s') :
      QueueStep s (.act .flush :: rest) s' (.drain :: rest) [] []
  | handedOver {s s' d rest} (h : s.nextNotice = (some d, s')) (acts : List QueueAct) :
      QueueStep s (.drain :: rest) s' (.callback d acts :: .drain :: rest) [] [d]
  | drainEnded {s s' rest} (h : s.nextNotice = (none, s')) :
      QueueStep s (.drain :: rest) s' rest [] []
  | called {s d a acts rest} :
      QueueStep s (.callback d (a :: acts) :: rest) s (.act a :: .callback d acts :: rest) [] []
  /-- The callback returns; or it panics, if there was something left that it would have done. -/
  | returned {s d acts rest} : QueueStep s (.callback d acts :: rest) s rest [] []

/-- Something else happens to a hub than what is done with its queue. -/
structure Aside (s s' : HubState ι) : Prop where
  queue : s'.queue = s.queue
  draining : s'.draining = s.draining

/-- Callbacks run while notices are being handed over, right inside of that, and whoever queues
notices has a flush to do after it or is inside of one. -/
def Framed : List QueueTask → Prop
  | [] => True
  | .callback _ _ :: .drain :: rest => Framed rest
  | .callback _ _ :: _ => False
  | .act (.append _) :: rest => rest.any QueueTask.handsOver = true ∧ Framed rest
  | .act .flush :: rest | .drain :: rest => Framed rest

/-- A callback runs right inside of the handing over of notices. -/
theorem framed_callback_iff {d : Delivery} {acts : List QueueAct} {ts : List QueueTask} :
    Framed (.callback d acts :: ts) ↔ ∃ rest, ts = .drain :: rest ∧ Framed rest := by
  cases ts with
  | nil => simp [Framed]
  | cons t rest => cases t <;> simp [Framed]

/-- As many callbacks run at most as there are handings over. -/
theorem Framed.countP_le {ts : List QueueTask} (h : Framed ts) :
    ts.countP QueueTask.isCallback ≤ ts.countP QueueTask.isDrain := by
  induction ts using Framed.induct with
  | case1 => exact Nat.le_refl 0
  | case2 d acts rest ih =>
      simpa [List.countP_cons, QueueTask.isCallback, QueueTask.isDrain] using ih h
  | case3 d acts rest hnot =>
      obtain ⟨rest', rfl, -⟩ := framed_callback_iff.mp h
      exact absurd rfl (hnot rest')
  | case4 ds rest ih =>
      simpa [List.countP_cons, QueueTask.isCallback, QueueTask.isDrain] using ih h.2
  | case5 rest ih =>
      simpa [List.countP_cons, QueueTask.isCallback, QueueTask.isDrain] using ih h
  | case6 rest ih =>
      simpa [List.countP_cons, QueueTask.isCallback, QueueTask.isDrain] using
        Nat.le_succ_of_le (ih h)

/-- Who goes on handing over notices sees to it that they are handed over. -/
theorem any_handsOver_of_drain {ts : List QueueTask} (h : 0 < ts.countP QueueTask.isDrain) :
    ts.any QueueTask.handsOver = true := by
  obtain ⟨t, ht, hdrain⟩ := List.countP_pos_iff.mp h
  refine List.any_eq_true.mpr ⟨t, ht, ?_⟩
  cases t <;> first | rfl | cases hdrain

namespace QueueStep

variable {s s' : HubState ι} {ts ts' : List QueueTask} {added handed : List Delivery}

/-- What is queued is added at the end, and what is handed over is taken from the front. -/
theorem queue_eq (h : QueueStep s ts s' ts' added handed) :
    s.queue ++ added = handed ++ s'.queue := by
  cases h with
  | arrived | flushSkipped | called | returned => simp
  | appended => rfl
  | flushBegun h =>
      obtain ⟨-, rfl⟩ := HubState.of_beginDrain_eq_some h
      simp
  | handedOver h =>
      obtain ⟨rest, hq, rfl⟩ := HubState.of_nextNotice_eq_some h
      simp [hq]
  | drainEnded h =>
      obtain ⟨-, rfl⟩ := HubState.of_nextNotice_eq_none h
      simp

/-- Whoever comes has a flush to do at the end. -/
theorem framed_visit (acts : List QueueAct) : Framed (acts.map .act ++ [.act .flush]) := by
  induction acts with
  | nil => trivial
  | cons a rest ih =>
      cases a with
      | flush => exact ih
      | append ds => exact ⟨by simp [QueueTask.handsOver], ih⟩

/-- A frame stays one. -/
theorem framed (h : QueueStep s ts s' ts' added handed) (hts : Framed ts) : Framed ts' := by
  cases h with
  | arrived acts => exact framed_visit acts
  | appended => exact hts.2
  | flushSkipped | flushBegun | handedOver | drainEnded => exact hts
  | @called d a acts rest =>
      obtain ⟨rest, rfl, hrest⟩ := framed_callback_iff.mp hts
      cases a with
      | flush => exact hrest
      | append => exact ⟨rfl, hrest⟩
  | returned =>
      obtain ⟨rest, rfl, hrest⟩ := framed_callback_iff.mp hts
      exact hrest

/-- Handing over is begun by somebody when nobody is at it, and is ended by somebody who was
at it. -/
theorem drains (h : QueueStep s ts s' ts' added handed) :
    (s'.draining = s.draining ∧ ts'.countP QueueTask.isDrain = ts.countP QueueTask.isDrain) ∨
    (s.draining = false ∧ s'.draining = true ∧
      ts'.countP QueueTask.isDrain = ts.countP QueueTask.isDrain + 1) ∨
    (s'.draining = false ∧
      ts.countP QueueTask.isDrain = ts'.countP QueueTask.isDrain + 1) := by
  cases h with
  | arrived acts =>
      refine .inl ⟨rfl, ?_⟩
      simp [List.countP_append, List.countP_map, QueueTask.isDrain, Function.comp_def]
  | appended | flushSkipped | called | returned => exact .inl ⟨rfl, rfl⟩
  | flushBegun h =>
      obtain ⟨hdraining, rfl⟩ := HubState.of_beginDrain_eq_some h
      exact .inr (.inl ⟨hdraining, rfl, List.countP_cons_of_pos rfl⟩)
  | handedOver h =>
      obtain ⟨_, -, rfl⟩ := HubState.of_nextNotice_eq_some h
      exact .inl ⟨rfl, rfl⟩
  | drainEnded h =>
      obtain ⟨-, rfl⟩ := HubState.of_nextNotice_eq_none h
      exact .inr (.inr ⟨rfl, List.countP_cons_of_pos rfl⟩)

/-- Whoever has something left to do can go on. -/
theorem exists_of_ne_nil (s : HubState ι) (hts : ts ≠ []) :
    ∃ s' ts' added handed, QueueStep s ts s' ts' added handed := by
  cases ts with
  | nil => exact absurd rfl hts
  | cons t rest =>
      cases t with
      | callback d acts => exact ⟨_, _, _, _, .returned⟩
      | act a =>
          cases a with
          | append ds => exact ⟨_, _, _, _, .appended⟩
          | flush =>
              cases h : s.beginDrain with
              | none => exact ⟨_, _, _, _, .flushSkipped h⟩
              | some s' => exact ⟨_, _, _, _, .flushBegun h⟩
      | drain =>
          cases h : s.nextNotice with
          | mk next s' =>
              cases next with
              | none => exact ⟨_, _, _, _, .drainEnded h⟩
              | some d => exact ⟨_, _, _, _, .handedOver h []⟩

/-- A section that hands over nothing brings a caller nearer to the end. -/
theorem load_lt (h : QueueStep s ts s' ts' added []) (hts : ts ≠ []) :
    QueueTask.load ts' < QueueTask.load ts := by
  cases h with
  | arrived => exact absurd rfl hts
  | called =>
      rename_i a _ _
      cases a <;> simp [QueueTask.load, QueueTask.weight] <;> omega
  | appended | flushSkipped | flushBegun | drainEnded | returned =>
      simp [QueueTask.load, QueueTask.weight]

/-- Whoever queues the first notice has something to do that hands it over. -/
theorem any_handsOver_of_queue (h : QueueStep s ts s' ts' added handed) (hts : Framed ts)
    (hq : s.queue = []) (hq' : s'.queue ≠ []) : ts'.any QueueTask.handsOver = true := by
  cases h with
  | appended => exact hts.1
  | arrived | flushSkipped | called | returned => exact absurd hq hq'
  | flushBegun => rfl
  | handedOver => rfl
  | drainEnded h =>
      obtain ⟨-, rfl⟩ := HubState.of_nextNotice_eq_none h
      exact absurd hq hq'

/-- Who sees to it that notices are handed over goes on to do so, unless there are none or
somebody else is at it. -/
theorem any_handsOver (h : QueueStep s ts s' ts' added handed)
    (hts : ts.any QueueTask.handsOver = true) :
    ts'.any QueueTask.handsOver = true ∨ s'.queue = [] ∨
      (s.draining = true ∧ ts.countP QueueTask.isDrain = 0) := by
  cases h with
  | arrived => cases hts
  | appended | returned => exact .inl hts
  | called => exact .inl (Bool.or_eq_true_iff.mpr (.inr hts))
  | flushSkipped h =>
      by_cases hrest : ts'.any QueueTask.handsOver = true
      · exact .inl hrest
      · refine .inr (.inr ⟨HubState.draining_of_beginDrain_eq_none h, ?_⟩)
        rw [List.countP_cons_of_neg Bool.false_ne_true]
        by_contra hne
        exact hrest (any_handsOver_of_drain (Nat.pos_of_ne_zero hne))
  | flushBegun | handedOver => exact .inl rfl
  | drainEnded h =>
      obtain ⟨hq, rfl⟩ := HubState.of_nextNotice_eq_none h
      exact .inr (.inl hq)

/-- While notices are queued, whoever is at it hands one over or stays at it. -/
theorem drain_or_handed (h : QueueStep s ts s' ts' added handed) (hdraining : s.draining = true)
    (hq : s.queue ≠ []) (hts : 0 < ts.countP QueueTask.isDrain) :
    handed ≠ [] ∨ 0 < ts'.countP QueueTask.isDrain := by
  rcases h.drains with ⟨-, hcount⟩ | ⟨hnot, -⟩ | ⟨hended, -⟩
  · exact .inr (hcount ▸ hts)
  · exact absurd (hnot.symm.trans hdraining) Bool.false_ne_true
  · cases h with
    | drainEnded h => exact absurd (HubState.of_nextNotice_eq_none h).1 hq
    | handedOver => exact .inl (List.cons_ne_nil _ _)
    | arrived | appended | flushSkipped | called | returned =>
        exact absurd (hended.symm.trans hdraining) Bool.false_ne_true
    | flushBegun h =>
        obtain ⟨-, rfl⟩ := HubState.of_beginDrain_eq_some h
        cases hended

/-- While nobody is at it, whoever has a flush to do begins to hand over or still has it to
do. -/
theorem draining_or_any (h : QueueStep s ts s' ts' added handed) (hts : Framed ts)
    (hany : ts.any QueueTask.handsOver = true) (hdraining : s.draining = false)
    (hcount : ts.countP QueueTask.isDrain = 0) :
    s'.draining = true ∨ (handed = [] ∧ ts'.any QueueTask.handsOver = true) := by
  cases h with
  | arrived => cases hany
  | appended => exact .inr ⟨rfl, hts.1⟩
  | flushSkipped h =>
      have hother := HubState.draining_of_beginDrain_eq_none h
      exact absurd (hdraining.symm.trans hother) Bool.false_ne_true
  | flushBegun h =>
      obtain ⟨-, rfl⟩ := HubState.of_beginDrain_eq_some h
      exact .inl rfl
  | handedOver | drainEnded =>
      rw [List.countP_cons_of_pos rfl] at hcount
      exact absurd hcount (Nat.succ_ne_zero _)
  | called => exact .inr ⟨rfl, Bool.or_eq_true_iff.mpr (.inr hany)⟩
  | returned => exact .inr ⟨rfl, hany⟩

end QueueStep

/-! ### A caller alone -/

/-- What one caller does while nobody else does anything with the queue. -/
def Alone : HubState ι × List QueueTask → HubState ι × List QueueTask → Prop :=
  ReflTransGen fun a b =>
    (∃ added handed, QueueStep a.1 a.2 b.1 b.2 added handed) ∨ (b.2 = a.2 ∧ Aside a.1 b.1)

/-- The notices that a shutdown queues. -/
def HubState.farewells (connectionInfo : ι → ConnectionInfo) (t : Termination)
    (s : HubState ι) : List Delivery :=
  s.registry.handles.map (⟨·, .terminated (s.farewell connectionInfo t)⟩)

/-- A shutdown begins by queueing its notices. -/
theorem Aside.closed (connectionInfo : ι → ConnectionInfo) (t : Termination) (s : HubState ι) :
    Aside (s.enqueue (s.farewells connectionInfo t)) (s.closed connectionInfo t) :=
  ⟨rfl, rfl⟩

/-- The end of a shutdown is aside from the queue. -/
theorem Aside.endClose (s : HubState ι) : Aside s s.endClose := ⟨rfl, rfl⟩

/-- Who is registered is aside from the queue. -/
theorem Aside.registry (registry : Registry) (s : HubState ι) : Aside s { s with registry } :=
  ⟨rfl, rfl⟩

namespace Alone

variable {s s₁ : HubState ι} {ts ts₁ : List QueueTask} {r : HubState ι × List QueueTask}

theorem step {added handed : List Delivery} (hs : QueueStep s ts s₁ ts₁ added handed)
    (h : Alone (s₁, ts₁) r) : Alone (s, ts) r :=
  .head (b := (s₁, ts₁)) (.inl ⟨added, handed, hs⟩) h

theorem aside (hs : Aside s s₁) (h : Alone (s₁, ts) r) : Alone (s, ts) r :=
  .head (b := (s₁, ts)) (.inr ⟨rfl, hs⟩) h

variable (w : Surroundings ε ι) (hub : String)

/-- A callback of a hub queues notices and flushes, besides what it does aside from the queue. -/
theorem react (reaction : Reaction ε) {s : HubState ι} (hs : s.draining = true) :
    ∃ acts, ∀ d rest,
      Alone (s, .callback d acts :: rest) ((HubState.react w hub reaction s).1, rest) := by
  induction reaction generalizing s with
  | done e => exact ⟨[], fun d rest => .step .returned .refl⟩
  | register listener next ih =>
      obtain ⟨acts, hacts⟩ := ih (s.registry.insert listener).1
        (s := { s with registry := (s.registry.insert listener).2 }) hs
      exact ⟨acts, fun d rest => .aside (.registry _ s) (hacts d rest)⟩
  | unregister handle next ih =>
      obtain ⟨acts, hacts⟩ := ih (s.registry.remove handle).1
        (s := { s with registry := (s.registry.remove handle).2 }) hs
      exact ⟨acts, fun d rest => .aside (.registry _ s) (hacts d rest)⟩
  | close e next ih =>
      rw [HubState.react, HubState.closeQueued, HubState.beginClose_eq]
      by_cases hclosing : s.closing = true
      · rw [if_pos hclosing]
        exact ih e hs
      · rw [if_neg hclosing]
        obtain ⟨acts, hacts⟩ := ih (HubState.releaseStream w s.stream e)
          (s := (s.closed (w.connectionInfo · e) (.closed hub)).endClose) hs
        refine ⟨.append (s.farewells (w.connectionInfo · e) (.closed hub)) :: .flush :: acts, ?_⟩
        intro d rest
        -- The flush is skipped since the callback runs while notices are being handed over.
        exact .step .called (.step .appended (.aside (.closed _ _ s) (.step .called
          (.step (.flushSkipped (if_pos hs)) (.aside (.endClose _) (hacts d rest))))))

/-- The handing over of notices by a hub is that by one caller. -/
theorem drain {s : HubState ι} {e : ε} {r : HubState ι × ε}
    (h : s.drain w hub e = some r) (hs : s.draining = true) (rest : List QueueTask) :
    Alone (s, .drain :: rest) (r.1, rest) := by
  revert hs
  refine HubState.drain.partial_correctness w hub
    (fun s _ r => s.draining = true → Alone (s, .drain :: rest) (r.1, rest)) ?_ s e r h
  intro go ih s e r hr hs
  cases hn : s.nextNotice with
  | mk next s' =>
      rw [hn] at hr
      cases next with
      | none =>
          obtain rfl : (s', e) = r := Option.some.inj hr
          exact .step (.drainEnded hn) .refl
      | some d =>
          have hs' : s'.draining = true := by
            obtain ⟨_, -, rfl⟩ := HubState.of_nextNotice_eq_some hn
            exact hs
          obtain ⟨acts, hacts⟩ := react w hub (w.handOver d e) hs'
          have hgo := ih _ _ _ hr ((HubState.draining_react w hub _ s').trans hs')
          exact .step (.handedOver hn acts) ((hacts d (.drain :: rest)).trans hgo)

/-- A flush of a hub is that of one caller. -/
theorem flush {s : HubState ι} {e : ε} {r : HubState ι × ε} (h : s.flush w hub e = some r)
    (rest : List QueueTask) : Alone (s, .act .flush :: rest) (r.1, rest) := by
  rw [HubState.flush] at h
  cases hb : s.beginDrain with
  | none =>
      rw [hb] at h
      obtain rfl : (s, e) = r := Option.some.inj h
      exact .step (.flushSkipped hb) .refl
  | some s' =>
      rw [hb] at h
      have hs' : s'.draining = true := by
        obtain ⟨-, rfl⟩ := HubState.of_beginDrain_eq_some hb
        rfl
      exact .step (.flushBegun hb) (drain w hub h hs' rest)

/-- A shutdown of a hub queues notices and flushes, or does nothing since another one is under
way. -/
theorem closeWith {s : HubState ι} {e : ε} {t : Termination} {r : HubState ι × ε}
    (h : s.closeWith w hub t e = some r) :
    s.closing = true ∧ r = (s, e) ∨
      ∃ ds, ∀ rest, Alone (s, .act (.append ds) :: .act .flush :: rest) (r.1, rest) := by
  rw [HubState.closeWith, HubState.beginClose_eq] at h
  by_cases hclosing : s.closing = true
  · rw [if_pos hclosing] at h
    exact .inl ⟨hclosing, (Option.some.inj h).symm⟩
  · rw [if_neg hclosing] at h
    obtain ⟨⟨s₁, e₁⟩, hflush, hr⟩ := Option.bind_eq_some_iff.mp h
    obtain rfl := Option.some.inj hr
    exact .inr ⟨s.farewells (w.connectionInfo · e) t, fun rest => .step .appended
      (.aside (.closed _ t s) ((flush w hub hflush rest).trans (Alone.aside (.endClose s₁) .refl)))⟩

/-- The taking in of a block by a hub queues notices, which are flushed afterwards. -/
theorem receive (s : HubState ι) (block : DeliveredBlock) (rest : List QueueTask) :
    Alone (s, .act (.append (dispatch hub s.registry block).2) :: rest)
      ((s.receive hub block).2, rest) := by
  have haside : Aside (s.enqueue (dispatch hub s.registry block).2) (s.receive hub block).2 :=
    ⟨rfl, rfl⟩
  exact .step .appended (.aside haside .refl)

end Alone

/-! ### One at a time -/

section Owner

variable [DecidableEq κ] {flag flag' : Bool} {count count' : κ → Nat} {i : κ}

variable (hcount : ∃ owner : Option κ, flag = owner.isSome ∧
  ∀ j, count j = if owner = some j then 1 else 0)
include hcount

/-- If at most one caller is at it, and the flag says whether there is one, then it stays so when
a caller begins while nobody is at it, ends, or leaves it as it is. -/
theorem exists_owner_of_turn (hother : ∀ j, j ≠ i → count' j = count j)
    (hself : (flag' = flag ∧ count' i = count i) ∨
      (flag = false ∧ flag' = true ∧ count' i = count i + 1) ∨
      (flag' = false ∧ count i = count' i + 1)) :
    ∃ owner : Option κ, flag' = owner.isSome ∧
      ∀ j, count' j = if owner = some j then 1 else 0 := by
  obtain ⟨owner, hflag, hcount⟩ := hcount
  -- It is enough to say who is at it now, and to look at the caller whose turn it was.
  have hturn (owner' : Option κ) (hi : count' i = if owner' = some i then 1 else 0)
      (hj : ∀ j, j ≠ i → (owner' = some j ↔ owner = some j)) (j : κ) :
      count' j = if owner' = some j then 1 else 0 := by
    by_cases hji : j = i
    · rw [hji, hi]
    · rw [hother j hji, hcount, if_congr (hj j hji) rfl rfl]
  have hi := hcount i
  rcases hself with ⟨hsame, heq⟩ | ⟨hnobody, hbegun, heq⟩ | ⟨hended, heq⟩
  · exact ⟨owner, hsame.trans hflag, hturn owner (heq.trans hi) fun _ _ => Iff.rfl⟩
  · obtain rfl : owner = none := by
      rw [← Option.not_isSome_iff_eq_none, ← hflag, hnobody]
      exact Bool.false_ne_true
    refine ⟨some i, hbegun, hturn (some i) ?_ fun j hj => ?_⟩
    · rw [heq, hi, if_pos rfl]
      rfl
    · exact iff_of_false (fun h => hj (Option.some.inj h).symm) nofun
  · obtain rfl : owner = some i := by
      by_contra hne
      rw [hi, if_neg hne] at heq
      exact absurd heq.symm (Nat.succ_ne_zero _)
    refine ⟨none, hended, hturn none ?_ fun j hj => ?_⟩
    · rw [hi, if_pos rfl] at heq
      exact (Nat.succ.inj heq).symm
    · exact iff_of_false nofun fun h => hj (Option.some.inj h).symm

/-- If the flag is set and one caller is not at it, then another one is. -/
theorem exists_other_owner (hbusy : flag = true) (hzero : count i = 0) :
    ∃ k, k ≠ i ∧ 0 < count k := by
  obtain ⟨owner, hflag, hcount⟩ := hcount
  obtain ⟨k, rfl⟩ := Option.isSome_iff_exists.mp (hflag.symm.trans hbusy)
  have hk : count k = 1 := by rw [hcount, if_pos rfl]
  refine ⟨k, ?_, hk ▸ Nat.one_pos⟩
  rintro rfl
  exact absurd (hk.symm.trans hzero) Nat.one_ne_zero

end Owner

/-! ### All callers -/

/-- A hub whose queue is shared by the callers `κ`. -/
structure Crowd (κ ι : Type) where
  state : HubState ι := {}
  /-- What is left to do for each caller, innermost first. -/
  tasks : κ → List QueueTask := fun _ => []
  /-- All notices that were ever queued. -/
  added : List Delivery := []
  /-- All notices that were ever handed over. -/
  handed : List Delivery := []

namespace Crowd

variable [DecidableEq κ]

/-- The crowd after a section of one caller. -/
def after (c : Crowd κ ι) (i : κ) (s : HubState ι) (ts : List QueueTask)
    (added handed : List Delivery) : Crowd κ ι where
  state := s
  tasks := Function.update c.tasks i ts
  added := c.added ++ added
  handed := c.handed ++ handed

/-- One of the callers carries out a section. -/
def Acts (i : κ) (c c' : Crowd κ ι) : Prop :=
  ∃ s ts added handed, QueueStep c.state (c.tasks i) s ts added handed ∧
    c' = c.after i s ts added handed

/-- Some caller carries out a section, or something else happens to the hub. -/
inductive Next : Crowd κ ι → Crowd κ ι → Prop where
  | acts {c c' : Crowd κ ι} (i : κ) (h : Acts i c c') : Next c c'
  | aside {c : Crowd κ ι} {s : HubState ι} (h : Aside c.state s) : Next c { c with state := s }

/-- The moments of all runs, from the one in which nobody has come yet. -/
def Reachable (c : Crowd κ ι) : Prop := ReflTransGen Next {} c

/-- No notice is forgotten: those that were queued have been handed over in order or wait in
the queue, and if any wait then somebody sees to it. The hub says that notices are being handed
over exactly if there is a caller who is at it, and there is one of them at most. -/
structure Orderly (c : Crowd κ ι) : Prop where
  balanced : c.added = c.handed ++ c.state.queue
  framed : ∀ i, Framed (c.tasks i)
  owner : ∃ owner : Option κ, c.state.draining = owner.isSome ∧
    ∀ i, (c.tasks i).countP QueueTask.isDrain = if owner = some i then 1 else 0
  noticed : c.state.queue ≠ [] → ∃ i, (c.tasks i).any QueueTask.handsOver = true

variable {c c' : Crowd κ ι} {i : κ}

/-- In the beginning nothing has been queued. -/
theorem Orderly.empty : ({} : Crowd κ ι).Orderly where
  balanced := rfl
  framed := fun _ => trivial
  owner := ⟨none, rfl, fun _ => rfl⟩
  noticed := fun h => absurd rfl h

/-- What a caller has to do after a section of it. -/
@[simp] theorem after_tasks_self (c : Crowd κ ι) (i : κ) (s : HubState ι) (ts : List QueueTask)
    (added handed : List Delivery) : (c.after i s ts added handed).tasks i = ts :=
  Function.update_self ..

/-- A section of one caller leaves the others what they have to do. -/
theorem after_tasks_of_ne (c : Crowd κ ι) {i j : κ} (h : j ≠ i) (s : HubState ι)
    (ts : List QueueTask) (added handed : List Delivery) :
    (c.after i s ts added handed).tasks j = c.tasks j :=
  Function.update_of_ne h ..

/-- Each section of a caller keeps order. -/
theorem Acts.orderly (h : Acts i c c') (hc : c.Orderly) : c'.Orderly := by
  obtain ⟨s, ts, added, handed, hstep, rfl⟩ := h
  have hself := c.after_tasks_self i s ts added handed
  have hother {j : κ} (hj : j ≠ i) := c.after_tasks_of_ne hj s ts added handed
  constructor
  case balanced =>
    simp only [after]
    rw [hc.balanced, List.append_assoc, hstep.queue_eq, List.append_assoc]
  case framed =>
    intro j
    by_cases hj : j = i
    · rw [hj, hself]
      exact hstep.framed (hc.framed i)
    · rw [hother hj]
      exact hc.framed j
  case owner =>
    refine exists_owner_of_turn hc.owner (i := i) (fun j hj => by rw [hother hj]) ?_
    rw [hself]
    exact hstep.drains
  case noticed =>
    intro hqueue
    by_cases hempty : c.state.queue = []
    · exact ⟨i, by rw [hself]; exact hstep.any_handsOver_of_queue (hc.framed i) hempty hqueue⟩
    obtain ⟨j, hj⟩ := hc.noticed hempty
    by_cases hji : j = i
    · subst hji
      rcases hstep.any_handsOver hj with hkept | hnone | ⟨hbusy, hzero⟩
      · exact ⟨j, by rw [hself]; exact hkept⟩
      · exact absurd hnone hqueue
      · obtain ⟨k, hkj, hdrain⟩ := exists_other_owner hc.owner hbusy hzero
        exact ⟨k, by rw [hother hkj]; exact any_handsOver_of_drain hdrain⟩
    · exact ⟨j, by rw [hother hji]; exact hj⟩

/-- At every moment of every run there is order. -/
theorem Reachable.orderly (h : c.Reachable) : c.Orderly := by
  induction h with
  | refl => exact .empty
  | tail _ hnext ih =>
      cases hnext with
      | acts i h => exact h.orderly ih
      | aside h =>
          obtain ⟨owner, howner, hcount⟩ := ih.owner
          exact ⟨by rw [h.queue]; exact ih.balanced, ih.framed,
            ⟨owner, h.draining.trans howner, hcount⟩, by rw [h.queue]; exact ih.noticed⟩

/-- Whoever is at it has set the flag of the hub. -/
theorem Orderly.draining_eq_true (hc : c.Orderly)
    (h : 0 < (c.tasks i).countP QueueTask.isDrain) : c.state.draining = true := by
  obtain ⟨owner, hdraining, hcount⟩ := hc.owner
  have hi := hcount i
  by_cases howner : owner = some i
  · rw [hdraining, howner]
    rfl
  · rw [if_neg howner] at hi
    omega

/-- If the flag of the hub is set, then somebody is at it. -/
theorem Orderly.exists_drain (hc : c.Orderly) (h : c.state.draining = true) :
    ∃ i, 0 < (c.tasks i).countP QueueTask.isDrain := by
  obtain ⟨owner, hdraining, hcount⟩ := hc.owner
  obtain ⟨i, rfl⟩ := Option.isSome_iff_exists.mp (hdraining.symm.trans h)
  exact ⟨i, by rw [hcount, if_pos rfl]; exact Nat.one_pos⟩

/-- One callback runs at a time. -/
theorem Orderly.callbacks (hc : c.Orderly) :
    (∀ i, (c.tasks i).countP QueueTask.isCallback ≤ 1) ∧
      ∀ i j, 0 < (c.tasks i).countP QueueTask.isCallback →
        0 < (c.tasks j).countP QueueTask.isCallback → i = j := by
  obtain ⟨owner, -, hcount⟩ := hc.owner
  have hle i : (c.tasks i).countP QueueTask.isCallback ≤ if owner = some i then 1 else 0 :=
    hcount i ▸ (hc.framed i).countP_le
  have howner i (hi : 0 < (c.tasks i).countP QueueTask.isCallback) : owner = some i := by
    by_contra hne
    have hzero := hle i
    rw [if_neg hne] at hzero
    omega
  refine ⟨fun i => Nat.le_trans (hle i) (by split <;> omega), ?_⟩
  intro i j hi hj
  exact Option.some.inj ((howner i hi).symm.trans (howner j hj))

/-- When all callers are done, every notice has been handed over and nobody is at it. -/
theorem Orderly.done (hc : c.Orderly) (h : ∀ i, c.tasks i = []) :
    c.state.queue = [] ∧ c.state.draining = false ∧ c.handed = c.added := by
  have hqueue : c.state.queue = [] := by
    by_contra hne
    obtain ⟨i, hi⟩ := hc.noticed hne
    rw [h i] at hi
    cases hi
  refine ⟨hqueue, ?_, ?_⟩
  · by_contra hbusy
    obtain ⟨i, hi⟩ := hc.exists_drain (by simpa using hbusy)
    rw [h i] at hi
    exact absurd hi (Nat.lt_irrefl 0)
  · rw [hc.balanced, hqueue, List.append_nil]

/-! ### Callers who go on -/

/-- What was queued and what was handed over stays so. -/
theorem Next.grows (h : Next c c') : c.added <+: c'.added ∧ c.handed <+: c'.handed := by
  cases h with
  | acts i h =>
      obtain ⟨s, ts, added, handed, -, rfl⟩ := h
      exact ⟨List.prefix_append _ _, List.prefix_append _ _⟩
  | aside => exact ⟨List.prefix_rfl, List.prefix_rfl⟩

/-- What is left to do for a caller stays so until the caller goes on. -/
theorem Next.acts_or_tasks_eq (h : Next c c') (i : κ) :
    Acts i c c' ∨ c'.tasks i = c.tasks i := by
  cases h with
  | aside => exact .inr rfl
  | acts j h =>
      by_cases hij : i = j
      · exact .inl (hij ▸ h)
      · obtain ⟨s, ts, added, handed, -, rfl⟩ := h
        exact .inr (c.after_tasks_of_ne hij s ts added handed)

/-- What happens to a crowd from a moment on, without end. Whoever has something left to do goes
on at some time. -/
structure FairRun (c : Crowd κ ι) (run : Nat → Crowd κ ι) : Prop where
  start : run 0 = c
  next : ∀ n, Next (run n) (run (n + 1))
  fair : ∀ n i, (run n).tasks i ≠ [] → ∃ m, n ≤ m ∧ Acts i (run m) (run (m + 1))

namespace FairRun

variable {run : Nat → Crowd κ ι}

theorem orderly (h : FairRun c run) (hc : c.Reachable) (n : Nat) : (run n).Orderly := by
  have hreachable : (run n).Reachable := by
    induction n with
    | zero => rwa [h.start]
    | succ n ih => exact ih.tail (h.next n)
  exact hreachable.orderly

theorem prefix_of_le (h : FairRun c run) {n m : Nat} (hnm : n ≤ m) :
    (run n).added <+: (run m).added ∧ (run n).handed <+: (run m).handed := by
  induction hnm with
  | refl => exact ⟨List.prefix_rfl, List.prefix_rfl⟩
  | step _ ih =>
      obtain ⟨hadded, hhanded⟩ := (h.next _).grows
      exact ⟨ih.1.trans hadded, ih.2.trans hhanded⟩

/-- Whoever has something left to do goes on with just that at some time. -/
theorem exists_acts (h : FairRun c run) {n : Nat} (hi : (run n).tasks i ≠ []) :
    ∃ m, n ≤ m ∧ Acts i (run m) (run (m + 1)) ∧ (run m).tasks i = (run n).tasks i := by
  obtain ⟨m, hnm, hacts⟩ := h.fair n i hi
  induction hd : m - n generalizing n with
  | zero =>
      obtain rfl : n = m := by omega
      exact ⟨n, Nat.le_refl n, hacts, rfl⟩
  | succ d ih =>
      rcases (h.next n).acts_or_tasks_eq i with hnow | heq
      · exact ⟨n, Nat.le_refl n, hnow, rfl⟩
      · obtain ⟨m', hm', hacts', htasks⟩ := ih (heq ▸ hi) (by omega) (by omega)
        exact ⟨m', by omega, hacts', htasks.trans heq⟩

/-- As long as nothing more is handed over, what is queued stays in the queue. -/
theorem queue_ne_nil (h : FairRun c run) (hc : c.Reachable) {n m : Nat} (hnm : n ≤ m)
    (hq : (run n).state.queue ≠ []) (hsame : ¬ (run n).handed.length < (run m).handed.length) :
    (run m).state.queue ≠ [] := by
  have hn := congrArg List.length (h.orderly hc n).balanced
  have hm := congrArg List.length (h.orderly hc m).balanced
  have hle := (h.prefix_of_le hnm).1.length_le
  have hpos := List.length_pos_iff.mpr hq
  rw [List.length_append] at hn hm
  refine List.length_pos_iff.mp ?_
  omega

/-- Whoever has something left to do hands over a notice or comes nearer to the end. -/
theorem exists_step (h : FairRun c run) {n : Nat} (hi : (run n).tasks i ≠ []) :
    ∃ m s ts added handed, n ≤ m ∧ (run m).tasks i = (run n).tasks i ∧
      QueueStep (run m).state ((run m).tasks i) s ts added handed ∧
      run (m + 1) = (run m).after i s ts added handed ∧
      (handed = [] →
        QueueTask.load ((run (m + 1)).tasks i) < QueueTask.load ((run n).tasks i)) := by
  obtain ⟨m, hnm, ⟨s, ts, added, handed, hstep, hafter⟩, htasks⟩ := h.exists_acts hi
  refine ⟨m, s, ts, added, handed, hnm, htasks, hstep, hafter, ?_⟩
  rintro rfl
  have hlt := hstep.load_lt (htasks ▸ hi)
  rw [htasks] at hlt
  rwa [hafter, after_tasks_self]

/-- If somebody is at it while notices are queued, another one is handed over. -/
theorem exists_more_of_drain (h : FairRun c run) (hc : c.Reachable) {n : Nat}
    (hq : (run n).state.queue ≠ []) (hi : 0 < ((run n).tasks i).countP QueueTask.isDrain) :
    ∃ m, n ≤ m ∧ (run n).handed.length < (run m).handed.length := by
  induction hload : QueueTask.load ((run n).tasks i) using Nat.strongRecOn generalizing n with
  | ind _ ih =>
  by_contra hnone
  have hstuck {m} (hnm : n ≤ m) : ¬ (run n).handed.length < (run m).handed.length :=
    fun hmore => hnone ⟨m, hnm, hmore⟩
  have hne : (run n).tasks i ≠ [] := by
    intro hnil
    rw [hnil] at hi
    exact absurd hi (Nat.lt_irrefl 0)
  obtain ⟨m, s, ts, added, handed, hnm, htasks, hstep, hafter, hless⟩ := h.exists_step hne
  rw [← htasks] at hi
  have hdraining := (h.orderly hc m).draining_eq_true hi
  have hhanded : handed = [] := by
    have hnot := hstuck (Nat.le_succ_of_le hnm)
    have hle := (h.prefix_of_le hnm).2.length_le
    rw [hafter, after, List.length_append] at hnot
    exact List.length_eq_zero_iff.mp (by omega)
  rcases hstep.drain_or_handed hdraining (h.queue_ne_nil hc hnm hq (hstuck hnm)) hi with
    hmore | hstill
  · exact hmore hhanded
  -- Nothing has been handed over, so there is less left to do before that.
  obtain ⟨m', hm', hmore⟩ := ih _ (hload ▸ hless hhanded)
    (h.queue_ne_nil hc (Nat.le_succ_of_le hnm) hq (hstuck (Nat.le_succ_of_le hnm)))
    (by rwa [hafter, after_tasks_self]) rfl
  have hle := (h.prefix_of_le (Nat.le_succ_of_le hnm)).2.length_le
  exact hnone ⟨m', by omega, by omega⟩

/-- If somebody has a flush to do, then somebody comes to be at it. -/
theorem exists_draining (h : FairRun c run) (hc : c.Reachable) {n : Nat}
    (hi : ((run n).tasks i).any QueueTask.handsOver = true) :
    ∃ m, n ≤ m ∧ (run m).state.draining = true := by
  induction hload : QueueTask.load ((run n).tasks i) using Nat.strongRecOn generalizing n with
  | ind _ ih =>
  have hne : (run n).tasks i ≠ [] := by
    intro hnil
    rw [hnil] at hi
    cases hi
  obtain ⟨m, s, ts, added, handed, hnm, htasks, hstep, hafter, hless⟩ := h.exists_step hne
  rw [← htasks] at hi
  have horderly := h.orderly hc m
  by_cases hdraining : (run m).state.draining = true
  · exact ⟨m, hnm, hdraining⟩
  have hzero : ((run m).tasks i).countP QueueTask.isDrain = 0 := by
    by_contra hcount
    exact hdraining (horderly.draining_eq_true (Nat.pos_of_ne_zero hcount))
  rcases hstep.draining_or_any (horderly.framed i) hi (by simpa using hdraining) hzero with
    hbegun | ⟨hhanded, hstill⟩
  · exact ⟨m + 1, Nat.le_succ_of_le hnm, by rw [hafter]; exact hbegun⟩
  · obtain ⟨m', hm', hdraining'⟩ := ih _ (hload ▸ hless hhanded)
      (by rwa [hafter, after_tasks_self]) rfl
    exact ⟨m', by omega, hdraining'⟩

/-- As long as notices are queued, another one is handed over. -/
theorem exists_more_handed (h : FairRun c run) (hc : c.Reachable) {n : Nat}
    (hq : (run n).state.queue ≠ []) :
    ∃ m, n ≤ m ∧ (run n).handed.length < (run m).handed.length := by
  obtain ⟨i, hi⟩ := (h.orderly hc n).noticed hq
  obtain ⟨m, hnm, hdraining⟩ := h.exists_draining hc hi
  by_cases hmore : (run n).handed.length < (run m).handed.length
  · exact ⟨m, hnm, hmore⟩
  obtain ⟨j, hj⟩ := (h.orderly hc m).exists_drain hdraining
  obtain ⟨m', hm', hmore'⟩ := h.exists_more_of_drain hc (h.queue_ne_nil hc hnm hq hmore) hj
  have hle := (h.prefix_of_le hnm).2.length_le
  exact ⟨m', by omega, by omega⟩

/-- Every notice that is queued is handed over at some time. -/
theorem exists_handed (h : FairRun c run) (hc : c.Reachable) {n k : Nat}
    (hk : k < (run n).added.length) : ∃ m, n ≤ m ∧ k < (run m).handed.length := by
  induction hd : k + 1 - (run n).handed.length using Nat.strongRecOn generalizing n with
  | ind _ ih =>
  by_cases hdone : k < (run n).handed.length
  · exact ⟨n, Nat.le_refl n, hdone⟩
  have hq : (run n).state.queue ≠ [] := by
    have hlength := congrArg List.length (h.orderly hc n).balanced
    rw [List.length_append] at hlength
    exact List.length_pos_iff.mp (by omega)
  obtain ⟨m, hnm, hmore⟩ := h.exists_more_handed hc hq
  have hle := (h.prefix_of_le hnm).1.length_le
  obtain ⟨m', hm', hhanded⟩ := ih _ (by omega) (n := m) (by omega) rfl
  exact ⟨m', by omega, hhanded⟩

end FairRun

/-- What a caller does alone, it can do in the crowd, and leaves the others what they have to
do. -/
theorem exists_of_alone {r : HubState ι × List QueueTask}
    (h : Alone (c.state, c.tasks i) r) :
    ∃ c', ReflTransGen Next c c' ∧ c'.state = r.1 ∧ c'.tasks i = r.2 ∧
      ∀ j, j ≠ i → c'.tasks j = c.tasks j := by
  induction h with
  | refl => exact ⟨c, .refl, rfl, rfl, fun _ _ => rfl⟩
  | @tail a b _ hlast ih =>
      obtain ⟨c', hlater, hstate, htasks, hothers⟩ := ih
      rcases hlast with ⟨added, handed, hstep⟩ | ⟨heq, haside⟩
      · rw [← hstate, ← htasks] at hstep
        refine ⟨_, hlater.tail (.acts i ⟨_, _, added, handed, hstep, rfl⟩), rfl,
          after_tasks_self .., ?_⟩
        intro j hj
        rw [after_tasks_of_ne _ hj, hothers j hj]
      · rw [← hstate] at haside
        exact ⟨_, hlater.tail (.aside haside), rfl, htasks.trans heq.symm, hothers⟩

/-- A moment, and then a run. -/
def cons (c : Crowd κ ι) (run : Nat → Crowd κ ι) : Nat → Crowd κ ι
  | 0 => c
  | n + 1 => run n

/-- A run in which everybody is done at last may go on as it likes. -/
theorem exists_fairRun {c' : Crowd κ ι} (h : ReflTransGen Next c c')
    (hdone : ∀ i, c'.tasks i = []) : ∃ run, FairRun c run := by
  induction h using ReflTransGen.head_induction_on with
  | refl =>
      refine ⟨fun _ => c', rfl, fun _ => .aside ⟨rfl, rfl⟩, ?_⟩
      exact fun _ i hi => absurd (hdone i) hi
  | @head c c₁ hfirst _ ih =>
      obtain ⟨run, rfl, hnext, hfair⟩ := ih
      have hlater n i (hi : (run n).tasks i ≠ []) :
          ∃ m, n + 1 ≤ m ∧ Acts i (c.cons run m) (c.cons run (m + 1)) := by
        obtain ⟨m, hnm, hacts⟩ := hfair n i hi
        exact ⟨m + 1, Nat.succ_le_succ hnm, hacts⟩
      refine ⟨c.cons run, rfl, ?_, ?_⟩
      · intro n
        cases n with
        | zero => exact hfirst
        | succ n => exact hnext n
      · intro n i hi
        cases n with
        | succ n => exact hlater n i hi
        | zero =>
            rcases hfirst.acts_or_tasks_eq i with hacts | heq
            · exact ⟨0, Nat.le_refl 0, hacts⟩
            · obtain ⟨m, hm, hacts⟩ := hlater 0 i (heq ▸ hi)
              exact ⟨m, Nat.zero_le m, hacts⟩

/-- Any number of callers queue notices and flush afterwards, in any order of their sections, and
callbacks do so as well or panic. At every moment the notices that were queued have been handed
over, each once and in order, or wait in the queue. One callback runs at most. Whoever has
something left to do can go on, and when nobody has, all notices have been handed over and the
hub does not say that somebody is at it. If everybody goes on, every notice that was queued is
handed over at some time. -/
theorem handed_in_order (h : c.Reachable) :
    c.added = c.handed ++ c.state.queue ∧
    ((∀ i, (c.tasks i).countP QueueTask.isCallback ≤ 1) ∧
      ∀ i j, 0 < (c.tasks i).countP QueueTask.isCallback →
        0 < (c.tasks j).countP QueueTask.isCallback → i = j) ∧
    (∀ i, c.tasks i ≠ [] → ∃ c', Acts i c c') ∧
    ((∀ i, c.tasks i = []) →
      c.state.queue = [] ∧ c.state.draining = false ∧ c.handed = c.added) ∧
    (∀ run, FairRun c run → ∀ (k : Nat) (hk : k < c.added.length),
      ∃ n, (run n).handed[k]? = some c.added[k]) := by
  have hc := h.orderly
  refine ⟨hc.balanced, hc.callbacks, ?_, hc.done, ?_⟩
  · intro i hi
    obtain ⟨s, ts, added, handed, hstep⟩ := QueueStep.exists_of_ne_nil c.state hi
    exact ⟨_, s, ts, added, handed, hstep, rfl⟩
  · intro run hrun k hk
    have hstart := hrun.start
    obtain ⟨n, -, hn⟩ := hrun.exists_handed h (n := 0) (k := k) (by rwa [hstart])
    obtain ⟨more, hmore⟩ := (hrun.prefix_of_le (Nat.zero_le n)).1
    rw [hstart, (hrun.orderly h n).balanced] at hmore
    refine ⟨n, ?_⟩
    calc (run n).handed[k]?
        = ((run n).handed ++ (run n).state.queue)[k]? := (List.getElem?_append_left hn).symm
      _ = (c.added ++ more)[k]? := by rw [hmore]
      _ = c.added[k]? := List.getElem?_append_left hk
      _ = some c.added[k] := List.getElem?_eq_getElem hk

/-- The notice of the end for a listener. -/
def parting (id : Nat) : Delivery := ⟨⟨id⟩, .terminated (.closed "hub")⟩

/-- While one caller hands over the first notice, another one has queued a second, and finds
that somebody is at it. The callback of the first notice queues a third one and panics. If
everybody goes on, the second notice is handed over. -/
theorem handed_in_order_two_callers :
    ∃ (c : Crowd Bool Unit) (run : Nat → Crowd Bool Unit) (n : Nat), c.Reachable ∧
      FairRun c run ∧ c.added = [parting 1, parting 2] ∧ c.handed = [parting 1] ∧
      (run n).handed[1]? = some (parting 2) := by
  have hwaits {c c' : Crowd Bool Unit} (hc : c.Reachable) (hlater : ReflTransGen Next c c')
      (hdone : ∀ i, c'.tasks i = []) (hadded : c.added = [parting 1, parting 2]) :
      ∃ run n, FairRun c run ∧ (run n).handed[1]? = some (parting 2) := by
    obtain ⟨run, hrun⟩ := exists_fairRun hlater hdone
    obtain ⟨-, -, -, -, hlive⟩ := handed_in_order hc
    obtain ⟨n, hn⟩ := hlive run hrun 1 (by rw [hadded]; decide)
    exact ⟨run, n, hrun, by simpa [hadded] using hn⟩
  have hcomes : ReflTransGen Next ({} : Crowd Bool Unit) _ :=
    .single (.acts false ⟨_, _, _, _, .arrived [.append [parting 1]], rfl⟩)
  have hbegins := (hcomes.tail (.acts false ⟨_, _, _, _, .appended, rfl⟩)).tail
    (.acts false ⟨_, _, _, _, .flushBegun rfl, rfl⟩)
  have hcalls := hbegins.tail
    (.acts false ⟨_, _, _, _, .handedOver rfl [.append [parting 3], .flush], rfl⟩)
  have hother := (hcalls.tail (.acts true ⟨_, _, _, _, .arrived [.append [parting 2]], rfl⟩)).tail
    (.acts true ⟨_, _, _, _, .appended, rfl⟩)
  obtain ⟨run, n, hrun, hn⟩ := hwaits hother
    (.head (.acts true ⟨_, _, _, _, .flushSkipped rfl, rfl⟩)
      (.head (.acts false ⟨_, _, _, _, .called, rfl⟩)
      (.head (.acts false ⟨_, _, _, _, .appended, rfl⟩)
      (.head (.acts false ⟨_, _, _, _, .returned, rfl⟩)
      (.head (.acts false ⟨_, _, _, _, .handedOver rfl [], rfl⟩)
      (.head (.acts false ⟨_, _, _, _, .returned, rfl⟩)
      (.head (.acts false ⟨_, _, _, _, .handedOver rfl [], rfl⟩)
      (.head (.acts false ⟨_, _, _, _, .returned, rfl⟩)
      (.single (.acts false ⟨_, _, _, _, .drainEnded rfl, rfl⟩))))))))))
    (by intro i; cases i <;> rfl) rfl
  exact ⟨_, run, n, hother, hrun, rfl, rfl, hn⟩

end Crowd

end LedgerClient
