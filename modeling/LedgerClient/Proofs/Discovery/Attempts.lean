import LedgerClient.Discovery.Endorse
import Mathlib.Data.List.Nodup

/-!
# The record of asked peers

What recording an outcome changes about who has been asked, who has endorsed, and what the
results say.

## Main results

* `Attempts.tried_record`, `Attempts.endorsed_record`: recording an outcome concerns the
  peer that it reports, and no other one.
* `Attempts.Sound.mem_responders`: the responses come from the selected peers that have endorsed.
-/

namespace LedgerClient

/-- Whether an outcome is a response that is no error. -/
def PeerOutcome.endorses (o : PeerOutcome) : Bool := o.response?.isSome

/-- An outcome endorses if it is a response whose status is below those of errors. -/
theorem PeerOutcome.endorses_iff (o : PeerOutcome) :
    o.endorses = true ↔
      ∃ r, o.result = .ok r ∧ ¬ ProposalResponse.errorStatus ≤ r.response.status := by
  rw [endorses, response?]
  cases o.result with
  | error e => simp
  | ok r =>
      simp only [Except.ok.injEq, exists_eq_left', ProposalResponse.isError, decide_eq_true_eq]
      split
      · simp_all
      · simp_all

/-- The peers that have responded, in order. -/
def ProposalResults.responders (r : ProposalResults) : List String :=
  r.responses.map PeerResponse.peer

namespace Attempts

/-- The peers that were asked, in order. -/
def names (a : Attempts) : List String := a.outcomes.map Prod.fst

/-- Each peer is recorded once, with an outcome of its own. -/
structure Sound (a : Attempts) : Prop where
  nodup : a.names.Nodup
  peer_eq : ∀ e ∈ a.outcomes, e.2.peer = e.1

variable {a : Attempts}

/-! ### Who was asked -/

/-- A peer was asked exactly if it is recorded. -/
theorem tried_iff (a : Attempts) (n : String) : a.tried n = true ↔ n ∈ a.names := by
  simp only [tried, names, List.any_eq_true, beq_iff_eq, List.mem_map]

/-- Recording an outcome adds the peer to those that were asked, if it is not there. -/
theorem names_record (o : PeerOutcome) (a : Attempts) :
    (a.record o).names = if a.tried o.peer then a.names else a.names ++ [o.peer] := by
  simp only [record, names]
  split
  · rw [List.map_map]
    refine List.map_congr_left ?_
    intro e he
    by_cases heq : e.1 = o.peer
    · simp [heq]
    · simp [heq]
  · simp

/-- Recording an outcome makes its peer one that was asked. -/
theorem tried_record (o : PeerOutcome) (a : Attempts) (n : String) :
    (a.record o).tried n = (a.tried n || n == o.peer) := by
  rw [Bool.eq_iff_iff, Bool.or_eq_true, tried_iff (a.record o), tried_iff a, names_record,
    beq_iff_eq]
  split
  · next h =>
    rw [tried_iff] at h
    constructor
    · exact Or.inl
    · rintro (hn | rfl)
      · exact hn
      · exact h
  · rw [List.mem_append, List.mem_singleton]

/-- Nobody was asked at first. -/
theorem Sound.empty : Sound {} where
  nodup := List.nodup_nil
  peer_eq := by
    intro e he
    exact absurd he List.not_mem_nil

/-- Recording keeps each peer with an outcome of its own. -/
theorem Sound.record (ha : a.Sound) (o : PeerOutcome) : (a.record o).Sound where
  nodup := by
    rw [names_record]
    split
    · exact ha.nodup
    · next h =>
      rw [tried_iff] at h
      refine ha.nodup.append (List.nodup_singleton _) ?_
      intro n hn hnew
      rw [List.mem_singleton] at hnew
      exact h (hnew ▸ hn)
  peer_eq := by
    intro e he
    simp only [Attempts.record] at he
    split at he
    · obtain ⟨e', he', rfl⟩ := List.mem_map.mp he
      split
      · rfl
      · exact ha.peer_eq e' he'
    · rcases List.mem_append.mp he with he | he
      · exact ha.peer_eq e he
      · rw [List.mem_singleton.mp he]

/-! ### Who has endorsed -/

/-- The outcome that was recorded last for a peer counts. -/
theorem outcome?_record (o : PeerOutcome) (a : Attempts) (n : String) :
    (a.record o).outcome? n = if n = o.peer then some o else a.outcome? n := by
  have hkey : ((fun e : String × PeerOutcome => e.1 == n) ∘
      fun e => if e.1 == o.peer then (o.peer, o) else e) = fun e => e.1 == n := by
    funext e
    by_cases he : e.1 = o.peer
    · simp [he]
    · simp [he]
  rw [outcome?, record]
  by_cases ht : a.tried o.peer
  · simp only [ht, if_true, List.find?_map, hkey]
    cases hfind : a.outcomes.find? fun e => e.1 == n with
    | none =>
        have hn : n ≠ o.peer := by
          rintro rfl
          rw [tried_iff, names, List.mem_map] at ht
          obtain ⟨e, he, heq⟩ := ht
          exact absurd heq (by simpa using List.find?_eq_none.mp hfind e he)
        rw [if_neg hn, outcome?, hfind]
        rfl
    | some e =>
        have he : e.1 = n := by simpa using List.find?_some hfind
        rw [outcome?, hfind]
        by_cases hn : n = o.peer
        · simp [hn, he]
        · simp [hn, he]
  · have hnone : n = o.peer → a.outcomes.find? (fun e => e.1 == n) = none := by
      rintro rfl
      refine List.find?_eq_none.mpr ?_
      intro e he heq
      rw [tried_iff] at ht
      exact ht (List.mem_map.mpr ⟨e, he, by simpa using heq⟩)
    simp only [if_neg ht, List.find?_append]
    by_cases hn : n = o.peer
    · subst hn
      simp [hnone rfl]
    · have hne : ¬ o.peer = n := fun h => hn h.symm
      simp [hn, hne, outcome?]

/-- Recording an outcome concerns the endorsement of its peer only. -/
theorem endorsed_record (o : PeerOutcome) (a : Attempts) (n : String) :
    (a.record o).endorsed n = if n = o.peer then o.endorses else a.endorsed n := by
  rw [endorsed, outcome?_record]
  split
  · rfl
  · rfl

/-- Who has endorsed has an outcome that says so. -/
theorem mem_of_endorsed {n : String} (h : a.endorsed n = true) :
    ∃ o, (n, o) ∈ a.outcomes ∧ o.endorses = true := by
  rw [endorsed, Option.any_eq_true] at h
  obtain ⟨o, ho, hend⟩ := h
  rw [outcome?, Option.map_eq_some_iff] at ho
  obtain ⟨e, he, rfl⟩ := ho
  have hkey : e.1 = n := by simpa using List.find?_some he
  exact ⟨e.2, hkey ▸ List.mem_of_find?_eq_some he, hend⟩

/-- Who has endorsed was asked. -/
theorem tried_of_endorsed {n : String} (h : a.endorsed n = true) : a.tried n = true := by
  obtain ⟨o, ho, -⟩ := mem_of_endorsed h
  rw [tried_iff]
  exact List.mem_map_of_mem ho

/-- In a sound record the outcome of a peer is the only one it has. -/
theorem Sound.outcome?_eq (ha : a.Sound) {n : String} {o : PeerOutcome}
    (ho : (n, o) ∈ a.outcomes) : a.outcome? n = some o := by
  have hsome : (a.outcomes.find? fun e => e.1 == n).isSome := by
    rw [List.find?_isSome]
    exact ⟨(n, o), ho, by simp⟩
  obtain ⟨e, he⟩ := Option.isSome_iff_exists.mp hsome
  have hkey : e.1 = n := by simpa using List.find?_some he
  obtain rfl : e = (n, o) :=
    List.inj_on_of_nodup_map ha.nodup (List.mem_of_find?_eq_some he) ho hkey
  rw [outcome?, he]
  rfl

/-- In a sound record the outcome of a peer reports this peer. -/
theorem Sound.peer_of_outcome? (ha : a.Sound) {n : String} {o : PeerOutcome}
    (ho : a.outcome? n = some o) : o.peer = n := by
  obtain ⟨e, he, rfl⟩ := Option.map_eq_some_iff.mp ho
  have hkey : e.1 = n := by simpa using List.find?_some he
  exact (ha.peer_eq e (List.mem_of_find?_eq_some he)).trans hkey

/-- In a sound record whether a peer has endorsed is what its only outcome says. -/
theorem Sound.endorsed_eq (ha : a.Sound) {n : String} {o : PeerOutcome}
    (ho : (n, o) ∈ a.outcomes) : a.endorsed n = o.endorses := by
  rw [endorsed, ha.outcome?_eq ho]
  rfl

/-- The outcomes of some of the peers that were asked, in order. -/
theorem Sound.map_filter_outcomes (ha : a.Sound) (keep : String → Bool) :
    (a.outcomes.filter fun e => keep e.1).map Prod.snd =
      (a.names.filter keep).filterMap a.outcome? := by
  rw [names, List.filter_map, List.filterMap_map, ← List.filterMap_eq_map]
  refine List.filterMap_congr ?_
  intro e he
  exact (ha.outcome?_eq (List.mem_of_mem_filter he)).symm

/-! ### Going on asking -/

/-- A later record: who was asked stays so, and whether that peer has endorsed. -/
structure Extends (a a' : Attempts) : Prop where
  tried : ∀ n, a.tried n = true → a'.tried n = true
  endorsed : ∀ n, a.tried n = true → a'.endorsed n = a.endorsed n

theorem Extends.refl (a : Attempts) : a.Extends a := ⟨fun _ => id, fun _ _ => rfl⟩

theorem Extends.trans {a' a'' : Attempts} (h : a.Extends a') (h' : a'.Extends a'') :
    a.Extends a'' :=
  ⟨fun n hn => h'.tried n (h.tried n hn),
    fun n hn => (h'.endorsed n (h.tried n hn)).trans (h.endorsed n hn)⟩

/-! ### The results -/

/-- A response comes from the peer that its outcome reports. -/
theorem peer_of_response? {o : PeerOutcome} {r : PeerResponse} (h : o.response? = some r) :
    r.peer = o.peer := by
  unfold PeerOutcome.response? at h
  split at h
  · split at h
    · exact absurd h (by simp)
    · rw [← Option.some.inj h]
  · exact absurd h (by simp)

/-- So does a failure. -/
theorem peer_of_failure? {o : PeerOutcome} {f : PeerFailure} (h : o.failure? = some f) :
    f.peer = o.peer := by
  unfold PeerOutcome.failure? at h
  split at h
  · split at h
    · rw [← Option.some.inj h]
    · exact absurd h (by simp)
  · rw [← Option.some.inj h]

/-- The responses come from those of the selected peers that have endorsed. -/
theorem Sound.mem_responders (ha : a.Sound) (selected : List String) (n : String) :
    n ∈ (a.results selected).responders ↔ n ∈ selected ∧ a.endorsed n = true := by
  simp only [results, ProposalResults.responders, ProposalResults.ofOutcomes, List.mem_map,
    List.mem_filterMap, List.mem_filter]
  constructor
  · rintro ⟨r, ⟨o, ⟨e, ⟨he, hsel⟩, rfl⟩, hr⟩, rfl⟩
    have hpeer : r.peer = e.1 := (peer_of_response? hr).trans (ha.peer_eq e he)
    have hend : a.endorsed e.1 = true := by
      rw [ha.endorsed_eq (o := e.2) he, PeerOutcome.endorses, hr]
      rfl
    rw [hpeer]
    refine ⟨?_, hend⟩
    simpa [hend] using hsel
  · rintro ⟨hsel, hend⟩
    obtain ⟨o, ho, ho'⟩ := mem_of_endorsed hend
    obtain ⟨r, hr⟩ := Option.isSome_iff_exists.mp ho'
    refine ⟨r, ⟨o, ⟨(n, o), ⟨ho, ?_⟩, rfl⟩, hr⟩, ?_⟩
    · simp [hsel]
    · exact (peer_of_response? hr).trans (ha.peer_eq _ ho)

/-- An outcome that is no endorsement has no response. -/
theorem response?_eq_none {o : PeerOutcome} (h : o.endorses = false) : o.response? = none := by
  rwa [PeerOutcome.endorses, Option.isSome_eq_false_iff, Option.isNone_iff_eq_none] at h

/-- An endorsement has no failure. -/
theorem failure?_eq_none {o : PeerOutcome} (h : o.endorses = true) : o.failure? = none := by
  rw [PeerOutcome.endorses, o.isSome_response?_xor_failure?] at h
  simpa using h

/-- The responses are those of the selected peers, in the order they were asked. -/
theorem Sound.responses_results (ha : a.Sound) (selected : List String) :
    (a.results selected).responses =
      (a.names.filter selected.contains).filterMap fun n =>
        (a.outcome? n).bind PeerOutcome.response? := by
  simp only [results, ProposalResults.ofOutcomes]
  rw [ha.map_filter_outcomes fun n => selected.contains n || !a.endorsed n,
    List.filterMap_filterMap, List.filterMap_filter, List.filterMap_filter]
  refine List.filterMap_congr ?_
  intro n _
  cases ho : a.outcome? n with
  | none => simp
  | some o =>
      rw [endorsed, ho, Option.any_some, Option.bind_some, ← PeerOutcome.endorses]
      cases hend : o.endorses with
      | false => simp [response?_eq_none hend]
      | true => simp

/-- The errors are those of all peers that have not endorsed, in the order they were asked. -/
theorem Sound.errors_results (ha : a.Sound) (selected : List String) :
    (a.results selected).errors =
      a.names.filterMap fun n => (a.outcome? n).bind PeerOutcome.failure? := by
  simp only [results, ProposalResults.ofOutcomes]
  rw [ha.map_filter_outcomes fun n => selected.contains n || !a.endorsed n,
    List.filterMap_filterMap, List.filterMap_filter]
  refine List.filterMap_congr ?_
  intro n _
  cases ho : a.outcome? n with
  | none => simp
  | some o =>
      rw [endorsed, ho, Option.any_some, Option.bind_some, ← PeerOutcome.endorses]
      cases hend : o.endorses with
      | false => simp
      | true => simp [failure?_eq_none hend]

/-- What is made of the outcomes of some peers comes from those for which something is made. -/
theorem Sound.map_peer (ha : a.Sound) {α : Type} {make : PeerOutcome → Option α}
    {peer : α → String} (hpeer : ∀ {o x}, make o = some x → peer x = o.peer)
    (names : List String) :
    (names.filterMap fun n => (a.outcome? n).bind make).map peer =
      names.filter fun n => (a.outcome? n).any fun o => (make o).isSome := by
  rw [List.map_filterMap, ← List.filterMap_eq_filter]
  refine List.filterMap_congr ?_
  intro n _
  rw [Option.guard]
  cases ho : a.outcome? n with
  | none => rfl
  | some o =>
      rw [Option.bind_some, Option.any_some]
      cases hx : make o with
      | none => rfl
      | some x =>
          rw [Option.map_some, hpeer hx, ha.peer_of_outcome? ho]
          rfl

end Attempts

end LedgerClient
