import LedgerClient.Proofs.Request.Transaction
import Mathlib.Data.List.Induction

/-!
# Responses stay with their proposal

An endorsement is built, signed and sent by calls, any of which may fail, and commits are made of
it in between. It is followed through a list of calls. The outside world writes down what it is
given to send and what it comes back with, and beside it is noted which proposals were built and
which commits were made. A commit carries the proposal that was built last, and the responses
that came back last since then: all that was sent meanwhile is this proposal.

## Main results

* `Endorsing.effect_of_after`: what a call does.
* `Endorsing.Sound.run`: what an endorsement holds belongs together after any list of calls.
* `Endorsing.commit_paired`: the responses in a commit were given to the proposal in it.
-/

namespace LedgerClient

/-! ### Calls -/

/-- What is done with an endorsement, in an outside world `σ` whose peers `τ` names. -/
inductive EndorsingCall (σ τ : Type) where
  | build (signer : Signer) (now : Timestamp) (i : Invocation)
  | sign (signer : Signer)
  | signWith (signature : Bytes)
  /-- Tell which chaincodes and collections the invocation touches. -/
  | touch (collections : List String) (noPrivateReads : Bool) (chaincodes : List ChaincodeCall)
  /-- Ask some peers at once. -/
  | sendTo (ask : SignedProposal → List τ → σ → List PeerOutcome × σ) (targets : List τ)
  /-- Let a handler send it, which is told what the invocation touches. -/
  | sendThrough (handler : ChaincodeInterest → SignedProposal → σ →
      Option (Except ActionError ProposalResults × σ))
  | newCommit
  /-- The outside world changes. -/
  | elapse (change : σ → σ)

/-- What is remembered of the calls on an endorsement. -/
inductive EndorsingMark where
  | built (message : ChaincodeProposal)
  /-- The outside world was given a signed proposal to send, and came back with something. -/
  | sent (signed : SignedProposal) (result : Except ActionError ProposalResults)
  | committed (c : Commit)

/-- An endorsement between two calls, with the outside world and what is remembered. -/
structure Endorsing (σ : Type) where
  proposal : Proposal
  world : σ
  log : List EndorsingMark := []

namespace Endorsing

variable {σ τ : Type}

/-- A handler that asks some peers at once. -/
def asking (ask : SignedProposal → List τ → σ → List PeerOutcome × σ) (targets : List τ)
    (signed : SignedProposal) (s : σ) : Option (Except ActionError ProposalResults × σ) :=
  let (outcomes, s) := ask signed targets s
  some (.ok (.ofOutcomes outcomes), s)

/-- A handler that writes down what it is given and what it comes back with. -/
def logged (handler : SignedProposal → σ → Option (Except ActionError ProposalResults × σ))
    (signed : SignedProposal) (s : σ × List EndorsingMark) :
    Option (Except ActionError ProposalResults × σ × List EndorsingMark) :=
  (handler signed s.1).map fun (result, world) =>
    (result, world, s.2 ++ [.sent signed result])

/-- Peers that write down what they are given and what they come back with. -/
def askLogged (ask : SignedProposal → List τ → σ → List PeerOutcome × σ)
    (signed : SignedProposal) (targets : List τ) (s : σ × List EndorsingMark) :
    List PeerOutcome × σ × List EndorsingMark :=
  let (outcomes, world) := ask signed targets s.1
  (outcomes, world, s.2 ++ [.sent signed (.ok (.ofOutcomes outcomes))])

/-- The endorsement that a call leaves behind, whether it succeeds or not. There is none after a
call that goes on for ever. -/
def after (e : Endorsing σ) : EndorsingCall σ τ → Option (Endorsing σ)
  | .build signer now i =>
    match (Proposal.building signer now i).perform e.proposal with
    | (.ok _, proposal) =>
      some { e with proposal, log := e.log ++ proposal.built.toList.map .built }
    | (.error _, proposal) => some { e with proposal }
  | .sign signer => some { e with proposal := ((Proposal.signing signer).perform e.proposal).2 }
  | .signWith signature =>
    some { e with proposal := ((Proposal.attaching signature).perform e.proposal).2 }
  | .touch collectionsInterest noPrivateReads chaincodesInterest =>
    some { e with
      proposal := { e.proposal with collectionsInterest, noPrivateReads, chaincodesInterest } }
  | .sendTo ask targets =>
    (e.proposal.sendTo (askLogged ask) targets (e.world, e.log)).map
      fun (_, proposal, world, log) => { proposal, world, log }
  | .sendThrough handler =>
    (e.proposal.sendThrough (logged (handler e.proposal.interest)) (e.world, e.log)).map
      fun (_, proposal, world, log) => { proposal, world, log }
  | .newCommit =>
    match Commit.ofProposal e.proposal with
    | .ok c => some { e with log := e.log ++ [.committed c] }
    | .error _ => some e
  | .elapse change => some { e with world := change e.world }

/-- The endorsement after a list of calls. -/
def run (calls : List (EndorsingCall σ τ)) (e : Endorsing σ) : Option (Endorsing σ) :=
  calls.foldlM after e

/-- A new endorsement. -/
def fresh (chaincodeId channelName : String) (world : σ) : Endorsing σ where
  proposal := { kind := .endorsement, chaincodeId, channelName }
  world

end Endorsing

/-! ### What is remembered -/

namespace EndorsingMark

/-- The results that a mark tells of. -/
def results? : EndorsingMark → Option ProposalResults
  | sent _ (.ok results) => some results
  | _ => none

/-- The results that came back last. -/
def lastResults (marks : List EndorsingMark) : Option ProposalResults :=
  (marks.filterMap results?).getLast?

/-- Marks that are made from the building of a proposal on: it is not built anew, and nothing
else is sent. -/
structure Concern (message : ChaincodeProposal) (marks : List EndorsingMark) : Prop where
  built_notMem : ∀ message', built message' ∉ marks
  sent_eq : ∀ signed result, sent signed result ∈ marks →
    signed.proposalBytes = Wire.encode message

variable {message : ChaincodeProposal} {marks : List EndorsingMark} {m : EndorsingMark}

theorem Concern.nil : Concern message [] :=
  ⟨fun _ => List.not_mem_nil, fun _ _ h => absurd h List.not_mem_nil⟩

/-- One more mark. -/
theorem Concern.snoc (h : Concern message marks) (hbuilt : ∀ message', m ≠ built message')
    (hsent : ∀ signed result, m = sent signed result →
      signed.proposalBytes = Wire.encode message) : Concern message (marks ++ [m]) := by
  refine ⟨?_, ?_⟩
  · intro message' hmem
    rcases List.mem_append.mp hmem with hmem | hmem
    · exact h.built_notMem message' hmem
    · exact hbuilt message' (List.mem_singleton.mp hmem).symm
  · intro signed result hmem
    rcases List.mem_append.mp hmem with hmem | hmem
    · exact h.sent_eq signed result hmem
    · exact hsent signed result (List.mem_singleton.mp hmem).symm

/-- What comes back with results comes back last. -/
theorem lastResults_snoc_sent (signed : SignedProposal)
    (result : Except ActionError ProposalResults) :
    lastResults (marks ++ [sent signed result]) = result.toOption.or (lastResults marks) := by
  rw [lastResults, List.filterMap_append]
  cases result with
  | ok results => exact List.getLast?_concat
  | error error => exact congrArg List.getLast? (List.append_nil _)

/-- A commit leaves the last results alone. -/
theorem lastResults_snoc_committed (c : Commit) :
    lastResults (marks ++ [committed c]) = lastResults marks := by
  rw [lastResults, List.filterMap_append]
  exact congrArg List.getLast? (List.append_nil _)

/-- The last results came back from something that was sent. -/
theorem exists_sent_of_lastResults {results : ProposalResults}
    (h : lastResults marks = some results) : ∃ signed, sent signed (.ok results) ∈ marks := by
  obtain ⟨m, hmem, hm⟩ := List.mem_filterMap.mp (List.mem_of_getLast? h)
  cases m with
  | sent signed result =>
      cases result with
      | error e => cases hm
      | ok results' =>
          obtain rfl := Option.some.inj hm
          exact ⟨signed, hmem⟩
  | built | committed => cases hm

/-- A commit that is made after some marks has its place behind them: its proposal is the one
that was built last, and its responses came back last since then. -/
def Paired (before : List EndorsingMark) (c : Commit) : Prop :=
  ∃ earlier since, before = earlier ++ built c.proposal :: since ∧ Concern c.proposal since ∧
    c.responses = ((lastResults since).map ProposalResults.given).getD []

end EndorsingMark

namespace Endorsing

open EndorsingMark

variable {σ τ : Type} {e e' : Endorsing σ}

/-! ### Single calls -/

/-- What a call does to an endorsement: a proposal is built, nothing that matters here happens, the
proposal is given to the outside world, or a commit is made. -/
inductive Effect (e e' : Endorsing σ) : Prop
  | built {message : ChaincodeProposal} (hlog : e'.log = e.log ++ [.built message])
      (hbuilt : e'.proposal.built = some message)
      (hpayload : e'.proposal.state.payload = some (Wire.encode message))
      (hresults : e'.proposal.results = none)
  | quiet (hlog : e'.log = e.log) (hbuilt : e'.proposal.built = e.proposal.built)
      (hpayload : e'.proposal.state.payload = e.proposal.state.payload)
      (hresults : e'.proposal.results = e.proposal.results)
  | sent {signed : SignedProposal} {result : Except ActionError ProposalResults}
      (hlog : e'.log = e.log ++ [.sent signed result])
      (hsigned : e.proposal.state.payload = some signed.proposalBytes)
      (hbuilt : e'.proposal.built = e.proposal.built)
      (hpayload : e'.proposal.state.payload = e.proposal.state.payload)
      (hresults : e'.proposal.results = result.toOption.or e.proposal.results)
  | committed {c : Commit} (hcommit : Commit.ofProposal e.proposal = .ok c)
      (hlog : e'.log = e.log ++ [.committed c]) (hproposal : e'.proposal = e.proposal)

/-- Signing changes nothing but the signature. -/
theorem sign_keeps (signer : Signer) (p : Proposal) :
    ∃ state, ((Proposal.signing signer).perform p).2 = { p with state } ∧
      state.payload = p.state.payload := by
  rw [Proposal.signing, Proposal.onState, RequestM.perform_onPart]
  exact ⟨_, rfl, SignState.payload_signing Proposal.action signer p.state⟩

/-- So does attaching a signature made elsewhere. -/
theorem signWith_keeps (signature : Bytes) (p : Proposal) :
    ∃ state, ((Proposal.attaching signature).perform p).2 = { p with state } ∧
      state.payload = p.state.payload := by
  rw [Proposal.attaching, Proposal.onState, RequestM.perform_onPart]
  exact ⟨_, rfl, SignState.payload_attaching Proposal.action signature p.state⟩

/-- What is sent is the payload that was built. -/
theorem payload_of_signed {p : Proposal} {signed : SignedProposal} (h : p.signed = .ok signed) :
    p.state.payload = some signed.proposalBytes := by
  obtain ⟨envelope, henvelope, hsigned⟩ := bind_eq_ok_iff.mp h
  cases hsigned
  exact (SignState.envelope_eq_ok_iff.mp henvelope).1

/-- Sending through a handler fails before anything is sent, or the handler writes down what it
was given, and its results are recorded if it has any. -/
theorem effect_of_sendThrough
    {handler : SignedProposal → σ → Option (Except ActionError ProposalResults × σ)}
    {p : Proposal} {world : σ} {log : List EndorsingMark}
    {result : Except ActionError ProposalResults}
    (h : e.proposal.sendThrough (logged handler) (e.world, e.log) =
      some (result, p, world, log)) : e.Effect ⟨p, world, log⟩ := by
  rw [Proposal.sendThrough] at h
  cases hsigned : e.proposal.signed with
  | error error =>
      rw [hsigned] at h
      cases h
      exact .quiet rfl rfl rfl rfl
  | ok signed =>
      rw [hsigned] at h
      obtain ⟨⟨answer, s⟩, hanswer, hrest⟩ := Option.bind_eq_some_iff.mp h
      obtain ⟨⟨_, world₁⟩, -, hlogged⟩ := Option.map_eq_some_iff.mp hanswer
      cases hlogged
      cases answer with
      | error error =>
          cases hrest
          exact .sent rfl (payload_of_signed hsigned) rfl rfl rfl
      | ok results =>
          cases hrest
          exact .sent rfl (payload_of_signed hsigned) rfl rfl rfl

/-- What the single calls do. -/
theorem effect_of_after {c : EndorsingCall σ τ} (h : e.after c = some e') : e.Effect e' := by
  cases c with
  | build signer now i =>
      rw [after] at h
      split at h
      · next bytes p hbuild =>
        obtain ⟨tx, message, -, -, -, rfl⟩ := Proposal.perform_building_eq_ok_iff.mp hbuild
        cases h
        exact .built rfl rfl rfl rfl
      · next error p hfail =>
        obtain rfl := Proposal.atomic_building signer now i _ _ _ hfail
        cases h
        exact .quiet rfl rfl rfl rfl
  | sign signer =>
      cases h
      obtain ⟨state, heq, hpayload⟩ := sign_keeps signer e.proposal
      rw [heq]
      exact .quiet rfl rfl hpayload rfl
  | signWith signature =>
      cases h
      obtain ⟨state, heq, hpayload⟩ := signWith_keeps signature e.proposal
      rw [heq]
      exact .quiet rfl rfl hpayload rfl
  | touch | elapse =>
      cases h
      exact .quiet rfl rfl rfl rfl
  | sendTo ask targets =>
      obtain ⟨⟨result, p, world, log⟩, hsend, rfl⟩ := Option.map_eq_some_iff.mp h
      rw [Proposal.sendTo] at hsend
      split at hsend
      · cases hsend
        exact .quiet rfl rfl rfl rfl
      · have hasking : e.proposal.sendThrough (logged (asking ask targets)) (e.world, e.log) =
            some (result, p, world, log) := hsend
        exact effect_of_sendThrough hasking
  | sendThrough handler =>
      obtain ⟨⟨result, p, world, log⟩, hsend, rfl⟩ := Option.map_eq_some_iff.mp h
      exact effect_of_sendThrough hsend
  | newCommit =>
      rw [after] at h
      split at h
      · next c hcommit =>
        cases h
        exact .committed hcommit rfl rfl
      · cases h
        exact .quiet rfl rfl rfl rfl

/-! ### Where an endorsement is -/

/-- Where an endorsement is: it was never built, or what it holds belongs to the proposal that was
built last. -/
inductive Stage (e : Endorsing σ) : Prop
  | unbuilt (hbuilt : e.proposal.built = none) (hpayload : e.proposal.state.payload = none)
  | built {message : ChaincodeProposal} {earlier since : List EndorsingMark}
      (hlog : e.log = earlier ++ .built message :: since) (hconcern : Concern message since)
      (hbuilt : e.proposal.built = some message)
      (hpayload : e.proposal.state.payload = some (Wire.encode message))
      (hresults : e.proposal.results = lastResults since)

/-- Every call leaves an endorsement at a stage. -/
theorem Stage.after (he : e.Stage) (h : e.Effect e') : e'.Stage := by
  cases h with
  | built hlog hbuilt hpayload hresults => exact .built hlog .nil hbuilt hpayload hresults
  | quiet hlog hbuilt hpayload hresults =>
      cases he with
      | unbuilt hb hp => exact .unbuilt (hbuilt.trans hb) (hpayload.trans hp)
      | built hl hc hb hp hr =>
          exact .built (hlog.trans hl) hc (hbuilt.trans hb) (hpayload.trans hp) (hresults.trans hr)
  | @sent signed result hlog hsigned hbuilt hpayload hresults =>
      cases he with
      | unbuilt hb hp => cases hsigned.symm.trans hp
      | @built message earlier since hl hc hb hp hr =>
          have hconcern : Concern message (since ++ [.sent signed result]) := by
            refine hc.snoc (fun _ => EndorsingMark.noConfusion) ?_
            intro signed' result' heq
            cases heq
            exact Option.some.inj (hsigned.symm.trans hp)
          have hsince : e'.log = earlier ++ .built message :: (since ++ [.sent signed result]) := by
            rw [hlog, hl, List.append_assoc, List.cons_append]
          refine .built hsince hconcern (hbuilt.trans hb) (hpayload.trans hp) ?_
          rw [hresults, hr, lastResults_snoc_sent]
  | @committed c hcommit hlog hproposal =>
      cases he with
      | unbuilt hb hp => exact .unbuilt (hproposal ▸ hb) (hproposal ▸ hp)
      | @built message earlier since hl hc hb hp hr =>
          have hconcern : Concern message (since ++ [.committed c]) :=
            hc.snoc (fun _ => EndorsingMark.noConfusion) fun _ _ => EndorsingMark.noConfusion
          have hsince : e'.log = earlier ++ .built message :: (since ++ [.committed c]) := by
            rw [hlog, hl, List.append_assoc, List.cons_append]
          refine .built hsince hconcern (hproposal ▸ hb) (hproposal ▸ hp) ?_
          rw [hproposal, hr, lastResults_snoc_committed]

/-- A commit that is made now belongs behind what is remembered. -/
theorem Stage.paired {c : Commit} (he : e.Stage) (h : Commit.ofProposal e.proposal = .ok c) :
    Paired e.log c := by
  rw [Commit.ofProposal] at h
  cases he with
  | unbuilt hbuilt =>
      rw [hbuilt] at h
      cases h
  | @built message earlier since hlog hconcern hbuilt hpayload hresults =>
      rw [hbuilt] at h
      cases h
      refine ⟨earlier, since, hlog, hconcern, ?_⟩
      simp only [hresults]
      cases lastResults since <;> rfl

/-- A call leaves at most one mark, and a commit that it makes belongs where it is made. -/
theorem Stage.log_after (he : e.Stage) (h : e.Effect e') :
    e'.log = e.log ∨ ∃ m, e'.log = e.log ++ [m] ∧ ∀ c, m = .committed c → Paired e.log c := by
  cases h with
  | built hlog => exact .inr ⟨_, hlog, fun _ => EndorsingMark.noConfusion⟩
  | quiet hlog => exact .inl hlog
  | sent hlog => exact .inr ⟨_, hlog, fun _ => EndorsingMark.noConfusion⟩
  | committed hcommit hlog =>
      refine .inr ⟨_, hlog, ?_⟩
      rintro c heq
      cases heq
      exact he.paired hcommit

/-! ### Whole runs -/

/-- An endorsement is at a stage, and the commits that were made of it belong where they were
made. -/
structure Sound (e : Endorsing σ) : Prop where
  stage : e.Stage
  paired : ∀ before c rest, e.log = before ++ .committed c :: rest → Paired before c

theorem Sound.fresh (chaincodeId channelName : String) (world : σ) :
    (fresh chaincodeId channelName world).Sound where
  stage := .unbuilt rfl rfl
  paired := by
    intro before c rest heq
    exact absurd heq.symm (List.append_ne_nil_of_right_ne_nil _ (List.cons_ne_nil _ _))

/-- Every call keeps this. -/
theorem Sound.after (he : e.Sound) (h : e.Effect e') : e'.Sound where
  stage := he.stage.after h
  paired := by
    intro before c rest heq
    obtain hsame | ⟨m, hsnoc, hm⟩ := he.stage.log_after h
    · exact he.paired before c rest (hsame.symm.trans heq)
    rw [hsnoc] at heq
    -- The commit is the new mark, or it was made before.
    rcases List.eq_nil_or_concat rest with rfl | ⟨rest, m', rfl⟩
    · obtain ⟨rfl, hlast⟩ := List.append_inj' heq rfl
      exact hm c (List.singleton_inj.mp hlast)
    · rw [List.concat_eq_append, ← List.cons_append, ← List.append_assoc] at heq
      exact he.paired before c rest (List.append_inj' heq rfl).1

/-- So does every list of calls. -/
theorem Sound.run {calls : List (EndorsingCall σ τ)} (he : e.Sound)
    (h : run calls e = some e') : e'.Sound := by
  induction calls generalizing e with
  | nil =>
      cases h
      exact he
  | cons c rest ih =>
      obtain ⟨e₁, hcall, hrest⟩ := Option.bind_eq_some_iff.mp h
      exact ih (he.after (effect_of_after hcall)) hrest

/-- The responses in a commit were given to the proposal in it. Take any calls on a new
endorsement and any commit that one of them makes. From the last build before it on, which made
the proposal in the commit, nothing else was sent than this proposal. The commit has the responses
among the results that came back last since then, or none if no results did. So if results always
answer what was sent, each response in the commit answers the proposal in it. -/
theorem commit_paired {chaincodeId channelName : String} {world : σ}
    {calls : List (EndorsingCall σ τ)} {before rest : List EndorsingMark} {c : Commit}
    (h : run calls (fresh chaincodeId channelName world) = some e)
    (hlog : e.log = before ++ .committed c :: rest) :
    (∃ earlier since, before = earlier ++ .built c.proposal :: since ∧
      (∀ message, .built message ∉ since) ∧
      (∀ signed result, .sent signed result ∈ since →
        signed.proposalBytes = Wire.encode c.proposal) ∧
      c.responses = ((lastResults since).map ProposalResults.given).getD []) ∧
    ∀ Answers : SignedProposal → ProposalResponse → Prop,
      (∀ signed results, .sent signed (.ok results) ∈ before →
        ∀ r ∈ results.given, Answers signed r) →
      ∀ r ∈ c.responses, ∃ signed, signed.proposalBytes = Wire.encode c.proposal ∧
        Answers signed r := by
  obtain ⟨earlier, since, rfl, ⟨hbuilt, hsent⟩, hresponses⟩ :=
    ((Sound.fresh chaincodeId channelName world).run h).paired before c rest hlog
  refine ⟨⟨earlier, since, rfl, hbuilt, hsent, hresponses⟩, ?_⟩
  intro Answers hanswers r hr
  cases hlast : lastResults since with
  | none =>
      rw [hresponses, hlast] at hr
      exact absurd hr List.not_mem_nil
  | some results =>
      rw [hresponses, hlast] at hr
      obtain ⟨signed, hmem⟩ := exists_sent_of_lastResults hlast
      refine ⟨signed, hsent signed _ hmem, hanswers signed results ?_ r hr⟩
      exact List.mem_append_right _ (List.mem_cons_of_mem _ hmem)

/-- A proposal is sent to a peer that answers with what it is given, then in vain through a
handler. A commit is made, and another one when the proposal was built anew. -/
def rebuilding : List (EndorsingCall Unit Unit) :=
  let echo (signed : SignedProposal) (_ : Unit) : PeerOutcome :=
    { peer := "p", connection := default, result := .ok { payload := signed.proposalBytes } }
  [.build .sample {} {}, .sign .sample, .sendTo (fun signed us s => (us.map (echo signed), s)) [()],
    .sendThrough fun _ _ s => some (.error (.missingParameter "handler"), s), .newCommit,
    .build .sample {} { function := "move" }, .newCommit]

/-- The first commit has the response to its own proposal, and the second one has none. -/
theorem commit_paired_rebuilt :
    ∃ e before between c₁ c₂, run rebuilding (fresh "cc" "ch" ()) = some e ∧
      e.log = before ++ .committed c₁ :: (between ++ [.committed c₂]) ∧
      c₁.responses.length = 1 ∧ (∀ r ∈ c₁.responses, r.payload = Wire.encode c₁.proposal) ∧
      c₂.responses = [] := by
  obtain ⟨-, hanswers⟩ := @commit_paired Unit Unit _ "cc" "ch" () rebuilding
    [_, _, _] [_, _] _ rfl rfl
  refine ⟨_, [_, _, _], [_], _, _, rfl, rfl, rfl, ?_, rfl⟩
  have hechoed := hanswers (fun signed r => r.payload = signed.proposalBytes) ?_
  · intro r hr
    obtain ⟨signed, hbytes, hpayload⟩ := hechoed r hr
    exact hpayload.trans hbytes
  · intro signed results hmem
    rcases hmem with _ | ⟨_, _ | ⟨_, _ | ⟨_, hmem⟩⟩⟩
    · exact List.forall_mem_singleton.mpr rfl
    · cases hmem

end Endorsing

end LedgerClient
