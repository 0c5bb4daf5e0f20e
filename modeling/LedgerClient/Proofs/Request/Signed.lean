import LedgerClient.Proofs.Request.Calls
import LedgerClient.Proofs.Request.Signable
import LedgerClient.Proofs.Request.Transaction

/-!
# The requests that are signed

Proposals, transactions, requests for a stream of blocks and requests to discovery services are
built and signed alike, whatever else is stored with them.

## Main results

* `RequestKind.signable`: all of them are requests that are built and signed.
* `RequestKind.envelope_run`: when one of them has a signed envelope, and what is in it.
-/

namespace LedgerClient

open RequestM

/-! ### The kinds of requests -/

/-- Proposals, built at a time for an invocation. -/
def Signable.proposal : Signable Proposal (Timestamp × Invocation) ActionError where
  action := Proposal.action
  error := id
  state := Proposal.state
  withState state p := { p with state }
  bytes signer wish p := do
    let tx ← signer.transactionId.mapError .crypto
    let message ← Proposal.assemble signer wish.1 tx p.chaincodeId p.channelName wish.2
    return Wire.encode message
  build signer wish := Proposal.building signer wish.1 wish.2
  sign := Proposal.signing
  signWith := Proposal.attaching
  envelope p := p.signed.map fun s => { payload := s.proposalBytes, signature := s.signature }
  state_withState _ _ := rfl
  withState_state _ := rfl
  withState_withState _ _ _ := rfl
  of_build := by
    intro signer wish p payload p' h
    obtain ⟨tx, message, htx, hmessage, rfl, rfl⟩ := Proposal.perform_building_eq_ok_iff.mp h
    exact ⟨bind_eq_ok_iff.mpr ⟨tx, mapError_eq_ok_iff.mpr htx,
      bind_eq_ok_iff.mpr ⟨message, hmessage, rfl⟩⟩, rfl⟩
  atomic_build signer wish := Proposal.atomic_building signer wish.1 wish.2
  sign_eq _ := by rw [adaptExcept_id]; rfl
  signWith_eq _ := by rw [adaptExcept_id]; rfl
  envelope_eq p := by
    rw [Proposal.signed]
    cases p.state.envelope Proposal.action <;> rfl

/-- Transactions, built of a proposal and the responses to it. -/
def Signable.commit : Signable Commit Unit ActionError where
  action := Commit.action
  error := id
  state := Commit.state
  withState state c := { c with state }
  bytes signer _ c := do
    let payload ← Commit.assemble signer c.proposal c.responses
    return Wire.encode payload
  build signer _ := Commit.building signer
  sign := Commit.signing
  signWith := Commit.attaching
  envelope c := c.state.envelope Commit.action
  state_withState _ _ := rfl
  withState_state _ := rfl
  withState_withState _ _ _ := rfl
  of_build := by
    intro signer wish c payload c' h
    obtain ⟨transaction, hassemble, rfl, rfl⟩ := Commit.perform_building_eq_ok_iff.mp h
    exact ⟨bind_eq_ok_iff.mpr ⟨transaction, hassemble, rfl⟩, rfl⟩
  atomic_build signer _ := Commit.atomic_building signer
  sign_eq _ := by rw [adaptExcept_id]; rfl
  signWith_eq _ := by rw [adaptExcept_id]; rfl
  envelope_eq c := by cases c.state.envelope Commit.action <;> rfl

/-- Requests of a hub for a stream of blocks, built at a time for a range and for what the hub
knows then. -/
def Signable.seek :
    Signable SeekRequest (SeekContext × Timestamp × StartRequest) EventHubError where
  action := EventHub.action
  error := .action
  state := SeekRequest.state
  withState state q := { q with state }
  bytes signer wish _ := do
    let plan ← SeekPlan.make wish.2.2.start wish.2.2.stop wish.1.lastBlock
    let payload ← (EventHub.assemble signer wish.2.1 wish.1.channel plan.info).mapError .action
    return Wire.encode payload
  build signer wish := SeekRequest.building signer wish.2.1 wish.1 wish.2.2
  sign := SeekRequest.signing
  signWith := SeekRequest.attaching
  envelope q := (q.state.envelope EventHub.action).mapError .action
  state_withState _ _ := rfl
  withState_state _ := rfl
  withState_withState _ _ _ := rfl
  of_build := by
    intro signer wish q payload q' h
    obtain ⟨plan, seek, hplan, hassemble, rfl, rfl⟩ := SeekRequest.perform_building_eq_ok_iff.mp h
    exact ⟨bind_eq_ok_iff.mpr ⟨plan, hplan,
      bind_eq_ok_iff.mpr ⟨seek, mapError_eq_ok_iff.mpr hassemble, rfl⟩⟩, rfl⟩
  atomic_build signer wish := SeekRequest.atomic_building signer wish.2.1 wish.1 wish.2.2
  sign_eq _ := rfl
  signWith_eq _ := rfl
  envelope_eq _ := rfl

/-- Requests to discovery services, built for what is wished to know in some world. -/
def Signable.discovery : Signable ChannelDiscovery (World × DiscoveryWish) DiscoveryError where
  action := QueryList.action
  error := .action
  state d := d.request.state
  withState state d := { d with request := { d.request with state } }
  bytes signer wish d := do
    let channel := ((wish.1.channel? d.channel).map Channel.name).getD ""
    let request ← wish.2.request signer channel
    return Wire.encode request
  build signer wish := ChannelDiscovery.building signer wish.2 wish.1
  sign := ChannelDiscovery.signing
  signWith := ChannelDiscovery.attaching
  envelope d := d.request.signed.map fun s => { payload := s.payload, signature := s.signature }
  state_withState _ _ := rfl
  withState_state _ := rfl
  withState_withState _ _ _ := rfl
  of_build := by
    intro signer wish d payload d' h
    obtain ⟨request, hrequest, rfl, rfl⟩ := ChannelDiscovery.perform_building_eq_ok_iff.mp h
    exact ⟨bind_eq_ok_iff.mpr ⟨request, hrequest, rfl⟩, rfl⟩
  atomic_build signer wish := ChannelDiscovery.atomic_building signer wish.2 wish.1
  sign_eq _ := onPart_onPart ..
  signWith_eq _ := onPart_onPart ..
  envelope_eq d := by
    rw [QueryList.signed]
    cases d.request.state.envelope QueryList.action <;> rfl

/-- The kinds of requests that a client signs. -/
inductive RequestKind where
  | proposal
  | commit
  | seek
  | discovery
  deriving DecidableEq, Repr

namespace RequestKind

/-- The requests of a kind, with all that is stored with them. -/
def Request : RequestKind → Type
  | proposal => Proposal
  | commit => Commit
  | seek => SeekRequest
  | discovery => ChannelDiscovery

/-- What a request is built for, and in which surroundings. -/
def Wish : RequestKind → Type
  | proposal => Timestamp × Invocation
  | commit => Unit
  | seek => SeekContext × Timestamp × StartRequest
  | discovery => World × DiscoveryWish

/-- The errors of a kind of requests. -/
def Error : RequestKind → Type
  | proposal | commit => ActionError
  | seek => EventHubError
  | discovery => DiscoveryError

/-- How requests are built and signed. -/
def signable : (k : RequestKind) → Signable k.Request k.Wish k.Error
  | proposal => Signable.proposal
  | commit => Signable.commit
  | seek => Signable.seek
  | discovery => Signable.discovery

variable (k : RequestKind)

/-- A request is as its last successful build left it, but for a signature attached since. There
is a signed envelope exactly if there is such a signature: it holds the bytes of this build and
the signature attached last, which is that of the signer over these bytes where a signer was
asked for it. The request that a failing call leaves behind is the one that it found. -/
theorem envelope_run {r : k.Request} (hfresh : k.signable.state r = {})
    (calls : List (SignCall k.Wish)) :
    k.signable.Stage r calls (k.signable.run calls r) ∧
    (∀ e, k.signable.envelope (k.signable.run calls r) = .ok e ↔
      ∃ built, k.signable.SignedBy r calls built e) ∧
    (∀ built e, k.signable.SignedBy r calls built e →
      k.signable.run calls r = k.signable.withSignature e.signature built) ∧
    ∀ c error left, k.signable.attempt c (k.signable.run calls r) = (.error error, left) →
      left = k.signable.run calls r ∧
      k.signable.run (calls ++ [c]) r = k.signable.run calls r := by
  refine ⟨Signable.stage_run hfresh calls, Signable.envelope_run_iff hfresh calls, ?_, ?_⟩
  · intro built e h
    exact h.run_eq
  · intro c error left hfail
    obtain rfl := Signable.eq_of_attempt_eq_error hfail
    refine ⟨rfl, ?_⟩
    rw [Signable.run_append, Signable.run_cons, Signable.after_eq hfail]
    rfl

/-- A hub's request that is built and signed. The blocks it is to be built for anew lie the wrong
way round, so this build fails, and leaves the signed request behind. -/
theorem envelope_run_wrong_range :
    let context : SeekContext := { channel := "ch" }
    let wrong : StartRequest := { start := some (.number ⟨5⟩), stop := some (.number ⟨3⟩) }
    let calls : List (SignCall seek.Wish) := [.build Signer.sample (context, {}, {}), .sign .sample]
    let again : SignCall seek.Wish := .build Signer.sample (context, {}, wrong)
    ∃ built e, seek.signable.SignedBy {} calls built e ∧ e.signature = [9] ∧
      seek.signable.run calls {} = seek.signable.withSignature [9] built ∧
      seek.signable.attempt again (seek.signable.run calls {}) =
        (.error (.invalidRange ⟨5⟩ ⟨3⟩), seek.signable.withSignature [9] built) := by
  intro context wrong calls again
  obtain ⟨-, henvelope, hrun, hfail⟩ := envelope_run seek (r := {}) rfl calls
  obtain ⟨e, he, hsignature⟩ :
      ∃ e, seek.signable.envelope (seek.signable.run calls {}) = .ok e ∧ e.signature = [9] :=
    ⟨_, rfl, rfl⟩
  obtain ⟨built, h⟩ := (henvelope e).mp he
  have hbuilt := hrun built e h
  rw [hsignature] at hbuilt
  refine ⟨built, e, h, hsignature, hbuilt, ?_⟩
  have hwrong : (seek.signable.attempt again (seek.signable.run calls {})).1 =
      .error (.invalidRange ⟨5⟩ ⟨3⟩) := rfl
  rw [← hbuilt]
  exact Prod.ext hwrong (hfail again _ _ (Prod.ext hwrong rfl)).1

end RequestKind

end LedgerClient
