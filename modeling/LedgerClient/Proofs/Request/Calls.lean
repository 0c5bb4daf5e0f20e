import LedgerClient.Discovery.ChannelDiscovery
import LedgerClient.Event.Hub
import LedgerClient.Proofs.Request.Atomic
import LedgerClient.Request.Commit

/-!
# Building and signing, kind by kind

When the calls on proposals, transactions, requests for a stream and requests to discovery
services succeed, and what they store then. A call that fails stores nothing: neither a payload
or a signature, nor what belongs beside them.

## Main results

* `Proposal.atomic_building`, `Commit.atomic_building`, `SeekRequest.atomic_building`,
  `ChannelDiscovery.atomic_building`: building stores all or nothing.
* `Proposal.perform_building_eq_ok_iff` and its like for the other kinds: what building stores.
-/

namespace LedgerClient

open RequestM

/-! ### Proposals -/

namespace Proposal

variable {signer : Signer} {now : Timestamp} {i : Invocation} {p p' : Proposal}

/-- All that can fail in building a proposal is done before anything is stored. -/
theorem atomic_building (signer : Signer) (now : Timestamp) (i : Invocation) :
    Atomic (building signer now i) :=
  (looks_lift _).bind_atomic fun _ => looks_get.bind_atomic fun _ =>
    (looks_lift _).bind_atomic fun _ => Sure.atomic <|
      (sure_modify _).onPart.bind fun _ => (sure_modify _).bind fun _ =>
        (sure_modify _).bind fun _ => (sure_modify _).bind fun _ => sure_pure _

theorem atomic_signing (signer : Signer) : Atomic (signing signer) :=
  (SignState.atomic_signing action signer).onPart fun _ => rfl

theorem atomic_attaching (signature : Bytes) : Atomic (attaching signature) :=
  (SignState.atomic_attaching action signature).onPart fun _ => rfl

/-- When a proposal is built, and what is stored then. -/
theorem perform_building_eq_ok_iff {bytes : Bytes} :
    (building signer now i).perform p = (.ok bytes, p') ↔
      ∃ tx message, signer.transactionId = .ok tx ∧
        assemble signer now tx p.chaincodeId p.channelName i = .ok message ∧
        bytes = Wire.encode message ∧
        p' = { p with
          state := p.state.setPayload (Wire.encode message), tx := some tx, built := some message
          results := none } := by
  rw [building]
  cases htx : signer.transactionId with
  | error e => simp [Except.mapError]
  | ok tx =>
      cases hmessage : assemble signer now tx p.chaincodeId p.channelName i with
      | error e => simp [Except.mapError, hmessage]
      | ok message => simp [Except.mapError, Except.map, hmessage, onState, eq_comm]

/-- The proposal after building, step by step. -/
theorem build_eq (signer : Signer) (now : Timestamp) (i : Invocation) (p : Proposal) :
    p.build signer now i =
      match signer.transactionId with
      | .error e => .error (.crypto e)
      | .ok tx => do
        let message ← assemble signer now tx p.chaincodeId p.channelName i
        return { p with
          state := p.state.setPayload (Wire.encode message), tx := some tx, built := some message
          results := none } := by
  rw [build, building, after_lift_bind]
  cases signer.transactionId with
  | error e => rfl
  | ok tx => exact after_lift_bind ..

end Proposal

/-! ### Transactions -/

namespace Commit

variable {signer : Signer} {c c' : Commit}

/-- All that can fail in building a transaction is done before anything is stored. -/
theorem atomic_building (signer : Signer) : Atomic (building signer) :=
  looks_get.bind_atomic fun _ => (looks_lift _).bind_atomic fun _ => Sure.atomic <|
    (sure_modify _).onPart.bind fun _ => sure_pure _

theorem atomic_signing (signer : Signer) : Atomic (signing signer) :=
  (SignState.atomic_signing action signer).onPart fun _ => rfl

theorem atomic_attaching (signature : Bytes) : Atomic (attaching signature) :=
  (SignState.atomic_attaching action signature).onPart fun _ => rfl

/-- When a transaction is built, and what is stored then. -/
theorem perform_building_eq_ok_iff {bytes : Bytes} :
    (building signer).perform c = (.ok bytes, c') ↔
      ∃ payload, assemble signer c.proposal c.responses = .ok payload ∧
        bytes = Wire.encode payload ∧
        c' = { c with state := c.state.setPayload (Wire.encode payload) } := by
  rw [building]
  cases hpayload : assemble signer c.proposal c.responses with
  | error e => simp [hpayload]
  | ok payload => simp [Except.map, hpayload, onState, eq_comm]

/-- The commit after building, step by step. -/
theorem build_eq (signer : Signer) (c : Commit) :
    c.build signer = (do
      let payload ← assemble signer c.proposal c.responses
      return { c with state := c.state.setPayload (Wire.encode payload) }) := by
  rw [build, building, after_get_bind, after_lift_bind]
  rfl

/-- The commit after signing is the one with its state signed. -/
theorem sign_eq (signer : Signer) (c : Commit) :
    c.sign signer = do return { c with state := ← c.state.sign action signer } :=
  after_onPart ..

end Commit

/-! ### Requests for a stream -/

namespace SeekRequest

variable {signer : Signer} {now : Timestamp} {context : SeekContext} {range : StartRequest}
  {q q' : SeekRequest}

/-- All that can fail in building a request is done before anything is stored. -/
theorem atomic_building (signer : Signer) (now : Timestamp) (context : SeekContext)
    (range : StartRequest) : Atomic (building signer now context range) :=
  (looks_lift _).bind_atomic fun _ => (looks_lift _).bind_atomic fun _ => Sure.atomic <|
    (sure_modify _).adaptExcept.onPart.bind fun _ => (sure_modify _).bind fun _ =>
      (sure_modify _).bind fun _ => sure_pure _

theorem atomic_signing (signer : Signer) : Atomic (signing signer) :=
  (SignState.atomic_signing EventHub.action signer).adaptExcept.onPart fun _ => rfl

theorem atomic_attaching (signature : Bytes) : Atomic (attaching signature) :=
  (SignState.atomic_attaching EventHub.action signature).adaptExcept.onPart fun _ => rfl

/-- When a request is built, and what is stored then. -/
theorem perform_building_eq_ok_iff {bytes : Bytes} :
    (building signer now context range).perform q = (.ok bytes, q') ↔
      ∃ plan payload, SeekPlan.make range.start range.stop context.lastBlock = .ok plan ∧
        EventHub.assemble signer now context.channel plan.info = .ok payload ∧
        bytes = Wire.encode payload ∧
        q' = { state := q.state.setPayload (Wire.encode payload)
               blockType := range.blockType.getD context.blockType, stop := plan.stop } := by
  rw [building]
  cases hplan : SeekPlan.make range.start range.stop context.lastBlock with
  | error e => simp
  | ok plan =>
      cases hpayload : EventHub.assemble signer now context.channel plan.info with
      | error e => simp [hpayload, Except.mapError]
      | ok payload => simp [Except.mapError, Except.map, hpayload, onState, eq_comm]

end SeekRequest

namespace EventHub

variable {ι : Type}

/-- Building a request stores nothing else of the hub, and no more if it fails. -/
theorem atomic_building (signer : Signer) (now : Timestamp) (range : StartRequest) :
    Atomic (building (ι := ι) signer now range) :=
  looks_get.bind_atomic fun _ =>
    (SeekRequest.atomic_building signer now _ range).onPart fun _ => rfl

theorem atomic_signing (signer : Signer) : Atomic (signing (ι := ι) signer) :=
  (SeekRequest.atomic_signing signer).onPart fun _ => rfl

theorem atomic_attaching (signature : Bytes) : Atomic (attaching (ι := ι) signature) :=
  (SeekRequest.atomic_attaching signature).onPart fun _ => rfl

/-- The hub after building. -/
theorem build_eq_ok_iff {signer : Signer} {now : Timestamp} {range : StartRequest}
    {h h' : EventHub ι} :
    h.build signer now range = .ok h' ↔
      ∃ plan payload, SeekPlan.make range.start range.stop h.state.lastBlock = .ok plan ∧
        assemble signer now h.channel plan.info = .ok payload ∧
        h' = { h with request :=
          { state := h.request.state.setPayload (Wire.encode payload)
            blockType := range.blockType.getD h.config.defaultBlockType, stop := plan.stop } } := by
  simp only [build, building, after_get_bind, after_eq_ok_iff, onRequest, perform_onPart_eq_iff,
    SeekRequest.perform_building_eq_ok_iff]
  constructor
  · rintro ⟨_, _, ⟨plan, payload, hplan, hpayload, rfl, rfl⟩, rfl⟩
    exact ⟨plan, payload, hplan, hpayload, rfl⟩
  · rintro ⟨plan, payload, hplan, hpayload, rfl⟩
    exact ⟨_, _, ⟨plan, payload, hplan, hpayload, rfl, rfl⟩, rfl⟩

end EventHub

/-! ### Requests to discovery services -/

namespace QueryList

variable {signer : Signer} {channel : String} {wish : DiscoveryWish} {q q' : QueryList}

/-- All that can fail in building a request is done before anything is stored. -/
theorem atomic_building (signer : Signer) (channel : String) (wish : DiscoveryWish) :
    Atomic (building signer channel wish) :=
  (looks_lift _).bind_atomic fun _ => Sure.atomic <|
    (sure_modify _).adaptExcept.onPart.bind fun _ => (sure_modify _).bind fun _ => sure_pure _

theorem atomic_signing (signer : Signer) : Atomic (signing signer) :=
  (SignState.atomic_signing action signer).adaptExcept.onPart fun _ => rfl

theorem atomic_attaching (signature : Bytes) : Atomic (attaching signature) :=
  (SignState.atomic_attaching action signature).adaptExcept.onPart fun _ => rfl

/-- When a request is built, and what is stored then. -/
theorem perform_building_eq_ok_iff {bytes : Bytes} :
    (building signer channel wish).perform q = (.ok bytes, q') ↔
      ∃ request, wish.request signer channel = .ok request ∧ bytes = Wire.encode request ∧
        q' = { state := q.state.setPayload (Wire.encode request)
               tags := (wish.queries channel).map Prod.snd } := by
  rw [building]
  cases hrequest : wish.request signer channel with
  | error e => simp
  | ok request => simp [Except.mapError, Except.map, onState, eq_comm]

end QueryList

namespace ChannelDiscovery

/-- A call on the request of a discovery leaves everything else as it was. -/
theorem exists_request_of_onRequest {α : Type} {x : RequestM DiscoveryError QueryList α}
    {d d' : ChannelDiscovery} (h : ((onRequest x).perform d).2 = d') :
    ∃ request, d' = { d with request } := by
  rw [onRequest, perform_onPart] at h
  exact ⟨_, h.symm⟩

/-- A call on the state of the request that keeps the payload changes nothing but the signature. -/
theorem exists_state_of_onState {x : RequestM ActionError SignState Unit} {d d' : ChannelDiscovery}
    (hx : ∀ s, (x.perform s).2.payload = s.payload)
    (h : ((onRequest (QueryList.onState x)).perform d).2 = d') :
    ∃ state, d' = { d with request := { d.request with state } } ∧
      state.payload = d.request.state.payload := by
  rw [onRequest, QueryList.onState, perform_onPart, perform_onPart, perform_adaptExcept] at h
  exact ⟨_, h.symm, hx d.request.state⟩

/-- Signing the request changes nothing but its signature. -/
theorem exists_state_of_signing {signer : Signer} {d d' : ChannelDiscovery}
    (h : ((signing signer).perform d).2 = d') :
    ∃ state, d' = { d with request := { d.request with state } } ∧
      state.payload = d.request.state.payload :=
  exists_state_of_onState (SignState.payload_signing QueryList.action signer) h

/-- So does attaching a signature made elsewhere. -/
theorem exists_state_of_attaching {signature : Bytes} {d d' : ChannelDiscovery}
    (h : ((attaching signature).perform d).2 = d') :
    ∃ state, d' = { d with request := { d.request with state } } ∧
      state.payload = d.request.state.payload :=
  exists_state_of_onState (SignState.payload_attaching QueryList.action signature) h

/-- Building it leaves everything else as it was. -/
theorem exists_request_of_building {signer : Signer} {wish : DiscoveryWish} {w : World}
    {d d' : ChannelDiscovery} (h : ((building signer wish w).perform d).2 = d') :
    ∃ request, d' = { d with request } := by
  rw [building, perform_bind] at h
  exact exists_request_of_onRequest h

/-- Building a request stores nothing else of the discovery, and no more if it fails. -/
theorem atomic_building (signer : Signer) (wish : DiscoveryWish) (w : World) :
    Atomic (building signer wish w) :=
  looks_get.bind_atomic fun _ => (QueryList.atomic_building signer _ wish).onPart fun _ => rfl

theorem atomic_signing (signer : Signer) : Atomic (signing signer) :=
  (QueryList.atomic_signing signer).onPart fun _ => rfl

theorem atomic_attaching (signature : Bytes) : Atomic (attaching signature) :=
  (QueryList.atomic_attaching signature).onPart fun _ => rfl

/-- When a request is built, and what is stored then. -/
theorem perform_building_eq_ok_iff {signer : Signer} {wish : DiscoveryWish} {w : World}
    {d d' : ChannelDiscovery} {bytes : Bytes} :
    (building signer wish w).perform d = (.ok bytes, d') ↔
      ∃ request, wish.request signer (((w.channel? d.channel).map Channel.name).getD "") =
          .ok request ∧ bytes = Wire.encode request ∧
        d' = { d with request :=
          { state := d.request.state.setPayload (Wire.encode request)
            tags := (wish.queries (((w.channel? d.channel).map Channel.name).getD "")).map
              Prod.snd } } := by
  rw [building, perform_bind, perform_get]
  simp only [onRequest, perform_onPart_eq_iff, QueryList.perform_building_eq_ok_iff]
  constructor
  · rintro ⟨_, ⟨request, hrequest, rfl, rfl⟩, rfl⟩
    exact ⟨request, hrequest, rfl, rfl⟩
  · rintro ⟨request, hrequest, rfl, rfl⟩
    exact ⟨_, ⟨request, hrequest, rfl, rfl⟩, rfl⟩

end ChannelDiscovery

end LedgerClient
