import LedgerClient.Proofs.Event.Setup
import LedgerClient.Proofs.Ledger.Layers

/-!
# What a stream was asked for

The end that a hub watches for is planned together with the request, but it takes its own way
to the hub: a request is built, stored, signed, taken along by a send, and at last a stream
is opened with it, while others build, sign and send as well and blocks go on to come. A
`SeekLedger` keeps the hub together with all drafts that were made, all orders that sends
have taken along, and the envelopes that streams were opened with. Its steps are the atomic
sections of all these operations, of any number of callers in any order.

## Main results

* `SeekPlan.info_of_make`: what a planned request asks for.
* `Draft.Planned.decode`: a draft is read back as what was planned.
* `SeekLedger.Later.sound`: whatever is stored, taken along or enforced was drafted
  together.
* `SeekLedger.stream_asked_for`: the envelope that the current stream was opened with asks for
  what the hub watches for.
* `SeekLedger.later_build`, `SeekLedger.later_send`: building and sending are made up of such
  steps.
-/

namespace LedgerClient

open Relation (ReflTransGen)

/-! ### Planning -/

/-- The end on the wire is the one that the hub watches for. -/
structure SeekInfo.Enforces (info : SeekInfo) (stop : Option BlockPosition) : Prop where
  endless : stop = none ↔
    info.stop = .specified BlockNumber.max.value ∧ info.behavior = .blockUntilReady
  ends : stop ≠ none ↔ info.behavior = .failIfNotReady
  number : ∀ n, stop = some (.number n) ↔
    info.stop = .specified n.value ∧ info.behavior = .failIfNotReady
  newest : stop = some .newest ↔ info.stop = .newest
  oldest : stop = some .oldest ↔ info.stop = .oldest

/-- The range on the wire is the wanted one, with the last block filled in that had been seen,
and does not end before it starts. -/
structure SeekInfo.Asks (info : SeekInfo) (range : StartRequest) (last : Option BlockNumber)
    (stop : Option BlockPosition) : Prop where
  starts : info.start = ((range.start.getD .newest).resolve last).seek
  ends : stop = range.stop.map (·.resolve last)
  resolved : stop ≠ some .lastSeen
  ordered : ∀ m n, info.start = .specified m → info.stop = .specified n → m ≤ n

/-- The range from one resolved position to another, as it is put on the wire. -/
def SeekInfo.ofRange (start : BlockPosition) : Option BlockPosition → SeekInfo
  | none =>
    { start := start.seek
      stop := .specified BlockNumber.max.value
      behavior := .blockUntilReady }
  | some position =>
    { start := start.seek, stop := position.seek, behavior := .failIfNotReady }

/-- The end on the wire tells which end is watched for. -/
theorem SeekInfo.ofRange_enforces (start : BlockPosition) {stop : Option BlockPosition}
    (h : stop ≠ some .lastSeen) : (ofRange start stop).Enforces stop := by
  cases stop with
  | none => constructor <;> simp [ofRange]
  | some p =>
      cases p with
      | lastSeen => exact absurd rfl h
      | newest | oldest => constructor <;> simp [ofRange, BlockPosition.seek]
      | number n =>
          constructor <;> simp [ofRange, BlockPosition.seek]
          exact fun n' => ⟨congrArg BlockNumber.value, fun h => congrArg BlockNumber.mk h⟩

/-- A position that is specified on the wire is a number. -/
theorem BlockPosition.number?_of_seek {p : BlockPosition} {m : UInt64}
    (h : p.seek = .specified m) : p.number? = some ⟨m⟩ := by
  cases p <;> cases h
  rfl

/-- The largest block number is a bound. -/
theorem BlockNumber.le_max (m : UInt64) : m ≤ BlockNumber.max.value := by
  have hlt := m.toNat_lt
  have hmax : BlockNumber.max.value.toNat = 2 ^ 64 - 1 := rfl
  rw [UInt64.le_iff_toNat_le, hmax]
  omega

/-- A planned range is the wanted one with the last block filled in, and does not end before it
starts. -/
theorem SeekPlan.of_make {start stop : Option BlockPosition} {last : Option BlockNumber}
    {plan : SeekPlan} (h : make start stop last = .ok plan) :
    plan.stop = stop.map (·.resolve last) ∧
      plan.info = .ofRange ((start.getD .newest).resolve last) plan.stop ∧
      ∀ m n, ((start.getD .newest).resolve last).number? = some m →
        plan.stop.bind BlockPosition.number? = some n → m ≤ n := by
  have hinfo : ∀ q : Option BlockPosition, (match q with
    | none =>
      { start := ((start.getD .newest).resolve last).seek
        stop := .specified BlockNumber.max.value
        behavior := .blockUntilReady }
    | some position =>
      { start := ((start.getD .newest).resolve last).seek
        stop := position.seek
        behavior := .failIfNotReady }) =
      SeekInfo.ofRange ((start.getD .newest).resolve last) q := by
    intro q
    cases q <;> rfl
  rw [make] at h
  split at h
  · next m n hm hn =>
    split at h
    · cases h
    next hle =>
    cases h
    refine ⟨rfl, hinfo _, ?_⟩
    intro m' n' hm' hn'
    obtain rfl := Option.some.inj (hm.symm.trans hm')
    obtain rfl := Option.some.inj (hn.symm.trans hn')
    exact UInt64.not_lt.mp hle
  · next hnot =>
    cases h
    exact ⟨rfl, hinfo _, fun m n hm hn => absurd hn (hnot m n hm)⟩

/-- What goes on the wire for a planned range. -/
theorem SeekPlan.info_of_make {range : StartRequest} {last : Option BlockNumber}
    {plan : SeekPlan} (h : make range.start range.stop last = .ok plan) :
    plan.info.Enforces plan.stop ∧ plan.info.Asks range last plan.stop := by
  obtain ⟨hstop, hinfo, hle⟩ := of_make h
  have hresolved : plan.stop ≠ some .lastSeen := by
    rw [hstop]
    cases range.stop with
    | none => exact nofun
    | some p => exact fun hp => p.resolve_ne_lastSeen last (Option.some.inj hp)
  refine ⟨hinfo ▸ SeekInfo.ofRange_enforces _ hresolved, ?_, hstop, hresolved, ?_⟩
  · rw [hinfo]
    cases plan.stop <;> rfl
  · intro m n hm hn
    rw [hinfo] at hm hn
    cases hp : plan.stop with
    | none =>
        rw [hp] at hn
        cases hn
        exact BlockNumber.le_max m
    | some p =>
        rw [hp] at hm hn
        exact hle ⟨m⟩ ⟨n⟩ (BlockPosition.number?_of_seek hm)
          (by rw [hp]; exact BlockPosition.number?_of_seek hn)

/-! ### Drafts -/

/-- A request that was built: what was wanted, the last block that had been seen by then, and
what came of it, the payload and the end to watch for. -/
structure Draft where
  range : StartRequest
  last : Option BlockNumber
  payload : Bytes
  stop : Option BlockPosition

/-- The payload and the end to watch for were planned together for a channel. -/
def Draft.Planned (channel : String) (d : Draft) : Prop :=
  ∃ (plan : SeekPlan) (header : Header) (channelHeader : ChannelHeader),
    SeekPlan.make d.range.start d.range.stop d.last = .ok plan ∧ plan.stop = d.stop ∧
    d.payload = Wire.encode ({ header, data := Wire.encode plan.info } : Payload) ∧
    header.channelHeader = Wire.encode channelHeader ∧
    channelHeader.kind? = some .deliverSeekInfo ∧ channelHeader.channelId = channel

/-- The payload of a request reads as one for a stream of a channel, which asks for `range`
and ends where the hub watches for it. -/
def SeekRequested (channel : String) (range : StartRequest) (last : Option BlockNumber)
    (stop : Option BlockPosition) (bytes : Bytes) : Prop :=
  ∃ (payload : Payload) (channelHeader : ChannelHeader) (info : SeekInfo),
    Wire.decode bytes = .ok payload ∧
    Wire.decode payload.header.channelHeader = .ok channelHeader ∧
    channelHeader.kind? = some .deliverSeekInfo ∧ channelHeader.channelId = channel ∧
    Wire.decode payload.data = .ok info ∧ info.Enforces stop ∧ info.Asks range last stop

/-- A draft is read back as what was planned. -/
theorem Draft.Planned.decode {channel : String} {d : Draft} (h : d.Planned channel)
    (hlength : d.payload.length < Codec.capacity 8) :
    SeekRequested channel d.range d.last d.stop d.payload := by
  obtain ⟨plan, header, channelHeader, hplan, hstop, hpayload, hheader, hkind, hchannel⟩ := h
  obtain ⟨henforces, hasks⟩ := SeekPlan.info_of_make hplan
  rw [hstop] at henforces hasks
  -- Each layer that is read bounds the bytes of the layers in it.
  rw [hpayload] at hlength ⊢
  obtain ⟨hdecode, ⟨⟨(hheaderLength : header.channelHeader.length < _), -⟩, -⟩,
    (hdataLength : (Wire.encode plan.info).length < _), -⟩ := WireType.reads .payload hlength
  rw [hheader] at hheaderLength
  obtain ⟨hchannelHeader, -⟩ := WireType.reads .channelHeader hheaderLength
  obtain ⟨hinfo, -⟩ := WireType.reads .seekInfo hdataLength
  exact ⟨_, channelHeader, plan.info, hdecode, by rw [← hchannelHeader, ← hheader], hkind,
    hchannel, hinfo, henforces, hasks⟩

variable {ε ι τ : Type}

/-- A hub whose request has been replaced by a draft. -/
def EventHub.withDraft (d : Draft) (h : EventHub ι) : EventHub ι :=
  { h with request :=
      { state := h.request.state.setPayload d.payload
        blockType := d.range.blockType.getD h.config.defaultBlockType
        stop := d.stop } }

/-- Building gives a draft that was planned with the last block at this time, and stores it. -/
theorem EventHub.of_build {signer : Signer} {now : Timestamp} {range : StartRequest}
    {h h' : EventHub ι} (hbuild : h.build signer now range = .ok h') :
    ∃ payload stop, Draft.Planned h.channel ⟨range, h.state.lastBlock, payload, stop⟩ ∧
      h' = h.withDraft ⟨range, h.state.lastBlock, payload, stop⟩ := by
  obtain ⟨plan, payload, hplan, hpayload, rfl⟩ := build_eq_ok_iff.mp hbuild
  rw [assemble] at hpayload
  cases htx : signer.transactionId with
  | error e =>
      rw [htx] at hpayload
      cases hpayload
  | ok tx =>
      rw [htx] at hpayload
      obtain ⟨header, hheader, hmade⟩ := bind_eq_ok_iff.mp hpayload
      obtain ⟨creator, -, rfl⟩ := Header.forRequest_eq_ok_iff.mp hheader
      cases hmade
      exact ⟨_, plan.stop, ⟨plan, _, _, hplan, rfl, rfl, rfl, rfl, rfl⟩, rfl⟩

/-- The envelope of a request holds its payload. -/
theorem SignState.payload_of_envelope {action : String} {s : SignState}
    {envelope : Envelope} (h : s.envelope action = .ok envelope) :
    s.payload = some envelope.payload := by
  rw [SignState.envelope] at h
  split at h <;> cases h
  assumption

/-- A hub keeps what it was asked for and what it does; its request may be signed. -/
structure EventHub.SameRequest (h h' : EventHub ι) : Prop where
  channel : h'.channel = h.channel
  state : h'.state = h.state
  payload : h'.request.state.payload = h.request.state.payload
  stop : h'.request.stop = h.request.stop

/-- A call on the state of a request that keeps the payload leaves the request as it is. -/
theorem EventHub.of_onState {x : RequestM ActionError SignState Unit} {h h' : EventHub ι}
    (hx : ∀ s, (x.perform s).2.payload = s.payload)
    (hcall : (onRequest (SeekRequest.onState x)).after h = .ok h') : h.SameRequest h' := by
  obtain ⟨_, hcall⟩ := RequestM.after_eq_ok_iff.mp hcall
  rw [onRequest, SeekRequest.onState, RequestM.perform_onPart, RequestM.perform_onPart,
    RequestM.perform_adaptExcept] at hcall
  obtain rfl := congrArg Prod.snd hcall
  exact ⟨rfl, rfl, hx h.request.state, rfl⟩

/-- Signing leaves the request as it is. -/
theorem EventHub.of_sign {signer : Signer} {h h' : EventHub ι} (hsign : h.sign signer = .ok h') :
    h.SameRequest h' :=
  of_onState (SignState.payload_signing action signer) hsign

/-- Attaching a signature leaves the request as it is. -/
theorem EventHub.of_signWith {signature : Bytes} {h h' : EventHub ι}
    (hsign : h.signWith signature = .ok h') : h.SameRequest h' :=
  of_onState (SignState.payload_attaching action signature) hsign

/-- A send that succeeds has opened a stream at one of its targets with the stored request, and
installed it with the end that belongs to this. -/
theorem EventHub.of_send {w : Surroundings ε ι}
    {begin : τ → BlockType → Envelope → Option Nat → ε →
      Except ServiceError (ι × DeliverResponse) × ε}
    {targets : List τ} {timeout : Option Nat} {h h' : EventHub ι} {e e' : ε}
    (hsend : h.send w begin targets timeout e = some (.ok (), h', e')) :
    ∃ envelope target source first e₁ e₂ r,
      h.request.state.envelope action = .ok envelope ∧ target ∈ targets ∧
      begin target h.request.blockType envelope (timeout <|> h.config.setupTimeout) e₁ =
        (.ok (source, first), e₂) ∧
      (h.state.stopStream w e).1.start w h.name source h.request.stop first e₂ = some r ∧
      (h', e') = h.withState r := by
  have htargets : targets ≠ [] := by
    rintro rfl
    cases hsend
  cases henvelope : h.request.state.envelope action with
  | error error =>
      rw [send, if_neg (by simpa using htargets), henvelope] at hsend
      cases hsend
  | ok envelope =>
      rw [send_of_envelope w begin timeout htargets henvelope] at hsend
      rcases HubState.firstStarted_cases (fun target => begin target h.request.blockType envelope
          (timeout <|> h.config.setupTimeout)) (.missingParameter "targets") targets
          (HubState.releaseStream w h.state.stream e) with
        ⟨failed, target, rest, errors, e₁, source, first, e₂, rfl, -, hbegin, heq⟩ |
        ⟨errors, e₁, -, heq⟩
      · rw [heq] at hsend
        obtain ⟨r, hr, hend⟩ := Option.map_eq_some_iff.mp hsend
        exact ⟨envelope, target, source, first, e₁, e₂, r, rfl, by simp, hbegin, hr,
          (congrArg Prod.snd hend).symm⟩
      · rw [heq] at hsend
        obtain ⟨r, -, hend⟩ := Option.map_eq_some_iff.mp hsend
        cases hend

/-! ### The way of a request to a stream -/

/-- A signed request that a send has taken along, with the end to watch for. -/
structure Order where
  envelope : Envelope
  stop : Option BlockPosition

/-- A hub, and all that was asked for on its behalf. -/
structure SeekLedger (ι : Type) where
  hub : EventHub ι
  /-- The requests that were built. -/
  drafts : List Draft := []
  /-- The signed requests that sends have taken along. -/
  orders : List Order := []
  /-- The envelopes that streams were opened with, by the generation of the stream. -/
  opened : List (Nat × Envelope) := []

namespace SeekLedger

/-- The hub of a ledger with its running part changed. -/
def withState (c : SeekLedger ι) (s : HubState ι) : SeekLedger ι :=
  { c with hub := { c.hub with state := s } }

/-- One atomic section of the operations on a hub. -/
inductive Step (w : Surroundings ε ι) : SeekLedger ι → SeekLedger ι → Prop where
  /-- Somebody builds a request, which is not stored yet. -/
  | draft {c : SeekLedger ι} {signer now range h' payload}
      (h : c.hub.build signer now range = .ok h')
      (hpayload : h'.request.state.payload = some payload) :
      Step w c { c with
        drafts := c.drafts ++ [⟨range, c.hub.state.lastBlock, payload, h'.request.stop⟩] }
  /-- A built request takes the place of the stored one. -/
  | store {c : SeekLedger ι} {d : Draft} (hd : d ∈ c.drafts) :
      Step w c { c with hub := c.hub.withDraft d }
  | sign {c : SeekLedger ι} {signer h'} (h : c.hub.sign signer = .ok h') :
      Step w c { c with hub := h' }
  | signWith {c : SeekLedger ι} {h'} (signature : Bytes)
      (h : c.hub.signWith signature = .ok h') :
      Step w c { c with hub := h' }
  /-- A send takes the stored request along. -/
  | take {c : SeekLedger ι} {envelope}
      (h : c.hub.request.state.envelope EventHub.action = .ok envelope) :
      Step w c { c with orders := c.orders ++ [⟨envelope, c.hub.request.stop⟩] }
  /-- A send makes a stream the current one that was opened with what it had taken along. -/
  | install {c : SeekLedger ι} (order : Order) (h : order ∈ c.orders) (source : ι) :
      Step w c { c.withState (c.hub.state.install source order.stop) with
        opened := c.opened ++ [(c.hub.state.generation + 1, order.envelope)] }
  /-- Some other operation begins. -/
  | call {c : SeekLedger ι} (call : HubCall ι) (h : ∀ source stop, call ≠ .install source stop)
      (e : ε) (history : List HubMark) :
      Step w c (c.withState (call.begin w c.hub.name c.hub.state e history).state)
  /-- An operation that has begun goes on with a section. -/
  | proceed {c : SeekLedger ι} {m m' : Moment ε ι} (h : m.state = c.hub.state)
      (hs : m.Step w c.hub.name m') : Step w c (c.withState m'.state)

/-- What comes later in the same run. -/
def Later (w : Surroundings ε ι) : SeekLedger ι → SeekLedger ι → Prop :=
  ReflTransGen (Step w)

/-- The ledger of a hub that was just made. -/
def start (name channel : String) (config : EventHubConfig) : SeekLedger ι :=
  { hub := { name, channel, config } }

/-! ### What stays together -/

/-- A payload and the end to watch for were drafted together. -/
def Drafted (c : SeekLedger ι) (payload : Bytes) (stop : Option BlockPosition) : Prop :=
  ∃ d ∈ c.drafts, d.payload = payload ∧ d.stop = stop

/-- Whatever is stored, taken along or enforced was drafted together, all of it for the same
channel; no two streams were opened under the same generation. -/
structure Sound (channel : String) (c : SeekLedger ι) : Prop where
  channel_eq : c.hub.channel = channel
  planned : ∀ d ∈ c.drafts, d.Planned channel
  request : ∀ payload, c.hub.request.state.payload = some payload →
    c.Drafted payload c.hub.request.stop
  orders : ∀ o ∈ c.orders, c.Drafted o.envelope.payload o.stop
  counted : ∀ o ∈ c.opened, o.1 ≤ c.hub.state.generation
  nodup : (c.opened.map Prod.fst).Nodup
  stream : ∀ a, c.hub.state.stream = some a → ∃ envelope, (a.generation, envelope) ∈ c.opened ∧
    c.Drafted envelope.payload c.hub.state.stop

/-- The end and the generation are left alone, and the stream is at most taken out. -/
structure Keeps (s s' : HubState ι) : Prop where
  stop : s'.stop = s.stop
  generation : s'.generation = s.generation
  stream : s'.stream = s.stream ∨ s'.stream = none

variable {w : Surroundings ε ι} {hub channel : String} {c c' : SeekLedger ι}

/-- Nothing but the installation of a stream changes the end and the generation. -/
theorem Keeps.of_begin {call : HubCall ι} (h : ∀ source stop, call ≠ .install source stop)
    (s : HubState ι) (e : ε) (history : List HubMark) :
    Keeps s (call.begin w hub s e history).state := by
  cases call with
  | register | unregister | close => exact ⟨rfl, rfl, .inl rfl⟩
  | stopStream => exact ⟨rfl, rfl, .inr rfl⟩
  | install source stop => exact absurd rfl (h source stop)
  | read generation event =>
      rw [HubCall.begin]
      split
      · cases hr : event.reading hub s with
        | block block =>
            rw [HubState.takeIn_of_block hr]
            exact ⟨rfl, rfl, .inl rfl⟩
        | finish t =>
            rw [HubState.takeIn_of_finish hr]
            exact ⟨rfl, rfl, .inl rfl⟩
      · exact ⟨rfl, rfl, .inl rfl⟩

/-- No section of an operation that has begun changes the end and the generation. -/
theorem Keeps.of_step {m m' : Moment ε ι} (hs : m.Step w hub m') : Keeps m.state m'.state := by
  cases hs with
  | closeBegun h =>
      obtain ⟨-, rfl, -⟩ := HubState.of_beginClose_eq_some h
      exact ⟨rfl, rfl, .inr rfl⟩
  | flushBegun h =>
      obtain ⟨-, rfl⟩ := HubState.of_beginDrain_eq_some h
      exact ⟨rfl, rfl, .inl rfl⟩
  | drainEnded h =>
      obtain ⟨-, rfl⟩ := HubState.of_nextNotice_eq_none h
      exact ⟨rfl, rfl, .inl rfl⟩
  | handedOver h =>
      obtain ⟨_, -, rfl⟩ := HubState.of_nextNotice_eq_some h
      exact ⟨rfl, rfl, .inl rfl⟩
  | closeDropped | closeEnded | flushSkipped | returned | registered | unregistered | closeAsked
  | resumed => exact ⟨rfl, rfl, .inl rfl⟩

/-- What was drafted together stays so when more is drafted. -/
theorem Drafted.mono {payload : Bytes} {stop : Option BlockPosition}
    (h : c.Drafted payload stop) (hdrafts : c.drafts ⊆ c'.drafts) : c'.Drafted payload stop := by
  obtain ⟨d, hd, hpayload, hstop⟩ := h
  exact ⟨d, hdrafts hd, hpayload, hstop⟩

/-- A ledger stays sound while its hub goes on with its stream or gives it up. -/
theorem Sound.withState {s : HubState ι} (hc : c.Sound channel) (hs : Keeps c.hub.state s) :
    (c.withState s).Sound channel where
  channel_eq := hc.channel_eq
  planned := hc.planned
  request := hc.request
  orders := hc.orders
  counted := by
    intro o ho
    rw [SeekLedger.withState, hs.generation]
    exact hc.counted o ho
  nodup := hc.nodup
  stream := by
    intro a ha
    rcases hs.stream with hkept | hnone
    · obtain ⟨envelope, hopened, hdrafted⟩ := hc.stream a (hkept.symm.trans ha)
      refine ⟨envelope, hopened, ?_⟩
      rw [SeekLedger.withState, hs.stop]
      exact hdrafted
    · exact nomatch hnone.symm.trans ha

/-- A ledger stays sound when the stored request is signed. -/
theorem Sound.signed {h : EventHub ι} (hc : c.Sound channel) (hh : c.hub.SameRequest h) :
    Sound channel { c with hub := h } := by
  constructor
  case channel_eq => exact hh.channel.trans hc.channel_eq
  case request =>
    intro payload hp
    simp only [hh.stop]
    exact hc.request payload (hh.payload.symm.trans hp)
  case counted =>
    simp only [hh.state]
    exact hc.counted
  case stream =>
    simp only [hh.state]
    exact hc.stream
  case planned => exact hc.planned
  case orders => exact hc.orders
  case nodup => exact hc.nodup

/-- A ledger stays sound when a planned request is added to its drafts. -/
theorem Sound.drafted {d : Draft} (hc : c.Sound channel) (hd : d.Planned channel) :
    Sound channel { c with drafts := c.drafts ++ [d] } where
  channel_eq := hc.channel_eq
  planned := by
    intro d' hd'
    rcases List.mem_append.mp hd' with hold | hnew
    · exact hc.planned d' hold
    · rwa [List.mem_singleton.mp hnew]
  request := fun payload hp => (hc.request payload hp).mono (List.subset_append_left _ _)
  orders := fun o ho => (hc.orders o ho).mono (List.subset_append_left _ _)
  counted := hc.counted
  nodup := hc.nodup
  stream := by
    intro a ha
    obtain ⟨envelope, hopened, hdrafted⟩ := hc.stream a ha
    exact ⟨envelope, hopened, hdrafted.mono (List.subset_append_left _ _)⟩

/-- A ledger stays sound when a draft takes the place of the stored request. -/
theorem Sound.stored {d : Draft} (hc : c.Sound channel) (hd : d ∈ c.drafts) :
    Sound channel { c with hub := c.hub.withDraft d } :=
  { hc with
    request := by
      intro payload hp
      exact ⟨d, hd, Option.some.inj hp, rfl⟩ }

/-- A ledger stays sound when a send takes the stored request along. -/
theorem Sound.taken {action : String} {envelope : Envelope} (hc : c.Sound channel)
    (h : c.hub.request.state.envelope action = .ok envelope) :
    Sound channel { c with orders := c.orders ++ [⟨envelope, c.hub.request.stop⟩] } :=
  { hc with
    orders := by
      intro o ho
      rcases List.mem_append.mp ho with hold | hnew
      · exact hc.orders o hold
      · rw [List.mem_singleton.mp hnew]
        exact hc.request _ (SignState.payload_of_envelope h) }

/-- A ledger stays sound when a stream is installed that was opened with what a send had taken
along. -/
theorem Sound.installed {order : Order} (hc : c.Sound channel) (h : order ∈ c.orders)
    (source : ι) :
    Sound channel { c.withState (c.hub.state.install source order.stop) with
      opened := c.opened ++ [(c.hub.state.generation + 1, order.envelope)] } where
  channel_eq := hc.channel_eq
  planned := hc.planned
  request := hc.request
  orders := hc.orders
  counted := by
    intro o ho
    rcases List.mem_append.mp ho with hold | hnew
    · exact Nat.le_succ_of_le (hc.counted o hold)
    · rw [List.mem_singleton.mp hnew]
      exact Nat.le_refl _
  nodup := by
    rw [List.map_append]
    refine hc.nodup.append (List.nodup_singleton _) ?_
    intro g hold hnew
    obtain ⟨o, ho, rfl⟩ := List.mem_map.mp hold
    have hfresh : o.1 = c.hub.state.generation + 1 := List.mem_singleton.mp hnew
    have hle := hc.counted o ho
    omega
  stream := by
    intro a ha
    obtain rfl := Option.some.inj ha
    exact ⟨order.envelope, List.mem_append_right _ (List.mem_singleton.mpr rfl),
      hc.orders order h⟩

/-- Each section keeps a ledger sound. -/
theorem Step.sound (hs : Step w c c') (hc : c.Sound channel) : c'.Sound channel := by
  cases hs with
  | draft h hpayload =>
      obtain ⟨payload, stop, hplanned, rfl⟩ := EventHub.of_build h
      obtain rfl := Option.some.inj hpayload
      exact hc.drafted (hc.channel_eq ▸ hplanned)
  | store hd => exact hc.stored hd
  | sign h => exact hc.signed (EventHub.of_sign h)
  | signWith signature h => exact hc.signed (EventHub.of_signWith h)
  | take h => exact hc.taken h
  | install order h source => exact hc.installed h source
  | call call h e history => exact hc.withState (.of_begin h _ e history)
  | proceed h hs => exact hc.withState (h ▸ .of_step hs)

/-- A fresh ledger is sound. -/
theorem Sound.start (name channel : String) (config : EventHubConfig) :
    (start name channel config : SeekLedger ι).Sound channel where
  channel_eq := rfl
  planned := List.forall_mem_nil _
  request := fun _ hp => nomatch hp
  orders := List.forall_mem_nil _
  counted := List.forall_mem_nil _
  nodup := List.nodup_nil
  stream := fun _ ha => nomatch ha

/-- Every ledger of a run is sound. -/
theorem Later.sound (h : Later w c c') (hc : c.Sound channel) : c'.Sound channel := by
  induction h with
  | refl => exact hc
  | tail _ hs ih => exact hs.sound ih

/-! ### Whole operations -/

/-- Building a request is drafting it and storing it. -/
theorem later_build (w : Surroundings ε ι) (signer : Signer) (now : Timestamp)
    (range : StartRequest) {h' : EventHub ι} {payload : Bytes}
    (h : c.hub.build signer now range = .ok h')
    (hpayload : h'.request.state.payload = some payload) :
    Later w c { c with
      hub := h'
      drafts := c.drafts ++ [⟨range, c.hub.state.lastBlock, payload, h'.request.stop⟩] } := by
  have hdrafted := h
  obtain ⟨payload', stop, -, rfl⟩ := EventHub.of_build h
  obtain rfl := Option.some.inj hpayload
  exact .tail (.single (.draft hdrafted rfl))
    (.store (List.mem_append_right _ (List.mem_singleton.mpr rfl)))

/-- The sections of an operation that has begun follow each other. -/
theorem later_of_steps {m m' : Moment ε ι} (hm : m.state = c.hub.state)
    (h : ReflTransGen (Moment.Step w c.hub.name) m m') : Later w c (c.withState m'.state) := by
  induction h with
  | refl =>
      rw [hm]
      exact .refl
  | tail _ hs ih => exact ih.tail (.proceed rfl hs)

/-- A run goes on to where an operation returns that is neither of a request nor the
installation of a stream. -/
theorem later_run (call : HubCall ι) {e : ε} {history : List HubMark} {r : HubState ι × ε}
    (hcall : ∀ source stop, call ≠ .install source stop)
    (hm : Reachable w c.hub.name ⟨c.hub.state, e, [], history⟩)
    (h : call.run w c.hub.name c.hub.state e = some r) : Later w c (c.withState r.1) := by
  obtain ⟨history', hsteps⟩ := (call.run_eq_some_iff hm).mp h
  have hbegun : Later w c (c.withState (call.begin w c.hub.name c.hub.state e history).state) :=
    .single (.call call hcall e history)
  exact hbegun.trans (later_of_steps (c := c.withState _) rfl hsteps)

/-- A run goes on to where a send returns that succeeds: a stream was opened at one of the
targets with the request that was stored when the send began, and installed with the end that
belongs to it. -/
theorem later_send
    {begin : τ → BlockType → Envelope → Option Nat → ε →
      Except ServiceError (ι × DeliverResponse) × ε}
    {targets : List τ} {timeout : Option Nat} {h' : EventHub ι} {e e' : ε}
    {history : List HubMark} (hm : Reachable w c.hub.name ⟨c.hub.state, e, [], history⟩)
    (hsend : c.hub.send w begin targets timeout e = some (.ok (), h', e')) :
    ∃ envelope target started e₁ e₂,
      c.hub.request.state.envelope EventHub.action = .ok envelope ∧ target ∈ targets ∧
      begin target c.hub.request.blockType envelope (timeout <|> c.hub.config.setupTimeout) e₁ =
        (.ok started, e₂) ∧
      Later w c
        { c with
          hub := h'
          orders := c.orders ++ [⟨envelope, c.hub.request.stop⟩]
          opened := c.opened ++ [(c.hub.state.generation + 1, envelope)] } := by
  obtain ⟨envelope, target, source, first, e₁, e₂, r, henvelope, htarget, hbegin, hstart, hend⟩ :=
    EventHub.of_send hsend
  obtain ⟨rfl, rfl⟩ := Prod.mk.inj hend
  refine ⟨envelope, target, (source, first), e₁, e₂, henvelope, htarget, hbegin, ?_⟩
  have htaken : Later w c
      { c with orders := c.orders ++ [⟨envelope, c.hub.request.stop⟩] } := .single (.take henvelope)
  have hstopped := htaken.tail (.call .stopStream nofun e history)
  have hinstalled := hstopped.tail (.install ⟨envelope, c.hub.request.stop⟩
    (List.mem_append_right _ (List.mem_singleton.mpr rfl)) source)
  have hreachable := (hm.stopped e₂).call (.install source c.hub.request.stop)
  exact hinstalled.trans (later_run (.read _ (.data first)) nofun hreachable hstart)

/-! ### The current stream -/

/-- A draft was made by a build earlier in the run, with the last block that the hub had seen at
that time. -/
theorem Later.exists_build {c₀ : SeekLedger ι} {d : Draft} (h : Later w c₀ c)
    (hd : d ∈ c.drafts) (hnew : d ∉ c₀.drafts) :
    ∃ (c₁ : SeekLedger ι) (signer : Signer) (now : Timestamp) (h' : EventHub ι),
      Later w c₀ c₁ ∧ Later w c₁ c ∧ c₁.hub.build signer now d.range = .ok h' ∧
      d.last = c₁.hub.state.lastBlock ∧ h'.request.state.payload = some d.payload ∧
      h'.request.stop = d.stop := by
  induction h with
  | refl => exact absurd hd hnew
  | @tail c₂ c₃ hlater hs ih =>
      by_cases hold : d ∈ c₂.drafts
      · obtain ⟨c₁, signer, now, h', hbefore, hafter, hbuild⟩ := ih hold
        exact ⟨c₁, signer, now, h', hbefore, hafter.tail hs, hbuild⟩
      · cases hs with
        | @draft signer now range h' payload hbuild hpayload =>
            have hmem : d = ⟨range, c₂.hub.state.lastBlock, payload, h'.request.stop⟩ := by
              simpa [hold] using hd
            subst hmem
            exact ⟨c₂, signer, now, h', hlater, .single (.draft hbuild hpayload), hbuild, rfl,
              hpayload, rfl⟩
        | store | sign | signWith | take | install | call | proceed => exact absurd hd hold

/-- Whatever has been built, signed and sent on behalf of a hub, before or since, by any number
of callers, and however many blocks have come meanwhile: if the hub has a stream, this stream
was opened with one envelope, whose payload a build has made together with the end that the hub
watches for now. Unless it is too long for its length to be written down, the payload reads as
a request on the channel of the hub for the range that was wanted then, with the block filled
in that was the last one to have been seen at the time of this build. -/
theorem stream_asked_for {name : String} {config : EventHubConfig} {a : ActiveStream ι}
    (h : Later w (start name channel config) c) (ha : c.hub.state.stream = some a) :
    ∃ (envelope : Envelope) (c₁ : SeekLedger ι) (signer : Signer) (now : Timestamp)
      (range : StartRequest) (h' : EventHub ι),
      (a.generation, envelope) ∈ c.opened ∧
      (∀ other, (a.generation, other) ∈ c.opened → other = envelope) ∧
      Later w (start name channel config) c₁ ∧ Later w c₁ c ∧
      c₁.hub.build signer now range = .ok h' ∧
      h'.request.state.payload = some envelope.payload ∧
      h'.request.stop = c.hub.state.stop ∧
      (envelope.payload.length < Codec.capacity 8 →
        SeekRequested channel range c₁.hub.state.lastBlock c.hub.state.stop envelope.payload) := by
  have hc := h.sound (.start name channel config)
  obtain ⟨envelope, hopened, d, hd, hpayload, hstop⟩ := hc.stream a ha
  obtain ⟨c₁, signer, now, h', hbefore, hafter, hbuild, hlast, hpayload', hstop'⟩ :=
    h.exists_build hd List.not_mem_nil
  refine ⟨envelope, c₁, signer, now, d.range, h', hopened, ?_, hbefore, hafter, hbuild,
    hpayload' ▸ congrArg some hpayload, hstop'.trans hstop, ?_⟩
  · intro other hother
    exact congrArg Prod.snd (List.inj_on_of_nodup_map hc.nodup hother hopened rfl)
  · intro hlength
    rw [← hpayload] at hlength ⊢
    rw [← hstop, ← hlast]
    exact (hc.planned d hd).decode hlength

/-- A request that ends with block 5 is built, signed and taken along by a send. Before its
stream is installed, another one without an end is built. The stream ends with block 5 all the
same, for its listeners as on the wire. -/
theorem stream_asked_for_rebuilt :
    ∃ (c : SeekLedger Unit) (envelope : Envelope) (range : StartRequest)
      (last : Option BlockNumber), Later .recording (start "hub" "ch" {}) c ∧
      c.hub.request.stop = none ∧ c.hub.state.stop = some (.number ⟨5⟩) ∧
      c.opened = [(1, envelope)] ∧
      SeekRequested "ch" range last (some (.number ⟨5⟩)) envelope.payload := by
  have hbuilt := later_build (c := start "hub" "ch" {}) .recording .sample {}
    { start := some .oldest, stop := some (.number ⟨5⟩) } rfl rfl
  have htaken := (hbuilt.tail (.signWith [9] rfl)).tail (.take rfl)
  have hagain : Later .recording _ _ :=
    htaken.trans (later_build .recording .sample {} {} rfl rfl)
  have hinstalled := hagain.tail (.install _ List.mem_cons_self ())
  obtain ⟨envelope, c₁, _, _, range, _, hopened, -, -, -, -, -, -, hread⟩ :=
    stream_asked_for hinstalled rfl
  obtain rfl : _ = envelope := (congrArg Prod.snd (List.mem_singleton.mp hopened)).symm
  exact ⟨_, _, range, _, hinstalled, rfl, rfl, rfl, hread (by decide +kernel)⟩

end SeekLedger

end LedgerClient
