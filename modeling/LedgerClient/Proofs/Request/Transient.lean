import LedgerClient.Proofs.Ledger.Placed

/-!
# Private arguments stay with the peers

The transient map of an invocation holds arguments that peers see and the ledger does not. A
transaction is made of the proposal that the peers were sent, and so it is made of bytes that
hold the map. Here two transactions are compared whose proposals differ in nothing but their
maps: building them has the same outcome, be it an error or a payload, and so has everything
that is done with them afterwards. In the payload stands the invocation with an empty map.

## Main results

* `Commit.assemble_congr`: a transaction depends on no private arguments.
* `Commit.build_of_transient`: the outcome of building and sending is the same for all maps, and
  the invocation in the transaction has none.
* `Proposal.transact_of_transient`: the same, from the invocation on.
-/

namespace LedgerClient

/-- An invocation without its private arguments. -/
def ChaincodeProposalPayload.cleared (invocation : ChaincodeProposalPayload) :
    ChaincodeProposalPayload :=
  { invocation with transientMap := ∅ }

/-- An invocation that was read is read back without its private arguments, however long it is. -/
theorem ChaincodeProposalPayload.decode_cleared {bytes : Bytes}
    {invocation : ChaincodeProposalPayload} (h : Wire.decode bytes = .ok invocation) :
    Wire.decode (Wire.encode invocation.cleared) = .ok invocation.cleared := by
  have hlawful : (Wire.codec (α := ChaincodeProposalPayload)).Lawful :=
    WireType.lawful .chaincodeProposalPayload
  obtain ⟨hinput, -⟩ := Wire.fits_of_decode h
  have hempty : 0 < Codec.capacity 8 := by decide
  have hfits : (Wire.codec (α := ChaincodeProposalPayload)).Fits invocation.cleared :=
    ⟨hinput, hempty, List.forall_mem_nil _⟩
  have hdecode := Wire.decode_encode_append hfits []
  rwa [List.append_nil] at hdecode

/-- The invocations in a transaction, read through its layers. -/
def Transaction.invocationsIn (bytes : Bytes) :
    Except DecodeError (List ChaincodeProposalPayload) := do
  let payload : Payload ← Wire.decode bytes
  let transaction : Transaction ← Wire.decode payload.data
  transaction.actions.mapM fun action => do
    let action : ChaincodeActionPayload ← Wire.decode action.payload
    Wire.decode action.chaincodeProposalPayload

/-- The invocation in a transaction with a single action is read if the transaction is shorter
than a length can tell. -/
theorem Transaction.invocationsIn_ofAction {header : Header} {action : ChaincodeActionPayload}
    {invocation : ChaincodeProposalPayload}
    (haction : action.chaincodeProposalPayload = Wire.encode invocation)
    (hlength : (Wire.encode (Payload.ofAction header action)).length < Codec.capacity 8) :
    invocationsIn (Wire.encode (Payload.ofAction header action)) = .ok [invocation] := by
  -- From the outside inwards: each layer that is read bounds the bytes of the next.
  obtain ⟨hpayload, -, (hdataLength : (Payload.ofAction header action).data.length < _), -⟩ :=
    WireType.reads .payload hlength
  obtain ⟨htransaction, -, hactions⟩ := WireType.reads .transaction hdataLength
  obtain ⟨-, (hactionLength : (Wire.encode action).length < _), -⟩ :=
    hactions _ List.mem_cons_self
  obtain ⟨hread, ⟨(hinvocationLength : action.chaincodeProposalPayload.length < _), -⟩, -⟩ :=
    WireType.reads .chaincodeActionPayload hactionLength
  rw [haction] at hinvocationLength
  obtain ⟨hinvocation, -⟩ := WireType.reads .chaincodeProposalPayload hinvocationLength
  refine bind_eq_ok_iff.mpr ⟨_, hpayload, bind_eq_ok_iff.mpr ⟨_, htransaction, ?_⟩⟩
  rw [List.mapM_cons, List.mapM_nil]
  refine bind_eq_ok_iff.mpr ⟨invocation, bind_eq_ok_iff.mpr ⟨action, hread, ?_⟩, rfl⟩
  rw [haction]
  exact hinvocation

/-! ### Two courses -/

section Courses

variable {ε α β γ : Type} {x : Except ε α} {y : Except ε β} {f : α → γ} {g : β → γ}

/-- Steps with the same outcome, as far as it is looked at, fail alike or agree on it. -/
theorem map_eq_map_cases (h : x.map f = y.map g) :
    (∃ e, x = .error e ∧ y = .error e) ∨ ∃ a b, x = .ok a ∧ y = .ok b ∧ f a = g b := by
  cases x with
  | error e =>
      cases y with
      | error e' =>
          obtain rfl := Except.error.inj h
          exact .inl ⟨e, rfl, rfl⟩
      | ok b => cases h
  | ok a =>
      cases y with
      | error e' => cases h
      | ok b => exact .inr ⟨a, b, rfl, rfl, Except.ok.inj h⟩

/-- Steps with the same outcome can be gone on from alike. -/
theorem bind_eq_bind_of_map {δ : Type} {k : α → Except ε δ} {l : β → Except ε δ}
    (h : x.map f = y.map g) (hnext : ∀ a b, f a = g b → k a = l b) : x >>= k = y >>= l := by
  obtain ⟨e, rfl, rfl⟩ | ⟨a, b, rfl, rfl, hab⟩ := map_eq_map_cases h
  · rfl
  · exact hnext a b hab

end Courses

/-! ### Two transactions -/

namespace Commit

variable {signer : Signer} {c₁ c₂ : Commit}

/-- A transaction depends on the header of the proposal, on the invocation without its private
arguments, and on the responses. -/
theorem assemble_congr {p₁ p₂ : ChaincodeProposal} {responses : List ProposalResponse}
    (hheader : p₁.header = p₂.header)
    (hpublic : (Wire.decode p₁.payload).map ChaincodeProposalPayload.cleared =
      (Wire.decode p₂.payload).map ChaincodeProposalPayload.cleared) :
    assemble signer p₁ responses = assemble signer p₂ responses := by
  have hlifted : (liftWire (Wire.decode p₁.payload)).map ChaincodeProposalPayload.cleared =
      (liftWire (Wire.decode p₂.payload)).map ChaincodeProposalPayload.cleared := by
    obtain ⟨e, h₁, h₂⟩ | ⟨i₁, i₂, h₁, h₂, hsame⟩ := map_eq_map_cases hpublic
    · rw [h₁, h₂]
    · rw [h₁, h₂]
      exact congrArg Except.ok hsame
  simp only [assemble, hheader]
  split
  · rfl
  · refine bind_congr fun header => bind_congr fun signatureHeader => bind_congr fun creator => ?_
    split
    · rfl
    · refine bind_eq_bind_of_map hlifted fun i₁ i₂ hsame => ?_
      have hcleared : ({ i₁ with transientMap := ∅ } : ChaincodeProposalPayload) =
          { i₂ with transientMap := ∅ } := hsame
      simp only [hcleared]

/-- Transactions that are made of the same parts are built to the same state. -/
theorem build_congr
    (h : assemble signer c₁.proposal c₁.responses = assemble signer c₂.proposal c₂.responses) :
    (c₁.build signer).map state = (c₂.build signer).map state := by
  simp only [build_eq, h]
  cases assemble signer c₂.proposal c₂.responses <;> rfl

/-- Transactions in the same state are signed to the same state. -/
theorem sign_congr (h : c₁.state = c₂.state) :
    (c₁.sign signer).map state = (c₂.sign signer).map state := by
  simp only [sign_eq, h]
  cases c₂.state.sign action signer <;> rfl

/-- A transaction is built, signed and handed to a handler. -/
def submit {σ : Type} (signer : Signer)
    (handler : Envelope → σ → Except ActionError BroadcastResponse × σ) (s : σ) (c : Commit) :
    Except ActionError (Except ActionError BroadcastResponse × σ) := do
  let c ← c.build signer
  let c ← c.sign signer
  return c.sendThrough handler s

/-- What becomes of a transaction depends on the state that building leaves. -/
theorem submit_congr {σ : Type}
    {handler : Envelope → σ → Except ActionError BroadcastResponse × σ} {s : σ}
    (h : (c₁.build signer).map state = (c₂.build signer).map state) :
    c₁.submit signer handler s = c₂.submit signer handler s := by
  refine bind_eq_bind_of_map h fun b₁ b₂ hbuilt => ?_
  refine bind_eq_bind_of_map (sign_congr hbuilt) fun d₁ d₂ hsigned => ?_
  rw [sendThrough, sendThrough, hsigned]

/-- Two transactions of proposals with the same header and the same invocation, but for the
private arguments, and with the same responses. Building them has the same outcome, an error or
the same state, and so has signing and sending them. The payload that is built is that of a single
action, and in it the invocation is read with an empty map. If the payload is shorter than a length
can tell, this is what is read through all its layers. -/
theorem build_of_transient (signer : Signer) {c₁ c₂ : Commit} {input : Bytes}
    {private₁ private₂ : SortedMap String Bytes}
    (hheader : c₁.proposal.header = c₂.proposal.header)
    (hresponses : c₁.responses = c₂.responses)
    (h₁ : Wire.decode c₁.proposal.payload =
      .ok ({ input, transientMap := private₁ } : ChaincodeProposalPayload))
    (h₂ : Wire.decode c₂.proposal.payload =
      .ok ({ input, transientMap := private₂ } : ChaincodeProposalPayload)) :
    (c₁.build signer).map state = (c₂.build signer).map state ∧
      (∀ (σ : Type) (handler : Envelope → σ → Except ActionError BroadcastResponse × σ) (s : σ),
        c₁.submit signer handler s = c₂.submit signer handler s) ∧
      ∀ built, c₁.build signer = .ok built → ∃ payload, built.state.payload = some payload ∧
        (∃ header action, payload = Wire.encode (Payload.ofAction header action) ∧
          Wire.decode action.chaincodeProposalPayload =
            .ok ({ input, transientMap := ∅ } : ChaincodeProposalPayload)) ∧
        (payload.length < Codec.capacity 8 →
          Transaction.invocationsIn payload = .ok [{ input, transientMap := ∅ }]) := by
  have hassemble : assemble signer c₁.proposal c₁.responses =
      assemble signer c₂.proposal c₂.responses := by
    rw [hresponses]
    refine assemble_congr hheader ?_
    rw [h₁, h₂]
    rfl
  have hbuild := build_congr hassemble
  refine ⟨hbuild, fun σ handler s => submit_congr hbuild, ?_⟩
  intro built hbuilt
  obtain ⟨payload, hpayload, rfl⟩ := build_eq_ok_iff.mp hbuilt
  obtain ⟨first, header, -, invocation, -, -, -, -, hinvocation, rfl⟩ :=
    assemble_eq_ok_iff.mp hpayload
  obtain rfl := Except.ok.inj (h₁.symm.trans hinvocation)
  exact ⟨_, rfl, ⟨header, _, rfl, ChaincodeProposalPayload.decode_cleared h₁⟩,
    Transaction.invocationsIn_ofAction rfl⟩

/-- A transaction of an endorsed proposal with some private arguments. -/
def sample (privately : SortedMap String Bytes) : Commit :=
  let creator : SignatureHeader := { creator := [7] }
  let header : Header := { signatureHeader := Wire.encode creator }
  let invocation : ChaincodeProposalPayload := { input := [1], transientMap := privately }
  { chaincodeId := "cc"
    channelName := "ch"
    proposal := { header := Wire.encode header, payload := Wire.encode invocation }
    responses := [{ payload := [2], endorsement := some {} }] }

/-- Two transactions whose proposals differ in a secret are built to the same state, and the
invocation that is read in them has no private arguments. -/
theorem build_of_transient_secret :
    (sample ∅).proposal.payload ≠ (sample (.ofList [("key", [3])])).proposal.payload ∧
      ((sample ∅).build .sample).map state =
        ((sample (.ofList [("key", [3])])).build .sample).map state ∧
      ∃ built payload, (sample ∅).build .sample = .ok built ∧
        built.state.payload = some payload ∧
        Transaction.invocationsIn payload = .ok [{ input := [1] }] := by
  obtain ⟨hbuild, -, hpayload⟩ := @build_of_transient .sample (sample ∅)
    (sample (.ofList [("key", [3])])) [1] ∅ (.ofList [("key", [3])]) rfl rfl rfl rfl
  obtain ⟨payload, hstate, -, hread⟩ := hpayload _ rfl
  refine ⟨by decide +kernel, hbuild, _, payload, rfl, hstate, hread ?_⟩
  obtain rfl := Option.some.inj hstate
  decide +kernel

end Commit

/-! ### From the invocation on -/

namespace Proposal

variable {signer : Signer} {now : Timestamp} {i : Invocation} {results : ProposalResults}
  {p : Proposal}

/-- The transaction in the making for an invocation that was proposed under some header. -/
def commitOf (header : Header) (i : Invocation) (results : ProposalResults) (p : Proposal) :
    Commit where
  chaincodeId := p.chaincodeId
  channelName := p.channelName
  proposal := { header := Wire.encode header, payload := Wire.encode (p.payloadOf i) }
  responses := results.given

/-- What a client sends is the envelope of the transaction for the invocation. -/
theorem transact_eq : p.transact signer now i results =
    match signer.transactionId with
    | .error e => .error (.crypto e)
    | .ok tx => (do
      let header ← Header.forRequest signer
        (channelHeaderOf signer now tx p.chaincodeId p.channelName) tx
      let c ← (p.commitOf header i results).build signer
      let c ← c.sign signer
      c.state.envelope Commit.action) := by
  rw [transact, build_eq]
  cases signer.transactionId with
  | error e => rfl
  | ok tx =>
      simp only [assemble, channelHeaderOf]
      cases Header.forRequest signer _ tx <;> rfl

/-- What a client sends for an invocation does not depend on its private arguments, as long as
the invocation is shorter than a length can tell. -/
theorem transact_of_transient {privately : SortedMap String Bytes}
    (h₁ : (Wire.encode (p.payloadOf i)).length < Codec.capacity 8)
    (h₂ : (Wire.encode (p.payloadOf { i with transientMap := privately })).length <
      Codec.capacity 8) :
    p.transact signer now i results =
      p.transact signer now { i with transientMap := privately } results := by
  obtain ⟨hread₁, -⟩ := WireType.reads .chaincodeProposalPayload h₁
  obtain ⟨hread₂, -⟩ := WireType.reads .chaincodeProposalPayload h₂
  have hpublic : (Wire.decode (Wire.encode (p.payloadOf i))).map ChaincodeProposalPayload.cleared =
      (Wire.decode (Wire.encode (p.payloadOf { i with transientMap := privately }))).map
        ChaincodeProposalPayload.cleared := by
    rw [hread₁, hread₂]
    rfl
  rw [transact_eq, transact_eq]
  cases signer.transactionId with
  | error e => rfl
  | ok tx =>
      refine bind_congr fun header => ?_
      have hbuild := @Commit.build_congr signer (p.commitOf header i results)
        (p.commitOf header { i with transientMap := privately } results)
        (Commit.assemble_congr rfl hpublic)
      refine bind_eq_bind_of_map hbuild fun b₁ b₂ hbuilt => ?_
      refine bind_eq_bind_of_map (Commit.sign_congr hbuilt) fun d₁ d₂ hsigned => ?_
      rw [hsigned]

end Proposal

end LedgerClient
