import LedgerClient.Proofs.Ledger.Layers

/-!
# Transactions are read from their blocks

What a client writes as a proposal and a transaction comes back when a block with the
transaction is decoded.

## Main results

* `DecodedBlock.decode_eq_ok`: a block is decoded if each of its entries is, and tells the entry
  at each position.
* `DecodedBlock.decode_of_transact`: what the block tells of a transaction of the client.
-/

namespace LedgerClient

/-! ### What a client sends -/

/-- The envelope with a signed transaction: the proposal is built, the results for it are
recorded, and the commit that is made of them is built and signed. -/
def Proposal.transact (signer : Signer) (now : Timestamp) (i : Invocation)
    (results : ProposalResults) (p : Proposal) : Except ActionError Envelope := do
  let p ← p.build signer now i
  let c ← Commit.ofProposal (p.record results)
  let c ← c.build signer
  let c ← c.sign signer
  c.state.envelope Commit.action

/-- The payload of the transaction for a proposal and the results for it. -/
def Proposal.transactionOf (signer : Signer) (now : Timestamp) (tx : TransactionId)
    (creator : Bytes) (i : Invocation) (results : ProposalResults) (first : ProposalResponse)
    (p : Proposal) : Payload :=
  .ofAction (p.headerOf signer now tx creator)
    (Commit.actionOf (p.payloadOf i) first.payload (ProposalResponse.endorsements results.given))

section Sent

variable {signer : Signer} {creator : Bytes} {now : Timestamp} {tx : TransactionId}
  {i : Invocation} {p : Proposal} {results : ProposalResults} {first : ProposalResponse}

/-- The creator of a proposal can make the transaction of it. -/
theorem Commit.assemble_messageOf
    (hcreator : signer.serialize = .ok creator)
    (hmessage : (Wire.encode (p.messageOf signer now tx creator i)).length < Codec.capacity 8)
    (hfirst : ProposalResponse.firstEndorsed? results.given = some first) :
    assemble signer (p.messageOf signer now tx creator i) results.given =
      .ok (p.transactionOf signer now tx creator i results first) := by
  obtain ⟨-, ⟨hheaderLength, -⟩, ⟨hpayloadLength, -⟩, -⟩ :=
    WireType.reads .chaincodeProposal hmessage
  obtain ⟨hheader, -, hsignatureLength, -⟩ := WireType.reads .header hheaderLength
  obtain ⟨hsignature, -⟩ := WireType.reads .signatureHeader hsignatureLength
  obtain ⟨hinvocation, -⟩ := WireType.reads .chaincodeProposalPayload hpayloadLength
  exact assemble_eq_ok_iff.mpr
    ⟨first, _, _, _, hfirst, hheader, hsignature, hcreator, hinvocation, rfl⟩

/-- A request is sent as a signed transaction, if the signer can sign it and a response is
endorsed. -/
theorem Proposal.transact_eq_ok {payload signature : Bytes}
    (hcreator : signer.serialize = .ok creator) (htx : signer.transactionId = .ok tx)
    (hfirst : ProposalResponse.firstEndorsed? results.given = some first)
    (hmessage : (Wire.encode (p.messageOf signer now tx creator i)).length < Codec.capacity 8)
    (hpayload : payload = Wire.encode (p.transactionOf signer now tx creator i results first))
    (hsign : signer.sign payload = .ok signature) :
    p.transact signer now i results = .ok { payload, signature } := by
  have hassemble := Commit.assemble_messageOf hcreator hmessage hfirst
  refine bind_eq_ok_iff.mpr ⟨_, build_eq_ok_iff.mpr ⟨creator, tx, hcreator, htx, rfl⟩, ?_⟩
  refine bind_eq_ok_iff.mpr ⟨_, Commit.ofProposal_record_eq_ok_iff.mpr ⟨_, rfl, rfl⟩, ?_⟩
  refine bind_eq_ok_iff.mpr ⟨_, Commit.build_eq_ok_iff.mpr ⟨_, hassemble, rfl⟩, ?_⟩
  rw [← hpayload]
  have hsigned : (SignState.setPayload {} payload).sign Commit.action signer =
      .ok { payload := some payload, signature := some signature } :=
    SignState.sign_eq_ok_iff.mpr ⟨payload, signature, rfl, hsign, rfl⟩
  rw [Commit.sign_eq]
  exact bind_eq_ok_iff.mpr ⟨_, bind_eq_ok_iff.mpr ⟨_, hsigned, rfl⟩, rfl⟩

end Sent

/-! ### What a block tells -/

/-- An action is read back with the outcome that peers endorsed. -/
theorem DecodedAction.decode_actionOf {invocation : ChaincodeProposalPayload}
    {outcome hash : Bytes} {action : ChaincodeAction} {event : Option ChaincodeEvent}
    {endorsements : List Endorsement}
    (houtcome : outcome = Wire.encode
      ({ proposalHash := hash, extension := Wire.encode action } : ProposalResponsePayload))
    (hevents : action.events = (event.map Wire.encode).getD [])
    (hlength : (Wire.encode (Commit.actionOf invocation outcome endorsements)).length <
      Codec.capacity 8) :
    decode (Wire.encode (Commit.actionOf invocation outcome endorsements)) =
      .ok
        { chaincodeId := action.chaincodeId
          response := action.response
          chaincodeEvent := event
          endorsements } :=
  decode_encode houtcome hevents hlength

/-- A transaction of an endorser is read back with its action. -/
theorem DecodedTransaction.decode_ofAction (index : Nat) (code : Int32) {header : Header}
    {channelHeader : ChannelHeader} {action : ChaincodeActionPayload} {decoded : DecodedAction}
    {envelope : Envelope}
    (hpayload : envelope.payload = Wire.encode (Payload.ofAction header action))
    (hheader : header.channelHeader = Wire.encode channelHeader)
    (hkind : channelHeader.kind? = some .endorserTransaction)
    (hlength : (Wire.encode envelope).length < Codec.capacity 8)
    (haction : (Wire.encode action).length < Codec.capacity 8 →
      DecodedAction.decode (Wire.encode action) = .ok decoded) :
    decode index (Wire.encode envelope) code =
      .ok
        { index
          txId := channelHeader.txId
          channelId := channelHeader.channelId
          headerType := channelHeader.headerType
          timestamp := channelHeader.timestamp
          validationCode := code
          actions := [decoded] } := by
  refine decode_encode index code hpayload hheader hlength fun hdataLength => ?_
  rw [hkind]
  exact @actionsOf_encode _ [action]
    (fun a => { header := header.signatureHeader, payload := Wire.encode a }) (fun _ => decoded)
    hdataLength fun a ha hactionLength => by
      obtain rfl := List.mem_singleton.mp ha
      exact haction hactionLength

namespace DecodedBlock

/-- If each of some entries is decoded, all of them are, in order. -/
theorem decodeEntries_eq_ok (filter : Bytes) (start : Nat) {raws : List Bytes}
    (h : ∀ i raw, raws[i]? = some raw → ∃ t,
      DecodedTransaction.decode (start + i) raw (codeAt filter (start + i)) = .ok t) :
    ∃ transactions, decodeEntries filter start raws = .ok transactions ∧
      ∀ i raw t, raws[i]? = some raw →
        DecodedTransaction.decode (start + i) raw (codeAt filter (start + i)) = .ok t →
        transactions[i]? = some t := by
  induction raws generalizing start with
  | nil =>
      refine ⟨[], rfl, ?_⟩
      intro i raw t hraw
      cases hraw
  | cons first rest ih =>
      obtain ⟨t₀, ht₀⟩ := h 0 first rfl
      have hshift : ∀ i, start + (i + 1) = start + 1 + i := by omega
      obtain ⟨ts, hts, hnth⟩ := ih (start + 1) fun i raw hraw => hshift i ▸ h (i + 1) raw hraw
      refine ⟨t₀ :: ts, ?_, ?_⟩
      · exact bind_eq_ok_iff.mpr ⟨t₀, ht₀, bind_eq_ok_iff.mpr ⟨ts, hts, rfl⟩⟩
      · intro i raw t hraw ht
        cases i with
        | zero =>
            cases hraw
            exact congrArg some (Except.ok.inj (ht₀.symm.trans ht))
        | succ i => exact hnth i raw t hraw (hshift i ▸ ht)

/-- If each entry of a block is decoded, the block is, and tells the entry at each position. -/
theorem decode_eq_ok {block : Block}
    (h : ∀ i raw, block.data.data[i]? = some raw → ∃ t,
      DecodedTransaction.decode i raw (codeAt block.transactionsFilter i) = .ok t) :
    ∃ decoded, decode block = .ok decoded ∧ ∀ i raw t, block.data.data[i]? = some raw →
      DecodedTransaction.decode i raw (codeAt block.transactionsFilter i) = .ok t →
      decoded.transactions[i]? = some t := by
  have hstart : ∀ i, 0 + i = i := Nat.zero_add
  obtain ⟨ts, hts, hnth⟩ := decodeEntries_eq_ok block.transactionsFilter 0
    fun i raw hraw => (hstart i).symm ▸ h i raw hraw
  refine ⟨_, bind_eq_ok_iff.mpr ⟨ts, hts, rfl⟩, ?_⟩
  intro i raw t hraw ht
  exact hnth i raw t hraw ((hstart i).symm ▸ ht)

/-- What a block tells of a transaction of a client. The signer gives its serialized form, a
transaction id and a signature. The first endorsed response holds the outcome of a chaincode
action, with an event or without. The proposal's message and the envelope are shorter than a
length can tell. Then the request is built and signed, and any block that holds its envelope at
a position, and whose other entries are decoded, is decoded, with the transaction there. -/
theorem decode_of_transact {signer : Signer} {creator payload signature hash : Bytes}
    {now : Timestamp} {tx : TransactionId} {i : Invocation} {p : Proposal}
    {results : ProposalResults} {first : ProposalResponse} {action : ChaincodeAction}
    {event : Option ChaincodeEvent}
    (hcreator : signer.serialize = .ok creator) (htx : signer.transactionId = .ok tx)
    (hfirst : ProposalResponse.firstEndorsed? results.given = some first)
    (houtcome : first.payload = Wire.encode
      ({ proposalHash := hash, extension := Wire.encode action } : ProposalResponsePayload))
    (hevents : action.events = (event.map Wire.encode).getD [])
    (hmessage : (Wire.encode (p.messageOf signer now tx creator i)).length < Codec.capacity 8)
    (hpayload : payload = Wire.encode (p.transactionOf signer now tx creator i results first))
    (hsign : signer.sign payload = .ok signature)
    (hlength : (Wire.encode ({ payload, signature } : Envelope)).length < Codec.capacity 8) :
    (∃ built, p.build signer now i = .ok built ∧ built.tx = some tx) ∧
      p.transact signer now i results = .ok { payload, signature } ∧
      ∀ (block : Block) (n : Nat),
        block.data.data[n]? = some (Wire.encode ({ payload, signature } : Envelope)) →
        (∀ j raw, j ≠ n → block.data.data[j]? = some raw → ∃ t,
          DecodedTransaction.decode j raw (codeAt block.transactionsFilter j) = .ok t) →
        ∃ decoded, decode block = .ok decoded ∧ decoded.transactions[n]? = some
          { index := n
            txId := tx.txId
            channelId := p.channelName
            headerType := HeaderType.endorserTransaction.code
            timestamp := some now
            validationCode := codeAt block.transactionsFilter n
            actions := [
              { chaincodeId := action.chaincodeId
                response := action.response
                chaincodeEvent := event
                endorsements := ProposalResponse.endorsements results.given }] } := by
  refine ⟨⟨_, Proposal.build_eq_ok_iff.mpr ⟨creator, tx, hcreator, htx, rfl⟩, rfl⟩,
    Proposal.transact_eq_ok hcreator htx hfirst hmessage hpayload hsign, ?_⟩
  intro block n hplaced hothers
  have hown := DecodedTransaction.decode_ofAction n (codeAt block.transactionsFilter n) hpayload
    rfl rfl hlength (DecodedAction.decode_actionOf houtcome hevents)
  have hall : ∀ j raw, block.data.data[j]? = some raw → ∃ t,
      DecodedTransaction.decode j raw (codeAt block.transactionsFilter j) = .ok t := by
    intro j raw hraw
    by_cases hj : j = n
    · subst hj
      obtain rfl := Option.some.inj (hplaced.symm.trans hraw)
      exact ⟨_, hown⟩
    · exact hothers j raw hj hraw
  obtain ⟨decoded, hdecoded, hnth⟩ := decode_eq_ok hall
  exact ⟨decoded, hdecoded, hnth n _ _ hplaced hown⟩

end DecodedBlock

/-! ### A transaction behind another entry -/

/-- An event that chaincode sets. -/
def ChaincodeEvent.sample : ChaincodeEvent :=
  { chaincodeId := "cc", txId := "tx", eventName := "moved", payload := [5] }

/-- What chaincode did. -/
def ChaincodeAction.sample : ChaincodeAction :=
  { events := Wire.encode ChaincodeEvent.sample, response := { status := 200 }
    chaincodeId := some { name := "cc" } }

/-- Three responses, of which the first is not endorsed. -/
def ProposalResults.sample : ProposalResults :=
  let outcome : ProposalResponsePayload := { extension := Wire.encode ChaincodeAction.sample }
  let response (peer : String) (endorsement : Option Endorsement) : PeerResponse :=
    { peer, connection := { name := peer }
      response := { payload := Wire.encode outcome, endorsement } }
  { responses := [response "p1" none, response "p2" (some { endorser := [2] }),
      response "p3" (some { endorser := [3] })] }

/-- The transaction is told with both endorsements and the event, behind an entry that is no
transaction of an endorser, and as not validated where the filter ends before it. -/
theorem DecodedBlock.decode_of_transact_second_entry :
    ∃ envelope, Proposal.transact .sample {} {} .sample
        { kind := .endorsement, chaincodeId := "cc", channelName := "ch" } = .ok envelope ∧
      ∃ decoded, decode
          { data := { data := [Wire.encode ({ payload := Wire.encode ({ header :=
              { channelHeader := Wire.encode ({} : ChannelHeader) } } : Payload) } : Envelope),
                Wire.encode envelope] }
            metadata := { metadata := [[], [], [0]] } } = .ok decoded ∧
        decoded.transactions[1]? = some
          { index := 1
            txId := "tx"
            channelId := "ch"
            headerType := 3
            timestamp := some {}
            validationCode := ValidationCode.notValidated.code
            actions := [
              { chaincodeId := some { name := "cc" }
                response := { status := 200 }
                chaincodeEvent := some .sample
                endorsements := [{ endorser := [2] }, { endorser := [3] }] }] } := by
  obtain ⟨-, hsent, hblock⟩ := @decode_of_transact .sample [7] _ [9] [] {} ⟨[1], "tx"⟩ {}
    { kind := .endorsement, chaincodeId := "cc", channelName := "ch" } .sample _ .sample
    (some .sample) rfl rfl rfl rfl rfl (by decide +kernel) rfl rfl (by decide +kernel)
  refine ⟨_, hsent, hblock _ 1 rfl ?_⟩
  intro j raw hj hraw
  obtain rfl : j = 0 := by
    have hlength := (List.getElem?_eq_some_iff.mp hraw).1
    change j < 2 at hlength
    omega
  cases hraw
  exact ⟨_, rfl⟩

end LedgerClient
