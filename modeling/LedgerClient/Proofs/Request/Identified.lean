import LedgerClient.Event.Hub
import LedgerClient.Proofs.Ledger.Placed

/-!
# Headers belong to their signer

A signer derives the id of a transaction from a nonce and its own serialized form. The id goes
into the channel header of a request, nonce and serialized form go into its signature header,
and a commit takes both over from the proposal. Peers compute the id anew from the signature
header, and refuse what does not match.

## Main results

* `Header.identifies_forRequest`: the header of a new request is read back with matching parts.
* `Commit.of_build`: a commit has the header of its proposal.
* `Signer.requests_identified`: this for proposals, seek requests and commits.
-/

namespace LedgerClient

/-! ### Hexadecimal digits -/

namespace Hex

/-- The digits below sixteen, in lower case. -/
def lowerDigits : List Char :=
  ['0', '1', '2', '3', '4', '5', '6', '7', '8', '9', 'a', 'b', 'c', 'd', 'e', 'f']

theorem digit_mem_lowerDigits {n : Nat} (h : n < 16) : digit n ∈ lowerDigits := by
  have hall : ∀ m < 16, digit m ∈ lowerDigits := by decide
  exact hall n h

/-- The hexadecimal form is written with lower-case digits. -/
theorem mem_lowerDigits_of_mem_encode {bytes : Bytes} {c : Char}
    (h : c ∈ (encode bytes).toList) : c ∈ lowerDigits := by
  rw [encode, String.toList_ofList, chars] at h
  obtain ⟨b, -, hc⟩ := List.mem_flatMap.mp h
  have hb : b.toNat < 256 := b.toNat_lt
  rw [List.mem_cons, List.mem_singleton] at hc
  rcases hc with rfl | rfl
  · exact digit_mem_lowerDigits (Nat.div_lt_of_lt_mul hb)
  · exact digit_mem_lowerDigits (Nat.mod_lt _ (by decide))

end Hex

/-! ### Headers -/

/-- The transaction ids of a signer come from a nonce and its serialized form. -/
def Signer.Derives (signer : Signer) (nonce : Bytes) : Prop :=
  signer.transactionId = signer.serialize.map (TransactionId.derive nonce)

/-- The identity of a key derives its ids from the nonces it is given. -/
theorem KeyIdentity.signer_derives (i : KeyIdentity) (nonce : Bytes) :
    (i.signer nonce).Derives nonce := rfl

/-- A header reads as that of a request of some kind for a channel by a signer with a nonce, and
the transaction id in it is the hash of the nonce and the creator in it, in lower-case digits. -/
def Header.Identifies (header : Header) (signer : Signer) (nonce : Bytes) (kind : HeaderType)
    (channel : String) : Prop :=
  ∃ (channelHeader : ChannelHeader) (signatureHeader : SignatureHeader),
    Wire.decode header.channelHeader = .ok channelHeader ∧
    Wire.decode header.signatureHeader = .ok signatureHeader ∧
    channelHeader.txId =
      Hex.encode (Sha256.digest (signatureHeader.nonce ++ signatureHeader.creator)) ∧
    (∀ c ∈ channelHeader.txId.toList, c ∈ Hex.lowerDigits) ∧
    signatureHeader.nonce = nonce ∧ signer.serialize = .ok signatureHeader.creator ∧
    channelHeader.channelId = channel ∧ channelHeader.headerType = kind.code ∧
    channelHeader.tlsCertHash = signer.certHash.getD []

section Requests

variable {signer : Signer} {nonce creator : Bytes} {now : Timestamp} {tx : TransactionId}

/-- The id of a transaction is derived from the nonce and the creator. -/
theorem Signer.Derives.eq (h : signer.Derives nonce) (hcreator : signer.serialize = .ok creator)
    (htx : signer.transactionId = .ok tx) : tx = .derive nonce creator := by
  rw [Derives, hcreator] at h
  exact Except.ok.inj (htx.symm.trans h)

/-- The header of a new request is read back with matching parts. -/
theorem Header.identifies_forRequest {kind : HeaderType} {channel : String} {extension : Bytes}
    {header : Header} (hcreator : signer.serialize = .ok creator)
    (hheader : header =
      { channelHeader := Wire.encode (ChannelHeader.forRequest kind now channel
          (TransactionId.derive nonce creator).txId extension signer.certHash)
        signatureHeader := Wire.encode ({ creator, nonce } : SignatureHeader) })
    (hfits : Header.codec.Fits header) : header.Identifies signer nonce kind channel := by
  obtain ⟨⟨(hchannelLength : header.channelHeader.length < _), -⟩,
    (hsignatureLength : header.signatureHeader.length < _), -⟩ := hfits
  subst hheader
  obtain ⟨hchannel, -⟩ := WireType.reads .channelHeader hchannelLength
  obtain ⟨hsignature, -⟩ := WireType.reads .signatureHeader hsignatureLength
  exact ⟨_, _, hchannel, hsignature, rfl, fun _ => Hex.mem_lowerDigits_of_mem_encode, rfl,
    hcreator, rfl, rfl, rfl⟩

/-! ### Requests -/

/-- What building a proposal gives, and what its headers tell. -/
theorem Proposal.of_build {i : Invocation} {p p' : Proposal} (hderives : signer.Derives nonce)
    (hbuild : p.build signer now i = .ok p') :
    ∃ (message : ChaincodeProposal) (header : Header), p'.built = some message ∧
      p'.state.payload = some (Wire.encode message) ∧
      ((Wire.encode message).length < Codec.capacity 8 →
        Wire.decode (Wire.encode message) = .ok message ∧
        Wire.decode message.header = .ok header ∧
        header.Identifies signer nonce .endorserTransaction p.channelName) := by
  obtain ⟨creator, tx, hcreator, htx, rfl⟩ := build_eq_ok_iff.mp hbuild
  obtain rfl := hderives.eq hcreator htx
  refine ⟨_, p.headerOf signer now (.derive nonce creator) creator, rfl, rfl, ?_⟩
  intro hlength
  obtain ⟨hmessage, ⟨hheaderLength, -⟩, -⟩ := WireType.reads .chaincodeProposal hlength
  obtain ⟨hheader, hfits⟩ := WireType.reads .header hheaderLength
  exact ⟨hmessage, hheader, Header.identifies_forRequest hcreator rfl hfits⟩

/-- What building a seek request gives, and what its headers tell. -/
theorem EventHub.headers_of_build {ι : Type} {range : StartRequest} {h h' : EventHub ι}
    (hderives : signer.Derives nonce) (hbuild : h.build signer now range = .ok h') :
    ∃ payload : Payload, h'.request.state.payload = some (Wire.encode payload) ∧
      ((Wire.encode payload).length < Codec.capacity 8 →
        Wire.decode (Wire.encode payload) = .ok payload ∧
        payload.header.Identifies signer nonce .deliverSeekInfo h.channel) := by
  obtain ⟨plan, payload, -, hassemble, rfl⟩ := build_eq_ok_iff.mp hbuild
  rw [assemble] at hassemble
  cases htx : signer.transactionId with
  | error e =>
      rw [htx] at hassemble
      cases hassemble
  | ok tx =>
      rw [htx] at hassemble
      obtain ⟨header, hheader, hassemble⟩ := bind_eq_ok_iff.mp hassemble
      cases hassemble
      obtain ⟨creator, hcreator, rfl⟩ := Header.forRequest_eq_ok_iff.mp hheader
      obtain rfl := hderives.eq hcreator htx
      refine ⟨_, rfl, ?_⟩
      intro hlength
      obtain ⟨hpayload, hfits, -⟩ := WireType.reads .payload hlength
      exact ⟨hpayload, Header.identifies_forRequest hcreator rfl hfits⟩

/-- A commit has the header of its proposal, and, above its only action, the signature header in
it. Whoever builds the commit is the creator. -/
theorem Commit.of_build {header : Header} {c c' : Commit}
    (hheader : Wire.decode c.proposal.header = .ok header)
    (hbuild : c.build signer = .ok c') :
    ∃ (payload : Payload) (signatureHeader : SignatureHeader),
      c'.state.payload = some (Wire.encode payload) ∧ payload.header = header ∧
      Wire.decode header.signatureHeader = .ok signatureHeader ∧
      signer.serialize = .ok signatureHeader.creator ∧
      ((Wire.encode payload).length < Codec.capacity 8 →
        Wire.decode (Wire.encode payload) = .ok payload ∧
        ∃ action : TransactionAction,
          Wire.decode payload.data = .ok ({ actions := [action] } : Transaction) ∧
          action.header = header.signatureHeader) := by
  obtain ⟨payload, hassemble, rfl⟩ := build_eq_ok_iff.mp hbuild
  obtain ⟨first, header', signatureHeader, invocation, -, hheader', hsignature, hcreator, -, rfl⟩ :=
    assemble_eq_ok_iff.mp hassemble
  obtain rfl := Except.ok.inj (hheader.symm.trans hheader')
  refine ⟨_, signatureHeader, rfl, rfl, hsignature, hcreator, ?_⟩
  intro hlength
  obtain ⟨hpayload, -, hdataLength, -⟩ := WireType.reads .payload hlength
  obtain ⟨htransaction, -⟩ := WireType.reads .transaction hdataLength
  exact ⟨hpayload, _, htransaction, rfl⟩

/-- Headers belong to their signer. Let the signer derive its ids from a nonce. A proposal that
is built, and a seek request that is built, carry a header that tells the signer, the nonce, and
the id that is the hash of the two, for the channel and the kind of the request. A commit that is
made of this proposal, whatever was recorded for it since, can only be built by the same creator,
and carries the header of the proposal, with the signature header in it above its only action. All
this is read from what was built, if it is shorter than a length can tell. -/
theorem Signer.requests_identified {ι : Type} (hderives : signer.Derives nonce) :
    (∀ (p p' : Proposal) (i : Invocation), p.build signer now i = .ok p' →
      ∃ (message : ChaincodeProposal) (header : Header),
        p'.state.payload = some (Wire.encode message) ∧
        ((Wire.encode message).length < Codec.capacity 8 →
          Wire.decode (Wire.encode message) = .ok message ∧
          Wire.decode message.header = .ok header ∧
          header.Identifies signer nonce .endorserTransaction p.channelName ∧
          ∀ (q : Proposal) (c c' : Commit) (signer' : Signer), q.built = p'.built →
            Commit.ofProposal q = .ok c → c.build signer' = .ok c' →
            signer'.serialize = signer.serialize ∧
            ∃ payload : Payload, c'.state.payload = some (Wire.encode payload) ∧
              payload.header = header ∧
              ((Wire.encode payload).length < Codec.capacity 8 →
                Wire.decode (Wire.encode payload) = .ok payload ∧
                ∃ action : TransactionAction,
                  Wire.decode payload.data = .ok ({ actions := [action] } : Transaction) ∧
                  action.header = header.signatureHeader))) ∧
      ∀ (h h' : EventHub ι) (range : StartRequest), h.build signer now range = .ok h' →
        ∃ payload : Payload, h'.request.state.payload = some (Wire.encode payload) ∧
          ((Wire.encode payload).length < Codec.capacity 8 →
            Wire.decode (Wire.encode payload) = .ok payload ∧
            payload.header.Identifies signer nonce .deliverSeekInfo h.channel) := by
  refine ⟨?_, fun h h' range => EventHub.headers_of_build hderives⟩
  intro p p' i hbuild
  obtain ⟨message, header, hbuilt, hpayload, hread⟩ := Proposal.of_build hderives hbuild
  refine ⟨message, header, hpayload, ?_⟩
  intro hlength
  obtain ⟨hmessage, hheader, hidentifies⟩ := hread hlength
  refine ⟨hmessage, hheader, hidentifies, ?_⟩
  intro q c c' signer' hsame hcommit hbuild'
  have hproposal : c.proposal = message := by
    rw [Commit.ofProposal, hsame, hbuilt] at hcommit
    cases hcommit
    rfl
  obtain ⟨payload, signatureHeader, hstate, hsameHeader, hsignature, hcreator, hcommitted⟩ :=
    Commit.of_build (hproposal ▸ hheader) hbuild'
  obtain ⟨_, signatureHeader', -, hsignature', -, -, -, hcreator', -⟩ := hidentifies
  obtain rfl := Except.ok.inj (hsignature.symm.trans hsignature')
  exact ⟨hcreator.trans hcreator'.symm, payload, hstate, hsameHeader, hcommitted⟩

end Requests

/-! ### A signer with one nonce -/

/-- Somebody who signs, with a TLS certificate, and whose ids come from a nonce of one byte. -/
def Signer.certified : Signer :=
  { Signer.sample with certHash := some [5], transactionId := .ok (.derive [1] [7]) }

/-- The message of a proposal by this signer. -/
def ChaincodeProposal.certified : ChaincodeProposal :=
  Proposal.messageOf .certified {} (.derive [1] [7]) [7] {}
    { kind := .endorsement, chaincodeId := "cc", channelName := "ch" }

/-- The proposal with this message. -/
def Proposal.certified : Proposal :=
  { kind := .endorsement, chaincodeId := "cc", channelName := "ch"
    state := { payload := some (Wire.encode ChaincodeProposal.certified) }
    tx := some (.derive [1] [7]), built := some .certified }

/-- The proposal is built and recorded with endorsed responses, a commit is built of it, and a
request for blocks is built by the same signer. -/
theorem Signer.requests_identified_certified :
    ∃ (c c' : Commit) (h : EventHub Unit) (payload seek : Payload),
      Proposal.build .certified {} {}
        { kind := .endorsement, chaincodeId := "cc", channelName := "ch" } = .ok .certified ∧
      Commit.ofProposal (Proposal.certified.record .sample) = .ok c ∧
      c.build .certified = .ok c' ∧ c'.state.payload = some (Wire.encode payload) ∧
      payload.header.Identifies .certified [1] .endorserTransaction "ch" ∧
      EventHub.build .certified {} {} { name := "hub", channel := "ch", config := {} } = .ok h ∧
      h.request.state.payload = some (Wire.encode seek) ∧
      seek.header.Identifies .certified [1] .deliverSeekInfo "ch" := by
  obtain ⟨hproposal, hhub⟩ := @requests_identified .certified [1] {} Unit rfl
  have hlength : (Wire.encode ChaincodeProposal.certified).length < Codec.capacity 8 := by
    decide +kernel
  obtain ⟨message, header, hmessage, hread⟩ := hproposal
    { kind := .endorsement, chaincodeId := "cc", channelName := "ch" } .certified {} rfl
  obtain ⟨-, -, hidentifies, hcommits⟩ := hread (Option.some.inj hmessage ▸ hlength)
  have hassemble : Commit.assemble .certified .certified ProposalResults.sample.given = .ok _ :=
    Commit.assemble_messageOf rfl hlength rfl
  have hbuild : Commit.build .certified ⟨"cc", "ch", .certified, ProposalResults.sample.given, {}⟩ =
      .ok _ :=
    Commit.build_eq_ok_iff.mpr ⟨_, hassemble, rfl⟩
  obtain ⟨-, payload, hpayload, rfl, -⟩ :=
    hcommits (Proposal.certified.record .sample) _ _ .certified rfl rfl hbuild
  obtain ⟨seek, hseek, hreadSeek⟩ := hhub { name := "hub", channel := "ch", config := {} } _ {} rfl
  have hseekLength : (Wire.encode seek).length < Codec.capacity 8 :=
    Option.some.inj hseek ▸ (by decide +kernel)
  exact ⟨_, _, _, payload, seek, rfl, rfl, hbuild, hpayload, hidentifies, rfl, hseek,
    (hreadSeek hseekLength).2⟩

end LedgerClient
