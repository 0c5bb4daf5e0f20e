import LedgerClient.Proofs.Discovery.Reading
import LedgerClient.Proofs.Discovery.Shared
import LedgerClient.Proofs.Ledger.Layers
import LedgerClient.Proofs.Request.Signed

/-!
# Requests and tags in step

A discovery keeps the encoded request and the tags of its queries side by side, and builds them
anew as often as it is asked to. The answer to a request tells of an entry only at which position
it stands, so the tags by which it is read must be those of the very request that was sent. They
are taken along with it, and so what is built while the answer is awaited does not matter.

## Main results

* `SharedDiscovery.Reached.tagged`: the tags name the queries, of the request that is kept and of
  all that are under way.
* `DiscoveredPeer.decode_of_stateless`: what it means that the state of a ledger is required.
* `SharedDiscovery.read_by_queries`: an answer is read by the queries of the request that was sent.
-/

namespace LedgerClient

/-- What a tag says of its query in a request for a channel. Only the query for local peers is
about no channel. -/
inductive QueryTag.Names (channel : String) : QueryTag → Query → Prop where
  | config : Names channel .config { channel, query := .config }
  | members : Names channel .members { channel, query := .peers }
  | chaincode (interest : List ChaincodeInterest) :
      Names channel .chaincode { channel, query := .chaincodes interest }
  | localPeers : Names channel .localPeers { channel := "", query := .localPeers }

namespace QueryTag.Names

variable {channel : String} {tag : QueryTag} {query : Query}

theorem eq_localPeers_iff (h : Names channel tag query) :
    tag = .localPeers ↔ query.query = .localPeers := by
  cases h <;> simp

theorem channel_eq (h : Names channel tag query) :
    query.channel = if query.query = .localPeers then "" else channel := by
  cases h <;> simp

end QueryTag.Names

/-- Where a tag is about local peers, so is the query. -/
theorem QueryTag.localPeers_iff {channel : String} {tags : List QueryTag} {queries : List Query}
    (h : List.Forall₂ (QueryTag.Names channel) tags queries) (i : Nat) :
    tags[i]? = some .localPeers ↔ queries[i]?.map Query.query = some .localPeers := by
  induction h generalizing i with
  | nil => exact ⟨nofun, nofun⟩
  | cons hnames h ih =>
      cases i with
      | zero => simpa using hnames.eq_localPeers_iff
      | succ i => simpa using ih i

/-- All queries but those for local peers are about the channel. -/
theorem QueryTag.channel_eq_of_mem {channel : String} {tags : List QueryTag} {queries : List Query}
    (h : List.Forall₂ (QueryTag.Names channel) tags queries) {query : Query}
    (hquery : query ∈ queries) :
    query.channel = if query.query = .localPeers then "" else channel := by
  induction h with
  | nil => cases hquery
  | cons hnames h ih =>
      rcases List.mem_cons.mp hquery with rfl | hquery
      · exact hnames.channel_eq
      · exact ih hquery

/-! ### Building -/

/-- The queries that are asked are named by their tags. -/
theorem DiscoveryWish.queries_named (channel : String) (wish : DiscoveryWish) :
    List.Forall₂ (QueryTag.Names channel) ((wish.queries channel).map Prod.snd)
      ((wish.queries channel).map Prod.fst) := by
  have hpaired : ∀ asked : List (Query × QueryTag),
      (∀ a ∈ asked, QueryTag.Names channel a.2 a.1) →
      List.Forall₂ (QueryTag.Names channel) (asked.map Prod.snd) (asked.map Prod.fst) := by
    intro asked h
    rw [List.forall₂_map_left_iff, List.forall₂_map_right_iff, List.forall₂_same]
    exact h
  refine hpaired _ fun a ha => ?_
  simp only [DiscoveryWish.queries, List.mem_append, List.mem_ite_nil_right, List.mem_ite_nil_left,
    List.mem_singleton] at ha
  rcases ha with ((⟨-, rfl⟩ | rfl) | ⟨-, rfl⟩) | ⟨-, rfl⟩
  · exact .config
  · exact .members
  · exact .chaincode _
  · exact .localPeers

/-- A payload is an encoded request for a channel, whose queries are named by tags. -/
def InStep (id : ChannelId) (w : World) (payload : Bytes) (tags : List QueryTag) : Prop :=
  ∃ (request : DiscoveryRequest) (name : String), payload = Wire.encode request ∧
    (w.channel? id).map Channel.name = some name ∧ name ≠ "" ∧
    List.Forall₂ (QueryTag.Names name) tags request.queries

/-- Requests and tags stay in step, since channels keep their names. -/
theorem InStep.onward {id : ChannelId} {w w' : World} {payload : Bytes} {tags : List QueryTag}
    (h : InStep id w payload tags) (hw : w.Onward w') : InStep id w' payload tags := by
  obtain ⟨request, name, hpayload, hname, hne, htags⟩ := h
  exact ⟨request, name, hpayload, hw.named id name hname, hne, htags⟩

namespace ChannelDiscovery

variable {d d' : ChannelDiscovery} {w : World} {payload : Bytes}

/-- What is built is in step. -/
theorem inStep_of_building {signer : Signer} {wish : DiscoveryWish} {bytes : Bytes}
    (h : (building signer wish w).perform d = (.ok bytes, d'))
    (hpayload : d'.request.state.payload = some payload) :
    InStep d'.channel w payload d'.request.tags := by
  obtain ⟨request, hrequest, -, rfl⟩ := perform_building_eq_ok_iff.mp h
  obtain rfl := Option.some.inj hpayload
  rw [DiscoveryWish.request] at hrequest
  split at hrequest
  · cases hrequest
  next hne =>
  split at hrequest
  · cases hrequest
  next identity hidentity =>
  cases hrequest
  cases hname : (w.channel? d.channel).map Channel.name with
  | none =>
      rw [hname] at hne
      exact absurd rfl hne
  | some name =>
      rw [hname] at hne
      refine ⟨_, name, rfl, hname, fun heq => hne (String.isEmpty_iff.mpr heq), ?_⟩
      exact DiscoveryWish.queries_named name wish

/-- What a send takes along are the payload and the tags that are kept. -/
theorem payload_of_takeAlong {r : DiscoverRequest} {q : TakenRequest}
    (hq : d.takeAlong r = .ok q) :
    d.request.state.payload = some q.signed.payload ∧ q.tags = d.request.tags := by
  obtain ⟨-, hsigned, htags, -⟩ := takeAlong_eq_ok_iff.mp hq
  have henvelope : Signable.discovery.envelope d =
      .ok { payload := q.signed.payload, signature := q.signed.signature } := by
    change Except.map _ d.request.signed = _
    rw [hsigned]
    rfl
  exact ⟨((Signable.envelope_eq_ok_iff (S := .discovery)).mp henvelope).1, htags⟩

end ChannelDiscovery

/-! ### Reading by queries -/

/-- Whether the state of a ledger must be published makes a difference to a peer that has not
published it: it is read without a height, or not at all. -/
theorem DiscoveredPeer.decode_of_stateless {peer : DiscoveryPeer} {d : DiscoveredPeer}
    (hstate : peer.stateInfo = none) (h : decode false peer = .ok d) :
    d.ledgerHeight = none ∧
      decode true peer = .error (.invalidPeer d.name "missing state info") := by
  obtain ⟨identity, hidentity, h⟩ := bind_eq_ok_iff.mp h
  obtain ⟨name, hname, h⟩ := bind_eq_ok_iff.mp h
  obtain ⟨⟨host, port⟩, hsplit, h⟩ := bind_eq_ok_iff.mp h
  rw [hstate] at h
  cases h
  refine ⟨rfl, ?_⟩
  simp only [decode, hidentity, hname, hsplit, hstate, stateOf, bind, Except.bind, if_true]

namespace DiscoveryTree

/-- The tree with an entry taken in that stands where a query stood in the request. A list of
members is about local peers, who need not have published their state, if the query was. -/
def answer (query : Option Query) (result : QueryResult) (t : DiscoveryTree) :
    Except DiscoveryError DiscoveryTree :=
  match result with
  | .members members =>
    if query.map Query.query = some .localPeers then do
      return { t with localPeers := ← decodeMembers false members }
    else do return { t with peersByOrg := ← decodeMembers true members }
  | .error _ | .config _ | .chaincodes _ => t.take none result

/-- An entry is taken in by a query as by its tag. -/
theorem take_eq_answer {tag : Option QueryTag} {query : Option Query}
    (h : tag = some .localPeers ↔ query.map Query.query = some .localPeers) (result : QueryResult)
    (t : DiscoveryTree) : t.take tag result = t.answer query result := by
  cases result with
  | error | config | chaincodes => rfl
  | members members =>
      rw [take, answer]
      exact if_congr h rfl rfl

/-- Entries are read by queries as by their tags. -/
theorem takeAll_eq_answer {tags : List QueryTag} {queries : List Query}
    (h : ∀ i : Nat, tags[i]? = some .localPeers ↔ queries[i]?.map Query.query = some .localPeers)
    (results : List QueryResult) (t : DiscoveryTree) :
    takeAll tags results t =
      (results.mapIdx fun i result => (queries[i]?, result)).foldlM
        (fun t entry => t.answer entry.1 entry.2) t := by
  induction results generalizing tags queries t with
  | nil => cases tags <;> rfl
  | cons result rest ih =>
      have hhead := h 0
      rw [← List.head?_eq_getElem?] at hhead
      have htail : ∀ i : Nat, tags.tail[i]? = some .localPeers ↔
          queries.tail[i]?.map Query.query = some .localPeers := by
        intro i
        rw [List.getElem?_tail, List.getElem?_tail]
        exact h (i + 1)
      rw [takeAll, List.mapIdx_cons, List.foldlM_cons, take_eq_answer hhead]
      simp only [ih htail, List.getElem?_tail]

end DiscoveryTree

/-! ### Sharing -/

/-- The request that a call has taken along. -/
def CallStage.taken? : CallStage → Option TakenRequest
  | asking _ q _ | updating _ q _ => some q
  | idle | waiting _ | done _ => none

/-- What a call has taken along is in step. -/
def CallStage.Tagged (id : ChannelId) (w : World) (stage : CallStage) : Prop :=
  ∀ q, stage.taken? = some q → InStep id w q.signed.payload q.tags

namespace SharedDiscovery

variable {κ : Type} {T T' : SharedDiscovery κ} {new : List (RefreshMark κ)} {k : κ}
  {stage : CallStage} {q : TakenRequest}

/-- Tags are in step with their requests: with the one that is kept, and with all that are under
way. -/
structure Tagged (T : SharedDiscovery κ) : Prop where
  kept : ∀ payload, T.discovery.request.state.payload = some payload →
    InStep T.discovery.channel T.world payload T.discovery.request.tags
  taken : ∀ k, (T.calls k).Tagged T.discovery.channel T.world

/-- Building brings a request and its tags in step, signing spares both, and a call that fails
leaves both as they were. -/
theorem Tagged.prepare (h : T.Tagged) {d : ChannelDiscovery}
    (hprepares : T.discovery.Prepares T.world d) : Tagged { T with discovery := d } where
  kept := by
    intro payload hpayload
    cases hprepares with
    | @build signer wish answer hbuild =>
        cases answer with
        | error e =>
            obtain rfl := ChannelDiscovery.atomic_building signer wish T.world _ _ _ hbuild
            exact h.kept payload hpayload
        | ok bytes => exact ChannelDiscovery.inStep_of_building hbuild hpayload
    | sign signer hsign =>
        obtain ⟨state, rfl, hkept⟩ :=
          ChannelDiscovery.exists_state_of_signing (congrArg Prod.snd hsign)
        exact h.kept payload (hkept.symm.trans hpayload)
    | signWith signature hsign =>
        obtain ⟨state, rfl, hkept⟩ :=
          ChannelDiscovery.exists_state_of_attaching (congrArg Prod.snd hsign)
        exact h.kept payload (hkept.symm.trans hpayload)
  taken := by
    obtain ⟨request, rfl⟩ := hprepares.exists_request
    exact h.taken

/-- What a send takes along is in step. -/
theorem Tagged.takeAlong (h : T.Tagged) {r : DiscoverRequest}
    (hq : T.discovery.takeAlong r = .ok q) :
    InStep T.discovery.channel T.world q.signed.payload q.tags := by
  obtain ⟨hpayload, htags⟩ := ChannelDiscovery.payload_of_takeAlong hq
  rw [htags]
  exact h.kept _ hpayload

variable [DecidableEq κ]

theorem Tagged.put (h : T.Tagged) (hstage : stage.Tagged T.discovery.channel T.world) (j : κ) :
    ((T.put k stage).calls j).Tagged T.discovery.channel T.world :=
  forall_put (P := fun _ => CallStage.Tagged T.discovery.channel T.world) (fun j _ => h.taken j)
    hstage j

/-- Whatever a call does, tags stay in step. -/
theorem Next.tagged (hn : Next T new T') (h : T.Tagged) : T'.Tagged := by
  cases hn with
  | elapse hw =>
      exact ⟨fun payload hp => (h.kept payload hp).onward hw,
        fun k q hq => (h.taken k q hq).onward hw⟩
  | prepared hprepares => exact h.prepare hprepares
  | given | found | served | barred | unsent => exact ⟨h.kept, h.put nofun⟩
  | renews _ _ _ hq | sends _ hq =>
      exact ⟨h.kept, h.put fun q heq => Option.some.inj heq ▸ h.takeAlong hq⟩
  | refused hk | read hk => exact ⟨h.kept, h.put fun q hq => h.taken _ q (by rw [hk]; exact hq)⟩
  | failed | unreadable | updated => exact ⟨h.kept, h.put nofun⟩

/-- The tags name the queries, of the request that is kept and of all that are under way. -/
theorem Reached.tagged (hT : Reached T) : T.Tagged :=
  hT.induction (fun _ _ _ _ => ⟨nofun, nofun⟩) Next.tagged

/-- At any moment of any run of a discovery, whatever was built and sent before and meanwhile, what
a call has taken along to send, in fewer than `2 ^ 64` bytes, is the encoding of a request whose
queries are named by the tags that it has taken along: each tag tells the kind of its query, and
every query is about the channel of the discovery, except that one for local peers is about none.
So any response to it is read by the queries of that request. A list of members is taken for the
local peers, who need not have published their state, if it stands where the request asks for
these, and for the members of the channel, who must have, if it stands anywhere else. -/
theorem read_by_queries (hT : Reached T) (hk : (T.calls k).taken? = some q)
    (hlength : q.signed.payload.length < Codec.capacity 8) :
    ∃ (request : DiscoveryRequest) (name : String),
      Wire.decode q.signed.payload = .ok request ∧
      (T.world.channel? T.discovery.channel).map Channel.name = some name ∧ name ≠ "" ∧
      q.tags.length = request.queries.length ∧
      List.Forall₂ (QueryTag.Names name) q.tags request.queries ∧
      (∀ query ∈ request.queries,
        query.channel = if query.query = .localPeers then "" else name) ∧
      ∀ response, DiscoveryTree.ofResponse q.tags response =
          (response.results.mapIdx fun i result => (request.queries[i]?, result)).foldlM
            (fun t entry => t.answer entry.1 entry.2) {} ∧
        ∀ tree, DiscoveryTree.ofResponse q.tags response = .ok tree →
          ∀ peer ∈ tree.members, peer.ledgerHeight.isSome := by
  obtain ⟨request, name, hpayload, hname, hne, htags⟩ := hT.tagged.taken k q hk
  rw [hpayload] at hlength ⊢
  refine ⟨request, name, (WireType.reads .discoveryRequest hlength).1, hname, hne,
    htags.length_eq, htags, fun query => QueryTag.channel_eq_of_mem htags,
    fun response => ⟨?_, fun tree h peer hpeer => ?_⟩⟩
  · exact DiscoveryTree.takeAll_eq_answer (QueryTag.localPeers_iff htags) response.results {}
  · exact (DiscoveryTree.reads_of_takeAll h).ledgerHeight_isSome (List.mem_append_left _ hpeer)

/-- While a request is under way that asks for local peers, one is built that does not. -/
theorem read_by_queries_rebuilt :
    ∃ (T : SharedDiscovery Unit) (q : TakenRequest) (request : DiscoveryRequest),
      Reached T ∧ (T.calls ()).taken? = some q ∧ T.discovery.request.tags = [.members] ∧
      Wire.decode q.signed.payload = .ok request ∧
      List.Forall₂ (QueryTag.Names "ch") [.config, .members, .localPeers] request.queries ∧
      ∃ tree peer, DiscoveryTree.ofResponse q.tags { results := [.config {}, .members {},
          .members (Sample.members [("Org1", Sample.localPeer "Org1" "p2:1")])] } = .ok tree ∧
        tree.localPeers.values = [[peer]] ∧ peer.ledgerHeight = none ∧ tree.members = [] := by
  have hbuilt := (Later.refl (fresh Unit "d" ⟨0⟩ {} (.answering {}))).tail
    (.prepared (.build .sample { localPeers := true } rfl))
  have hsigned := hbuilt.tail (.prepared (.sign .sample rfl))
  have hsends := hsigned.tail (.sends (k := ()) (r := { targets := [⟨1⟩] }) rfl rfl)
  have hrebuilt := hsends.tail
    (.prepared (.build .sample { config := false } rfl))
  have hT : Reached _ := ⟨_, _, _, _, _, hrebuilt⟩
  obtain ⟨request, name, hdecode, hname, -, -, htags, -⟩ :=
    read_by_queries (k := ()) hT rfl (by decide)
  obtain rfl := Option.some.inj hname
  exact ⟨_, _, request, hT, rfl, rfl, hdecode, htags, _, _, rfl, rfl, rfl, rfl⟩

end SharedDiscovery

end LedgerClient
