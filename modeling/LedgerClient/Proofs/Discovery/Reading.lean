import LedgerClient.Proofs.Discovery.Membership
import LedgerClient.Proofs.Discovery.Send

/-!
# Reading a discovery answer

An answer has one entry for each query. Of several entries of one kind the last one counts:
the providers and orderers are those of the last configuration, the members of the channel
those of the last list that was not about local peers, and the plan is the last one. Members
and the peers of a plan have published the state of their ledger.

## Main results

* `DiscoveryTree.reads_of_takeAll`: what is read of the entries of an answer.
* `DiscoveryTree.Reads.exists_lists`: where the peers of a channel come from.
* `DiscoveryTree.Reads.ledgerHeight_isSome`: the peers of a channel have published their state.
-/

namespace LedgerClient

namespace QueryResult

/-- The configuration that an entry holds. -/
def config? : QueryResult → Option ConfigResult
  | .config c => some c
  | _ => none

/-- The members of the channel that an entry holds; a list of local peers is not one. -/
def channelMembers? : Option QueryTag × QueryResult → Option PeerMembershipResult
  | (tag, .members m) => if tag = some .localPeers then none else some m
  | _ => none

/-- The plan that an entry holds. -/
def chaincodes? : QueryResult → Option ChaincodeQueryResult
  | .chaincodes c => some c
  | _ => none

/-- The last configuration of an answer. -/
def lastConfig? (results : List QueryResult) : Option ConfigResult :=
  results.reverse.findSome? config?

/-- The last members of the channel in an answer to queries of some kinds. -/
def lastMembers? (tags : List QueryTag) (results : List QueryResult) :
    Option PeerMembershipResult :=
  (results.mapIdx fun i result => (tags[i]?, result)).reverse.findSome? channelMembers?

/-- The last plan of an answer. -/
def lastPlan? (results : List QueryResult) : Option ChaincodeQueryResult :=
  results.reverse.findSome? chaincodes?

variable (tags : List QueryTag) (result : QueryResult) (rest : List QueryResult)

theorem lastConfig?_cons :
    lastConfig? (result :: rest) = (lastConfig? rest).or result.config? := by
  rw [lastConfig?, List.reverse_cons, List.findSome?_append, List.findSome?_singleton]
  rfl

theorem lastPlan?_cons : lastPlan? (result :: rest) = (lastPlan? rest).or result.chaincodes? := by
  rw [lastPlan?, List.reverse_cons, List.findSome?_append, List.findSome?_singleton]
  rfl

theorem lastMembers?_cons :
    lastMembers? tags (result :: rest) =
      (lastMembers? tags.tail rest).or (channelMembers? (tags.head?, result)) := by
  rw [lastMembers?, List.mapIdx_cons, List.reverse_cons, List.findSome?_append,
    List.findSome?_singleton, lastMembers?, List.head?_eq_getElem?]
  simp only [List.getElem?_tail]

end QueryResult

namespace DiscoveryTree

open QueryResult

/-! ### One entry -/

/-- What becomes of a tree when an entry is taken in. -/
inductive Taken (tag : Option QueryTag) (t : DiscoveryTree) : QueryResult → DiscoveryTree → Prop
  | config (c : ConfigResult) :
      Taken tag t (.config c) { t with msps := decodeMsps c, orderers := decodeOrderers c }
  | localPeers {m : PeerMembershipResult} {peers : SortedMap String (List DiscoveredPeer)}
      (htag : tag = some .localPeers) (hread : decodeMembers false m = .ok peers) :
      Taken tag t (.members m) { t with localPeers := peers }
  | members {m : PeerMembershipResult} {peers : SortedMap String (List DiscoveredPeer)}
      (htag : tag ≠ some .localPeers) (hread : decodeMembers true m = .ok peers) :
      Taken tag t (.members m) { t with peersByOrg := peers }
  | chaincodes {c : ChaincodeQueryResult} {plan : EndorsementPlan}
      (hread : decodePlan c = .ok plan) : Taken tag t (.chaincodes c) { t with plan := some plan }

section Take

variable {tag : Option QueryTag} {result : QueryResult} {t t' : DiscoveryTree}

theorem take_spec (h : t.take tag result = .ok t') : Taken tag t result t' := by
  cases result with
  | error content => cases h
  | config c =>
      cases h
      exact .config c
  | members m =>
      rw [take] at h
      split at h
      · next htag =>
        obtain ⟨peers, hread, heq⟩ := bind_eq_ok_iff.mp h
        cases heq
        exact .localPeers htag hread
      · next htag =>
        obtain ⟨peers, hread, heq⟩ := bind_eq_ok_iff.mp h
        cases heq
        exact .members htag hread
  | chaincodes c =>
      obtain ⟨plan, hread, heq⟩ := bind_eq_ok_iff.mp h
      cases heq
      exact .chaincodes hread

namespace Taken

theorem msps (h : Taken tag t result t') :
    t'.msps = (result.config?.map decodeMsps).getD t.msps := by
  cases h <;> rfl

theorem orderers (h : Taken tag t result t') :
    t'.orderers = (result.config?.map decodeOrderers).getD t.orderers := by
  cases h <;> rfl

theorem peersByOrg (h : Taken tag t result t') :
    match channelMembers? (tag, result) with
    | some m => decodeMembers true m = .ok t'.peersByOrg
    | none => t'.peersByOrg = t.peersByOrg := by
  cases h with
  | config | chaincodes => rfl
  | localPeers htag hread => rw [channelMembers?, if_pos htag]
  | members htag hread =>
      rw [channelMembers?, if_neg htag]
      exact hread

theorem plan (h : Taken tag t result t') :
    match result.chaincodes? with
    | some result => ∃ plan, decodePlan result = .ok plan ∧ t'.plan = some plan
    | none => t'.plan = t.plan := by
  cases h with
  | config | localPeers | members => rfl
  | chaincodes hread => exact ⟨_, hread, rfl⟩

end Taken

end Take

/-! ### All entries -/

/-- What is read of the entries of an answer, starting from a tree `t`. -/
structure Reads (tags : List QueryTag) (results : List QueryResult) (t t' : DiscoveryTree) :
    Prop where
  msps : t'.msps = ((lastConfig? results).map decodeMsps).getD t.msps
  orderers : t'.orderers = ((lastConfig? results).map decodeOrderers).getD t.orderers
  members : match lastMembers? tags results with
    | some members => decodeMembers true members = .ok t'.peersByOrg
    | none => t'.peersByOrg = t.peersByOrg
  plan : match lastPlan? results with
    | some result => ∃ plan, decodePlan result = .ok plan ∧ t'.plan = some plan
    | none => t'.plan = t.plan

/-- One entry is read before those after it. -/
theorem Reads.cons {tags : List QueryTag} {result : QueryResult} {rest : List QueryResult}
    {t t₁ t' : DiscoveryTree} (htake : Taken tags.head? t result t₁)
    (h : Reads tags.tail rest t₁ t') : Reads tags (result :: rest) t t' := by
  obtain ⟨hmsps, horderers, hmembers, hplan⟩ := h
  constructor
  case msps =>
    rw [hmsps, lastConfig?_cons]
    cases lastConfig? rest with
    | some last => rfl
    | none => exact htake.msps
  case orderers =>
    rw [horderers, lastConfig?_cons]
    cases lastConfig? rest with
    | some last => rfl
    | none => exact htake.orderers
  case members =>
    rw [lastMembers?_cons]
    cases hlast : lastMembers? tags.tail rest with
    | some last =>
        rw [hlast] at hmembers
        exact hmembers
    | none =>
        rw [hlast] at hmembers
        rw [Option.none_or, hmembers]
        exact htake.peersByOrg
  case plan =>
    rw [lastPlan?_cons]
    cases hlast : lastPlan? rest with
    | some last =>
        rw [hlast] at hplan
        exact hplan
    | none =>
        rw [hlast] at hplan
        rw [Option.none_or, hplan]
        exact htake.plan

/-- Of several entries of one kind the last one is read. -/
theorem reads_of_takeAll {tags : List QueryTag} {results : List QueryResult}
    {t t' : DiscoveryTree} (h : takeAll tags results t = .ok t') : Reads tags results t t' := by
  induction results generalizing tags t with
  | nil =>
      cases h
      exact ⟨rfl, rfl, rfl, rfl⟩
  | cons result rest ih =>
      obtain ⟨t₁, htake, hrest⟩ := bind_eq_ok_iff.mp h
      exact .cons (take_spec htake) (ih hrest)

end DiscoveryTree

/-! ### The peers of a channel -/

/-- An answer lists a peer as one of the channel: as a member, or among those whose endorsements
a chaincode needs. -/
inductive QueryResult.Lists (tags : List QueryTag) (results : List QueryResult)
    (peer : DiscoveryPeer) : Prop
  | member {members : PeerMembershipResult} {org : String × Peers}
      (hlast : lastMembers? tags results = some members)
      (horg : org ∈ members.peersByOrg.entries) (hpeer : peer ∈ org.2.peers) :
      Lists tags results peer
  | endorser {plan : ChaincodeQueryResult} {descriptor : EndorsementDescriptor}
      {group : String × Peers} (hlast : lastPlan? results = some plan)
      (hdescriptor : plan.content = [descriptor])
      (hgroup : group ∈ descriptor.endorsersByGroups.entries) (hpeer : peer ∈ group.2.peers) :
      Lists tags results peer

namespace DiscoveryTree

open QueryResult

variable {tags : List QueryTag} {results : List QueryResult} {t : DiscoveryTree}
  {d : DiscoveredPeer}

/-- The peers of a channel are those that a listed peer shows. -/
theorem Reads.exists_lists (h : Reads tags results {} t) (hd : d ∈ t.channelPeers) :
    ∃ peer, Lists tags results peer ∧ peer.Shows true d := by
  rcases List.mem_append.mp hd with hd | hd
  · have hmembers := h.members
    split at hmembers
    · next hlast =>
      obtain ⟨_, horg, peer, hpeer, hshows⟩ := DiscoveredPeer.exists_shows_of_decodeAll hmembers hd
      exact ⟨peer, .member hlast horg hpeer, hshows⟩
    · rw [DiscoveryTree.members, hmembers] at hd
      cases hd
  · have hplan := h.plan
    split at hplan
    · next hlast =>
      obtain ⟨plan, hread, hplan⟩ := hplan
      rw [planPeers, hplan] at hd
      obtain ⟨_, hdescriptor, -, hgroups, -⟩ := decodePlan_eq_ok_iff.mp hread
      obtain ⟨_, hgroup, peer, hpeer, hshows⟩ := DiscoveredPeer.exists_shows_of_decodeAll hgroups hd
      exact ⟨peer, .endorser hlast hdescriptor hgroup hpeer, hshows⟩
    · rw [planPeers, hplan] at hd
      cases hd

/-- The peers of a channel have published the state of their ledger. -/
theorem Reads.ledgerHeight_isSome (h : Reads tags results {} t) (hd : d ∈ t.channelPeers) :
    d.ledgerHeight.isSome := by
  obtain ⟨_, -, hshows⟩ := h.exists_lists hd
  exact DiscoveredPeer.ledgerHeight_of_shows hshows

end DiscoveryTree

end LedgerClient
