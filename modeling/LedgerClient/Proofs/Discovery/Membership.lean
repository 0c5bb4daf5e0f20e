import LedgerClient.Discovery.DiscoveredPeer
import LedgerClient.Fixture.Membership
import LedgerClient.Proofs.Data.SortedMap
import LedgerClient.Proofs.Data.Steps
import LedgerClient.Proofs.Message.RoundTrip
import LedgerClient.Proofs.Node.Address

/-!
# Memberships are read as a whole

A peer is read if it shows whose it is, at what address it is alive, and, where this is required,
the state of its ledger. A list of peers is read if each of its peers is: then all organizations
or groups are kept, with all their peers in the order in which they were listed.

## Main results

* `DiscoveredPeer.decode_eq_ok_iff`: what a peer is read as is what it shows.
* `DiscoveredPeer.decodeAll_eq_ok_iff`: what is kept of the peers of organizations or groups.
* `DiscoveredPeer.decode_channelPeer`: a sample peer is read as what it was made of.
* `membership_whole`: memberships and plans are read as a whole or not at all.
-/

namespace LedgerClient

/-! ### What a peer shows -/

/-- The envelope carries a gossip message of some content. -/
def GossipEnvelope.Carries (e : GossipEnvelope) (content : GossipContent) : Prop :=
  ∃ message : GossipMessage, Wire.decode e.payload = .ok message ∧ message.content = content

/-- What a peer shows of itself: whose it is by its identity, where it is by the message that it
is alive, and by the message about its state how far its ledger has come and what is installed
on it. Only where the state is not required may this message be missing. -/
structure DiscoveryPeer.Shows (requireState : Bool) (peer : DiscoveryPeer) (d : DiscoveredPeer) :
    Prop where
  owner : ∃ identity : SerializedIdentity, Wire.decode peer.identity = .ok identity ∧
    identity.mspid = d.mspid
  name : ∃ envelope alive, peer.membershipInfo = some envelope ∧
    envelope.Carries (.alive alive) ∧ alive.membership.endpoint = d.name
  address : Addresses d.name d.host d.port
  state : (∃ envelope info properties, peer.stateInfo = some envelope ∧
      envelope.Carries (.state info) ∧ info.properties = some properties ∧
      d.ledgerHeight = some ⟨properties.ledgerHeight⟩ ∧ d.chaincodes = properties.chaincodes) ∨
    (requireState = false ∧ peer.stateInfo = none ∧ d.ledgerHeight = none ∧ d.chaincodes = [])

theorem splitEndpoint_eq_ok_iff {name host : String} {port : UInt16} :
    splitEndpoint name = .ok (host, port) ↔ Addresses name host port := by
  rw [← splitAddress?_eq_some_iff, splitEndpoint]
  cases splitAddress? name.toList <;> simp

namespace DiscoveredPeer

theorem gossip_eq_ok_iff {peer : String} {e : GossipEnvelope} {content : GossipContent} :
    gossip peer e = .ok content ↔ e.Carries content := by
  rw [gossip, GossipEnvelope.Carries]
  cases Wire.decode (α := GossipMessage) e.payload <;> simp

theorem endpointOf_eq_ok_iff {mspid name : String} {membership : Option GossipEnvelope} :
    endpointOf mspid membership = .ok name ↔
      ∃ envelope alive, membership = some envelope ∧ envelope.Carries (.alive alive) ∧
        alive.membership.endpoint = name := by
  cases membership with
  | none => simp [endpointOf]
  | some e =>
      rw [endpointOf, bind_eq_ok_iff]
      constructor
      · rintro ⟨content, hcontent, h⟩
        cases content with
        | alive m => exact ⟨e, m, rfl, gossip_eq_ok_iff.mp hcontent, Except.ok.inj h⟩
        | state info => cases h
        | empty => cases h
      · rintro ⟨envelope, m, he, hcarries, rfl⟩
        cases he
        exact ⟨.alive m, gossip_eq_ok_iff.mpr hcarries, rfl⟩

theorem stateOf_eq_ok_iff {name : String} {state : Option GossipEnvelope} {requireState : Bool}
    {height : Option BlockNumber} {chaincodes : List InstalledChaincode} :
    stateOf name state requireState = .ok (height, chaincodes) ↔
      (∃ envelope info properties, state = some envelope ∧ envelope.Carries (.state info) ∧
        info.properties = some properties ∧ height = some ⟨properties.ledgerHeight⟩ ∧
        chaincodes = properties.chaincodes) ∨
      (requireState = false ∧ state = none ∧ height = none ∧ chaincodes = []) := by
  cases state with
  | none => cases requireState <;> simp [stateOf, pure, Except.pure, eq_comm]
  | some e =>
      rw [stateOf, bind_eq_ok_iff]
      constructor
      · rintro ⟨content, hcontent, h⟩
        split at h
        · next p =>
          obtain ⟨rfl, rfl⟩ := Prod.mk.inj (Except.ok.inj h)
          exact .inl ⟨e, _, p, rfl, gossip_eq_ok_iff.mp hcontent, rfl, rfl, rfl⟩
        · cases h
        · cases h
      · rintro (⟨envelope, info, properties, he, hcarries, hproperties, rfl, rfl⟩ | ⟨-, h, -⟩)
        · cases he
          refine ⟨.state info, gossip_eq_ok_iff.mpr hcarries, ?_⟩
          obtain ⟨pkiId, channelMac, _⟩ := info
          cases hproperties
          rfl
        · cases h

/-- What a peer is read as is what it shows. -/
theorem decode_eq_ok_iff {requireState : Bool} {peer : DiscoveryPeer} {d : DiscoveredPeer} :
    decode requireState peer = .ok d ↔ peer.Shows requireState d := by
  rw [decode, bind_eq_ok_iff]
  constructor
  · rintro ⟨identity, hidentity, h⟩
    obtain ⟨name, hname, h⟩ := bind_eq_ok_iff.mp h
    obtain ⟨⟨host, port⟩, haddress, h⟩ := bind_eq_ok_iff.mp h
    obtain ⟨⟨height, chaincodes⟩, hstate, h⟩ := bind_eq_ok_iff.mp h
    cases h
    exact
      { owner := ⟨identity, mapError_eq_ok_iff.mp hidentity, rfl⟩
        name := endpointOf_eq_ok_iff.mp hname
        address := splitEndpoint_eq_ok_iff.mp haddress
        state := stateOf_eq_ok_iff.mp hstate }
  · rintro ⟨⟨identity, hidentity, howner⟩, hname, haddress, hstate⟩
    refine ⟨identity, mapError_eq_ok_iff.mpr hidentity, ?_⟩
    refine bind_eq_ok_iff.mpr ⟨d.name, endpointOf_eq_ok_iff.mpr hname, ?_⟩
    refine bind_eq_ok_iff.mpr ⟨(d.host, d.port), splitEndpoint_eq_ok_iff.mpr haddress, ?_⟩
    refine bind_eq_ok_iff.mpr ⟨(d.ledgerHeight, d.chaincodes), stateOf_eq_ok_iff.mpr hstate, ?_⟩
    rw [howner]
    rfl

/-! ### Lists of peers -/

/-- The lists are read entry by entry. -/
theorem decodeEntries_eq_mapM (requireState : Bool) (entries : List (String × Peers)) :
    decodeEntries requireState entries =
      entries.mapM fun e => (e.1, ·) <$> e.2.peers.mapM (decode requireState) := by
  induction entries with
  | nil => rfl
  | cons e entries ih =>
      obtain ⟨key, peers⟩ := e
      rw [decodeEntries, List.mapM_cons, ih]
      cases peers.peers.mapM (decode requireState) <;> rfl

/-- What is kept of one organization or group: its key, and its peers in their order. -/
def Keeps (requireState : Bool) (listed : String × Peers) (kept : String × List DiscoveredPeer) :
    Prop :=
  kept.1 = listed.1 ∧ List.Forall₂ (DiscoveryPeer.Shows requireState) listed.2.peers kept.2

theorem decodeEntries_eq_ok_iff {requireState : Bool} {entries : List (String × Peers)}
    {decoded : List (String × List DiscoveredPeer)} :
    decodeEntries requireState entries = .ok decoded ↔
      List.Forall₂ (Keeps requireState) entries decoded := by
  have hentry : ∀ (e : String × Peers) (e' : String × List DiscoveredPeer),
      ((e.1, ·) <$> e.2.peers.mapM (decode requireState) = .ok e' ↔ Keeps requireState e e') := by
    intro e e'
    obtain ⟨key, peers⟩ := e'
    simp only [map_eq_ok_iff, mapM_eq_ok_iff, decode_eq_ok_iff, Keeps]
    constructor
    · rintro ⟨_, hpeers, heq⟩
      obtain ⟨rfl, rfl⟩ := Prod.mk.inj heq
      exact ⟨rfl, hpeers⟩
    · rintro ⟨rfl, hpeers⟩
      exact ⟨peers, hpeers, rfl⟩
  rw [decodeEntries_eq_mapM, mapM_eq_ok_iff]
  simp only [hentry]

/-- The keys are kept in their order. -/
theorem ascendingKeys_of_keeps {requireState : Bool} {entries : List (String × Peers)}
    {decoded : List (String × List DiscoveredPeer)}
    (h : List.Forall₂ (Keeps requireState) entries decoded)
    (hentries : AscendingKeys entries) : AscendingKeys decoded := by
  have hkeys : List.Forall₂ (· = ·) (entries.map Prod.fst) (decoded.map Prod.fst) :=
    List.forall₂_map_left_iff.mpr (List.forall₂_map_right_iff.mpr (h.imp fun _ _ hk => hk.1.symm))
  rw [List.forall₂_eq_eq_eq] at hkeys
  have hmap : ∀ {ν : Type} {l : List (String × ν)},
      AscendingKeys l ↔ (l.map Prod.fst).Pairwise fun k k' => compare k k' = .lt := by
    intro ν l
    rw [List.pairwise_map, AscendingKeys]
  rwa [hmap, ← hkeys, ← hmap]

/-- Of organizations or groups all are kept. -/
theorem decodeAll_eq_ok_iff {requireState : Bool} {peers : SortedMap String Peers}
    {decoded : SortedMap String (List DiscoveredPeer)} :
    decodeAll requireState peers = .ok decoded ↔
      List.Forall₂ (Keeps requireState) peers.entries decoded.entries := by
  rw [decodeAll, bind_eq_ok_iff]
  constructor
  · rintro ⟨entries, hentries, h⟩
    have hkept := decodeEntries_eq_ok_iff.mp hentries
    have hascending := ascendingKeys_of_keeps hkept peers.ascending
    cases h
    rwa [SortedMap.entries_ofList hascending]
  · intro h
    exact ⟨decoded.entries, decodeEntries_eq_ok_iff.mpr h,
      congrArg Except.ok decoded.ofList_entries⟩

/-- The peers are read as a whole exactly if each of them is read. -/
theorem exists_decodeAll_eq_ok_iff {requireState : Bool} {peers : SortedMap String Peers} :
    (∃ decoded, decodeAll requireState peers = .ok decoded) ↔
      ∀ e ∈ peers.entries, ∀ peer ∈ e.2.peers, ∃ d, decode requireState peer = .ok d := by
  have hread : (∃ decoded, decodeAll requireState peers = .ok decoded) ↔
      ∃ entries, decodeEntries requireState peers.entries = .ok entries := by
    simp only [decodeAll, bind_eq_ok_iff]
    exact ⟨fun ⟨_, entries, h, _⟩ => ⟨entries, h⟩, fun ⟨entries, h⟩ => ⟨_, entries, h, rfl⟩⟩
  rw [hread, decodeEntries_eq_mapM, exists_mapM_eq_ok_iff]
  refine forall₂_congr fun e _ => ?_
  rw [← exists_mapM_eq_ok_iff]
  simp only [map_eq_ok_iff]
  exact ⟨fun ⟨_, peers, h, _⟩ => ⟨peers, h⟩, fun ⟨peers, h⟩ => ⟨_, peers, h, rfl⟩⟩

/-- Every peer that is kept was shown by one that was listed. -/
theorem exists_shows_of_decodeAll {requireState : Bool} {peers : SortedMap String Peers}
    {decoded : SortedMap String (List DiscoveredPeer)}
    (h : decodeAll requireState peers = .ok decoded) {d : DiscoveredPeer}
    (hd : d ∈ decoded.values.flatten) :
    ∃ e ∈ peers.entries, ∃ peer ∈ e.2.peers, peer.Shows requireState d := by
  obtain ⟨ds, hds, hd⟩ := List.mem_flatten.mp hd
  obtain ⟨kept, hkept, rfl⟩ := List.mem_map.mp hds
  obtain ⟨e, he, -, hpeers⟩ := exists_mem_of_forall₂ (decodeAll_eq_ok_iff.mp h) hkept
  exact ⟨e, he, exists_mem_of_forall₂ hpeers hd⟩

/-! ### Peers of a channel -/

/-- A peer that must have published its state has a ledger height. -/
theorem ledgerHeight_of_shows {peer : DiscoveryPeer} {d : DiscoveredPeer}
    (h : peer.Shows true d) : d.ledgerHeight.isSome := by
  rcases h.state with ⟨_, _, _, _, _, _, hheight, _⟩ | ⟨hrequired, _⟩
  · rw [hheight]
    rfl
  · cases hrequired

/-- All peers that were read have a ledger height and stand at the address that their name tells,
if they must have published their state. -/
theorem placed_of_decodeAll {peers : SortedMap String Peers}
    {decoded : SortedMap String (List DiscoveredPeer)} (h : decodeAll true peers = .ok decoded)
    {d : DiscoveredPeer} (hd : d ∈ decoded.values.flatten) :
    d.ledgerHeight.isSome ∧ Addresses d.name d.host d.port := by
  obtain ⟨_, _, _, _, hshows⟩ := exists_shows_of_decodeAll h hd
  exact ⟨ledgerHeight_of_shows hshows, hshows.address⟩

end DiscoveredPeer

/-! ### Sample peers -/

section Sample

open Codec (capacity)

variable {mspid text host : String} {port : UInt16} {height : UInt64} {chaincodes : List String}

/-- A sample message that a length of eight bytes can tell is read as its content. -/
theorem Sample.carries_gossip {content : GossipContent}
    (h : (Sample.gossip content).payload.length < capacity 8) :
    (Sample.gossip content).Carries content :=
  ⟨{ content }, (WireType.gossipMessage.reads h).1, rfl⟩

/-- A sample peer shows what it was made of. -/
theorem Sample.shows_channelPeer (haddress : Addresses text host port)
    (hfits : (Wire.codec (α := DiscoveryPeer)).Fits
      (Sample.channelPeer mspid text height chaincodes)) (requireState : Bool) :
    (Sample.channelPeer mspid text height chaincodes).Shows requireState
      { name := text, mspid, host, port, ledgerHeight := some ⟨height⟩
        chaincodes := chaincodes.map fun name => { name, version := "1.0" } } := by
  obtain ⟨hstate, hmembership, hidentity⟩ := hfits
  exact
    { owner := ⟨_, (WireType.serializedIdentity.reads hidentity.1).1, rfl⟩
      name := ⟨_, _, rfl, Sample.carries_gossip (hmembership _ rfl).1.1, rfl⟩
      address := haddress
      state := .inl ⟨_, _, _, rfl, Sample.carries_gossip (hstate _ rfl).1.1, rfl, rfl, rfl⟩ }

/-- A sample peer is read as what it was made of, unless its encoding is longer than a length of
eight bytes can tell. -/
theorem DiscoveredPeer.decode_channelPeer (hhost : host ≠ "") (requireState : Bool) :
    let name := s!"{host}:{port.toNat}"
    let peer := Sample.channelPeer mspid name height chaincodes
    decode requireState peer =
        .ok
          { name, mspid, host, port, ledgerHeight := some ⟨height⟩
            chaincodes := chaincodes.map fun name => { name, version := "1.0" } } ∨
      capacity 8 ≤ (Wire.encode peer).length := by
  intro name peer
  by_cases hlength : (Wire.encode peer).length < capacity 8
  · have hfits := (WireType.discoveryPeer.reads hlength).2
    have hshows := Sample.shows_channelPeer (addresses_toString hhost) hfits requireState
    exact .inl (decode_eq_ok_iff.mpr hshows)
  · exact .inr (Nat.le_of_not_lt hlength)

end Sample

/-! ### Plans -/

/-- A plan is read off the only descriptor, of which all groups and layouts are kept. -/
theorem decodePlan_eq_ok_iff {result : ChaincodeQueryResult} {plan : EndorsementPlan} :
    decodePlan result = .ok plan ↔ ∃ descriptor, result.content = [descriptor] ∧
      plan.chaincode = descriptor.chaincode ∧
      DiscoveredPeer.decodeAll true descriptor.endorsersByGroups = .ok plan.groups ∧
      plan.layouts = descriptor.layouts.map Layout.quantitiesByGroup := by
  rw [decodePlan]
  split
  · next descriptor hcontent =>
    rw [bind_eq_ok_iff]
    constructor
    · rintro ⟨groups, hgroups, h⟩
      cases h
      exact ⟨descriptor, hcontent, rfl, hgroups, rfl⟩
    · rintro ⟨descriptor', hcontent', hchaincode, hgroups, hlayouts⟩
      obtain rfl : descriptor = descriptor' := by simpa [hcontent] using hcontent'
      refine ⟨plan.groups, hgroups, ?_⟩
      rw [← hchaincode, ← hlayouts]
      rfl
  · next hcontent =>
    constructor
    · intro h
      cases h
    · rintro ⟨descriptor, hdescriptor, -⟩
      exact absurd hdescriptor (hcontent descriptor)

/-- A plan is read exactly if there is one descriptor and each of its peers is read. -/
theorem exists_decodePlan_eq_ok_iff {result : ChaincodeQueryResult} :
    (∃ plan, decodePlan result = .ok plan) ↔ ∃ descriptor, result.content = [descriptor] ∧
      ∀ group ∈ descriptor.endorsersByGroups.entries, ∀ peer ∈ group.2.peers,
        ∃ d, DiscoveredPeer.decode true peer = .ok d := by
  simp only [← DiscoveredPeer.exists_decodeAll_eq_ok_iff, decodePlan_eq_ok_iff]
  constructor
  · rintro ⟨plan, descriptor, hcontent, -, hgroups, -⟩
    exact ⟨descriptor, hcontent, plan.groups, hgroups⟩
  · rintro ⟨descriptor, hcontent, groups, hgroups⟩
    exact ⟨⟨_, groups, _⟩, descriptor, hcontent, rfl, hgroups, rfl⟩

/-! ### As a whole or not at all -/

/-- Memberships and plans are read as a whole or not at all: exactly if each listed peer is read,
and for a plan if there is one descriptor. Then all organizations or groups are kept with all
their peers in order, and all layouts. The peers of a channel have a ledger height and stand at
the address that their name tells. A sample peer is read as what it was made of. -/
theorem membership_whole :
    (∀ requireState peer d,
      DiscoveredPeer.decode requireState peer = .ok d ↔ peer.Shows requireState d) ∧
    (∀ (requireState : Bool) (result : PeerMembershipResult),
      ((∃ members, decodeMembers requireState result = .ok members) ↔
        ∀ org ∈ result.peersByOrg.entries, ∀ peer ∈ org.2.peers,
          ∃ d, DiscoveredPeer.decode requireState peer = .ok d) ∧
      ∀ members, decodeMembers requireState result = .ok members →
        List.Forall₂ (DiscoveredPeer.Keeps requireState) result.peersByOrg.entries
          members.entries ∧
        (requireState = true → ∀ d ∈ members.values.flatten,
          d.ledgerHeight.isSome ∧ Addresses d.name d.host d.port)) ∧
    (∀ result : ChaincodeQueryResult,
      ((∃ plan, decodePlan result = .ok plan) ↔ ∃ descriptor, result.content = [descriptor] ∧
        ∀ group ∈ descriptor.endorsersByGroups.entries, ∀ peer ∈ group.2.peers,
          ∃ d, DiscoveredPeer.decode true peer = .ok d) ∧
      ∀ plan, decodePlan result = .ok plan → ∃ descriptor, result.content = [descriptor] ∧
        plan.chaincode = descriptor.chaincode ∧
        List.Forall₂ (DiscoveredPeer.Keeps true) descriptor.endorsersByGroups.entries
          plan.groups.entries ∧
        plan.layouts = descriptor.layouts.map Layout.quantitiesByGroup ∧
        ∀ d ∈ plan.groups.values.flatten,
          d.ledgerHeight.isSome ∧ Addresses d.name d.host d.port) ∧
    ∀ (mspid host : String) (port : UInt16) (height : UInt64) (chaincodes : List String)
      (requireState : Bool), host ≠ "" →
        let name := s!"{host}:{port.toNat}"
        let peer := Sample.channelPeer mspid name height chaincodes
        DiscoveredPeer.decode requireState peer =
            .ok
              { name, mspid, host, port, ledgerHeight := some ⟨height⟩
                chaincodes := chaincodes.map fun name => { name, version := "1.0" } } ∨
          Codec.capacity 8 ≤ (Wire.encode peer).length := by
  refine ⟨fun _ _ _ => DiscoveredPeer.decode_eq_ok_iff, fun requireState result => ?_,
    fun result => ?_, fun _ _ _ _ _ _ hhost => DiscoveredPeer.decode_channelPeer hhost _⟩
  · refine ⟨DiscoveredPeer.exists_decodeAll_eq_ok_iff, fun members h => ?_⟩
    refine ⟨DiscoveredPeer.decodeAll_eq_ok_iff.mp h, ?_⟩
    rintro rfl d hd
    exact DiscoveredPeer.placed_of_decodeAll h hd
  · refine ⟨exists_decodePlan_eq_ok_iff, fun plan h => ?_⟩
    obtain ⟨descriptor, hcontent, hchaincode, hgroups, hlayouts⟩ := decodePlan_eq_ok_iff.mp h
    exact ⟨descriptor, hcontent, hchaincode, DiscoveredPeer.decodeAll_eq_ok_iff.mp hgroups,
      hlayouts, fun d hd => DiscoveredPeer.placed_of_decodeAll hgroups hd⟩

/-- A peer that has not published its state keeps the members of a channel from being read. -/
theorem membership_whole_sample :
    let name := "p1:7051"
    let peer := Sample.channelPeer "Org1" name 5 ["cc"]
    let result := Sample.members [("Org1", peer)]
    ("p1" ≠ "" ∧ ∃ d, DiscoveredPeer.decode true peer = .ok d ∧ d.host = "p1" ∧ d.port = 7051 ∧
        d.ledgerHeight = some ⟨5⟩) ∧
      (∃ members, decodeMembers true result = .ok members) ∧
      ¬ ∃ members, decodeMembers true (Sample.members
        [("Org1", peer), ("Org1", Sample.localPeer "Org1" "p2:7051")]) = .ok members := by
  intro name peer result
  obtain ⟨-, hmembers, -, hsample⟩ := membership_whole
  have hname : toString "p1" ++ toString ":" ++ toString (7051 : UInt16).toNat = name := by decide
  have hdecode := (hsample "Org1" "p1" 7051 5 ["cc"] true (by decide)).resolve_right
    (by rw [hname]; decide +kernel)
  rw [hname] at hdecode
  refine ⟨⟨by decide, _, hdecode, rfl, rfl, rfl⟩, ?_, ?_⟩
  · refine (hmembers true result).1.mpr fun org horg peer' hpeer' => ?_
    have hentries : result.peersByOrg.entries = [("Org1", { peers := [peer] })] := rfl
    obtain rfl := List.mem_singleton.mp (hentries ▸ horg)
    obtain rfl := List.mem_singleton.mp hpeer'
    exact ⟨_, hdecode⟩
  · rw [(hmembers true _).1]
    intro h
    obtain ⟨d, hd⟩ := h ("Org1", { peers := [peer, Sample.localPeer "Org1" "p2:7051"] })
      List.mem_cons_self _ (List.mem_cons_of_mem _ List.mem_cons_self)
    obtain ⟨_, _, _, hstate, _⟩ | ⟨hrequired, _⟩ := (DiscoveredPeer.decode_eq_ok_iff.mp hd).state
    · cases hstate
    · cases hrequired

end LedgerClient
