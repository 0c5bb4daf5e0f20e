import LedgerClient.Proofs.Discovery.Update

/-!
# Where discovered nodes are reached

A node that a discovery answer makes the client connect is reached as the answer tells. Its host
and port are the advertised ones, its protocol is the configured one or else like that of the
service that answered. With TLS the certificates of its organization are trusted: those of the
configuration in the same answer if it gives them, and otherwise those that the channel had
before. Providers are taken in before any node is connected, so it is the new certificates that
count.

## Main results

* `Roster.Joined.connected_link`: a connected link that is new was advertised.
* `ChannelDiscovery.newly_connected_endpoint`: the endpoint of a node that an answer connects.
-/

namespace LedgerClient

/-- A link that is connected when nodes have joined, and was not before, is that of a node that was
advertised. -/
theorem Roster.Joined.connected_link {k : NodeKind} {advertised attempts : List Advertised}
    {s s' : Roster k} (h : Roster.Joined advertised attempts s s') {i : Nat} {l : Link SiteId}
    (hl : s'.links[i]? = some l) (hconnected : l.isConnected = true)
    (hnew : (s.links[i]?).any Link.isConnected = false) :
    ∃ a ∈ advertised, ∃ site, l = a.link k (some site) := by
  rw [h.links, List.getElem?_append] at hl
  split at hl
  · rw [hl, Option.any_some, hconnected] at hnew
    cases hnew
  · obtain ⟨a, ha, rfl⟩ := List.mem_map.mp (List.mem_of_getElem? hl)
    cases hserving : s.network.serving? k a with
    | none =>
        rw [hserving] at hconnected
        cases hconnected
    | some site => exact ⟨a, h.sublist.subset ha, site, rfl⟩

namespace World

/-- A node is connected in a world, and was not in the one before. -/
structure NewlyConnected {k : NodeKind} (w w' : World) (id : NodeId k) (l : Link SiteId) :
    Prop where
  link : w'.link? id = some l
  connected : l.isConnected = true
  before : (w.link? id).any Link.isConnected = false

theorem not_newlyConnected_self {k : NodeKind} {w : World} {id : NodeId k} {l : Link SiteId} :
    ¬ w.NewlyConnected w id l := by
  rintro ⟨hlink, hconnected, hbefore⟩
  rw [hlink, Option.any_some, hconnected] at hbefore
  cases hbefore

namespace Grown

variable {id : ChannelId} {r : Reach} {t : DiscoveryTree} {c c' : Channel} {w w' : World}
  {orderers peers : List Advertised} {between : Network} {l : Link SiteId}

/-- Peers that are newly connected were advertised. -/
theorem newly_connected_peer (h : Grown id r t c c' w w' orderers peers between) {peer : PeerId}
    (hnew : w.NewlyConnected w' peer l) :
    ∃ d ∈ t.channelPeers, ∃ site, l = (r.peer c' d).link .peer (some site) := by
  obtain ⟨a, ha, site, hl⟩ := h.peers.connected_link
    ((w'.links_peerRoster c' peer).trans hnew.link) hnew.connected
    ((congrArg _ (w.links_peerRoster c peer)).trans hnew.before)
  obtain ⟨d, hd, rfl⟩ := List.mem_map.mp ha
  exact ⟨d, hd, site, hl⟩

/-- Orderers that are newly connected were advertised. -/
theorem newly_connected_orderer (h : Grown id r t c c' w w' orderers peers between)
    {orderer : OrdererId} (hnew : w.NewlyConnected w' orderer l) :
    ∃ o ∈ t.channelOrderers, ∃ site, l = (r.orderer c' o).link .orderer (some site) := by
  obtain ⟨a, ha, site, hl⟩ := h.orderers.connected_link hnew.link hnew.connected hnew.before
  obtain ⟨o, ho, rfl⟩ := List.mem_map.mp ha
  exact ⟨o, ho, site, hl⟩

end Grown

end World

/-- The provider of an id that an answer gives: that of its last configuration, if it can be
read. -/
def QueryResult.provider? (results : List QueryResult) (mspid : String) : Option MspInfo :=
  (lastConfig? results).bind fun config => (config.msps.get? mspid).bind (MspInfo.decode? mspid)

/-- The orderers of a channel are those of the last configuration, each with the id that it is
listed under. -/
theorem DiscoveryTree.Reads.exists_orderer {tags : List QueryTag} {results : List QueryResult}
    {t : DiscoveryTree} (h : Reads tags results {} t) {o : String × OrdererAddress}
    (ho : o ∈ t.channelOrderers) :
    ∃ config endpoints e, QueryResult.lastConfig? results = some config ∧
      config.orderers.get? o.1 = some endpoints ∧ e ∈ endpoints.endpoint ∧
      o.2 = .new e.host e.port := by
  rw [channelOrderers, h.orderers] at ho
  obtain ⟨⟨mspid, addresses⟩, hentry, ho⟩ := List.mem_flatMap.mp ho
  obtain ⟨address, haddress, rfl⟩ := List.mem_map.mp ho
  cases hlast : QueryResult.lastConfig? results with
  | none =>
      rw [hlast] at hentry
      cases hentry
  | some config =>
      rw [hlast] at hentry
      have hget := SortedMap.get?_eq_some_iff.mpr hentry
      rw [Option.map_some, Option.getD_some, decodeOrderers, SortedMap.get?_mapValues] at hget
      obtain ⟨endpoints, hendpoints, rfl⟩ := Option.map_eq_some_iff.mp hget
      obtain ⟨e, he, rfl⟩ := List.mem_map.mp haddress
      exact ⟨config, endpoints, e, rfl, hendpoints, he, rfl⟩

/-- The certificates that are trusted are the bundle of the provider, if there is one. -/
theorem discoveredEndpoint_eq (host : String) (port : UInt16) (protocol : Protocol)
    (asLocalhost : Bool) (msp : Option MspInfo) :
    discoveredEndpoint host port protocol asLocalhost msp =
      { protocol
        host := if asLocalhost then "localhost" else host
        port
        sslTarget := if asLocalhost then some host else none
        tlsRootCerts :=
          match protocol, msp with
          | .grpcs, some msp => Utf8.encode msp.tlsCaBundle
          | _, _ => [] } := by
  cases protocol <;> cases msp <;> rfl

namespace ChannelDiscovery

variable {d d' : ChannelDiscovery} {target : DiscovererId} {asLocalhost : Bool}
  {response : DiscoveryResponse} {w w' : World} {l : Link SiteId}

/-- A node is newly connected only if the answer was read and the channel is there to grow. The
channel has the providers of the answer then, and those it had before under other ids. -/
theorem exists_grown_of_newlyConnected {k : NodeKind} {id : NodeId k}
    (h : w.NewlyConnected (d.process target asLocalhost response w).2.2 id l) :
    ∃ t c c' orderers peers between, DiscoveryTree.Reads d.request.tags response.results {} t ∧
      World.Grown d.channel (d.reach target asLocalhost w) t c c' w
        (d.process target asLocalhost response w).2.2 orderers peers between ∧
      ∀ owner, c'.msps.get? owner = (QueryResult.provider? response.results owner).or
        ((w.channel? d.channel).bind fun c => c.msps.get? owner) := by
  rw [process] at h ⊢
  split at h
  · exact absurd h World.not_newlyConnected_self
  · next t hread =>
    have hreads := DiscoveryTree.reads_of_takeAll hread
    cases hc : w.channel? d.channel with
    | none =>
        rw [World.materialize_of_none hc] at h
        exact absurd h World.not_newlyConnected_self
    | some c =>
        obtain ⟨c', orderers, peers, between, hgrown⟩ :=
          World.materialize_grown (r := d.reach target asLocalhost w) hc (fun _ _ => hreads.msp_id)
            fun _ => hreads.ledgerHeight_isSome
        refine ⟨t, c, c', orderers, peers, between, hreads, hgrown, fun owner => ?_⟩
        rw [hgrown.msps owner, hreads.get?_msps, Option.bind_some]
        rfl

/-- The endpoint of a node that processing an answer connects. The owner of a peer is the
organization in its serialized identity, that of an orderer the one that it is listed under. The
owner's certificates are those of the last configuration in the same answer, if they can be read
there, and otherwise those of the provider that the channel had; there may be none. -/
theorem newly_connected_endpoint (d : ChannelDiscovery) (target : DiscovererId)
    (asLocalhost : Bool) (response : DiscoveryResponse) (w : World) :
    let w' := (d.process target asLocalhost response w).2.2
    let protocol := d.config.protocol.getD
      (if (w.link? target).any Link.isTls then .grpcs else .grpc)
    let provider? (owner : String) : Option MspInfo :=
      (QueryResult.provider? response.results owner).or
        ((w.channel? d.channel).bind fun c => c.msps.get? owner)
    let reachedAt (host : String) (port : UInt16) (owner : String) : Endpoint :=
      { protocol
        host := if asLocalhost then "localhost" else host
        port
        sslTarget := if asLocalhost then some host else none
        tlsRootCerts :=
          match protocol, provider? owner with
          | .grpcs, some msp => Utf8.encode msp.tlsCaBundle
          | _, _ => [] }
    (∀ (peer : PeerId) l, w.NewlyConnected w' peer l → ∃ listed advertised,
      QueryResult.Lists d.request.tags response.results listed ∧ listed.Shows true advertised ∧
        l.name = advertised.name ∧ l.mspid = some advertised.mspid ∧
        l.endpoint = some (reachedAt advertised.host advertised.port advertised.mspid)) ∧
    ∀ (orderer : OrdererId) l, w.NewlyConnected w' orderer l →
      ∃ config owner endpoints advertised,
        QueryResult.lastConfig? response.results = some config ∧
        config.orderers.get? owner = some endpoints ∧ advertised ∈ endpoints.endpoint ∧
        l.name = s!"{advertised.host}:{advertised.port.toNat}" ∧ l.mspid = some owner ∧
        l.endpoint = some (reachedAt advertised.host advertised.port owner) := by
  intro w' protocol provider? reachedAt
  -- When nodes are connected the channel has the providers of the answer already.
  have hreached : ∀ {c' : Channel}, (∀ owner, c'.msps.get? owner = provider? owner) →
      ∀ host port owner,
        (d.reach target asLocalhost w).endpoint host port owner c' = reachedAt host port owner := by
    intro c' hmsps host port owner
    rw [World.Reach.endpoint, hmsps]
    exact discoveredEndpoint_eq host port protocol asLocalhost (provider? owner)
  constructor
  · intro peer l hnew
    obtain ⟨t, c, c', orderers, peers, between, hreads, hgrown, hmsps⟩ :=
      exists_grown_of_newlyConnected hnew
    obtain ⟨advertised, hmem, site, rfl⟩ := hgrown.newly_connected_peer hnew
    obtain ⟨listed, hlisted, hshows⟩ := hreads.exists_lists hmem
    exact ⟨listed, advertised, hlisted, hshows, rfl, rfl, congrArg some (hreached hmsps _ _ _)⟩
  · intro orderer l hnew
    obtain ⟨t, c, c', orderers, peers, between, hreads, hgrown, hmsps⟩ :=
      exists_grown_of_newlyConnected hnew
    obtain ⟨⟨owner, address⟩, hmem, site, rfl⟩ := hgrown.newly_connected_orderer hnew
    obtain ⟨config, endpoints, e, hlast, hendpoints, he, haddress⟩ := hreads.exists_orderer hmem
    obtain rfl : address = .new e.host e.port := haddress
    exact ⟨config, owner, endpoints, e, hlast, hendpoints, he, rfl, rfl,
      congrArg some (hreached hmsps _ _ _)⟩

end ChannelDiscovery

/-- A client with a channel, a service that it is connected to with TLS, and a host at which a
peer is reached. -/
def World.secured : World :=
  { network :=
      { endorsers :=
          { sites := ⟨[{ behaviour := { reply := .hang } }]⟩
            addresses := .ofList [("localhost:1", ⟨0⟩)] } }
    discoverers := ⟨[
      { name := "d"
        kind := .discovery
        mspid := none
        endpoint := some { protocol := .grpcs, host := "d", port := 1 }
        client := some ⟨0⟩ }]⟩
    channels := ⟨[{ name := "ch" }]⟩ }

/-- A peer that an answer of this service names is connected with the certificates of the answer,
under its own name at another host. -/
theorem ChannelDiscovery.newly_connected_endpoint_secured :
    ∃ (peer : PeerId) (l : Link SiteId) (advertised : DiscoveredPeer),
      World.secured.NewlyConnected
        (inquisitive.process ⟨0⟩ true .overlapping World.secured).2.2 peer l ∧
      (∃ listed, QueryResult.Lists inquisitive.request.tags DiscoveryResponse.overlapping.results
        listed ∧ listed.Shows true advertised) ∧
      l.name = advertised.name ∧
      l.endpoint = some
        { protocol := .grpcs
          host := "localhost"
          port := advertised.port
          sslTarget := some advertised.host
          tlsRootCerts := Utf8.encode "TLS" } := by
  have hlink : ((inquisitive.process ⟨0⟩ true .overlapping World.secured).2.2.link?
      (⟨0⟩ : PeerId)).map (fun l => (l.isConnected, l.mspid)) = some (true, some "Org1") := by
    decide +kernel
  obtain ⟨l, hl, heq⟩ := Option.map_eq_some_iff.mp hlink
  obtain ⟨hconnected, howner⟩ := Prod.mk.inj heq
  have hnew : World.secured.NewlyConnected _ ⟨0⟩ l := ⟨hl, hconnected, rfl⟩
  obtain ⟨listed, advertised, hlisted, hshows, hname, hmspid, hendpoint⟩ :=
    (newly_connected_endpoint inquisitive ⟨0⟩ true .overlapping World.secured).1 ⟨0⟩ l hnew
  have hprovider : (QueryResult.provider? DiscoveryResponse.overlapping.results "Org1").map
      MspInfo.tlsCaBundle = some "TLS" := by
    decide +kernel
  obtain ⟨msp, hmsp, hbundle⟩ := Option.map_eq_some_iff.mp hprovider
  obtain hmspid : "Org1" = advertised.mspid := Option.some.inj (howner.symm.trans hmspid)
  refine ⟨⟨0⟩, l, advertised, hnew, ⟨listed, hlisted, hshows⟩, hname, hendpoint.trans ?_⟩
  dsimp only
  rw [← hmspid, hmsp, ← hbundle]
  rfl

end LedgerClient
