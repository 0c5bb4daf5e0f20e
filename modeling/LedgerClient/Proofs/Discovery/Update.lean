import LedgerClient.Proofs.Discovery.Materialize

/-!
# What an answer changes about a channel

Whatever nodes a channel has and whatever an answer names, an answer that is processed does the
same: the providers it gives take the place of those with the same ids, the orderers and peers
that it names join, each peer it names has the state that its last occurrence tells, and all
else is as it was.

## Main results

* `World.materialize_grown`: bringing a channel up to date with a tree.
* `ChannelDiscovery.process_updates`: processing an answer, and processing it again.
-/

namespace LedgerClient

namespace World

/-- A channel keeps its orderers under their own names. -/
def CommittersNamed (channel : ChannelId) (w : World) : Prop :=
  ∀ c, w.channel? channel = some c → ∀ name id, c.committers.get? name = some id →
    (w.link? id).map Link.name = some name

/-- What bringing a channel up to date with a tree does to the world: `orderers` and `peers` are
those that were tried to connect, `between` is the network when all orderers had been tried. -/
structure Updated (id : ChannelId) (r : Reach) (t : DiscoveryTree) (c c' : Channel) (w w' : World)
    (orderers peers : List Advertised) (between : Network) : Prop where
  /-- Other channels are as they were. -/
  channels : w'.channels = w.channels.set id.index c'
  name : c'.name = c.name
  /-- The providers of the tree take the place of those with the same ids. -/
  msps : ∀ mspid, c'.msps.get? mspid = (t.msps.get? mspid).or (c.msps.get? mspid)
  /-- The orderers of the tree join. -/
  orderers : Roster.Joined (t.channelOrderers.map (r.orderer c')) orderers (w.ordererRoster c)
    { w'.ordererRoster c' with network := between }
  /-- So do the peers that belong to the channel; local peers do not. -/
  peers : Roster.Joined (t.channelPeers.map (r.peer c')) peers
    { w.peerRoster c with network := between } (w'.peerRoster c')
  /-- The states of the peers that the tree names are noted. -/
  noted : Noted (w'.peerRoster c') t.channelPeers w.peers.rows w'.peers.rows
  eventers : w'.eventers = w.eventers
  discoverers : w'.discoverers = w.discoverers

/-- How a channel grows when it is brought up to date with a tree, under whatever names it has its
peers; their states are noted if these are their own names. -/
structure Grown (id : ChannelId) (r : Reach) (t : DiscoveryTree) (c c' : Channel) (w w' : World)
    (orderers peers : List Advertised) (between : Network) : Prop where
  channels : w'.channels = w.channels.set id.index c'
  name : c'.name = c.name
  msps : ∀ mspid, c'.msps.get? mspid = (t.msps.get? mspid).or (c.msps.get? mspid)
  orderers : Roster.Joined (t.channelOrderers.map (r.orderer c')) orderers (w.ordererRoster c)
    { w'.ordererRoster c' with network := between }
  peers : Roster.Joined (t.channelPeers.map (r.peer c')) peers
    { w.peerRoster c with network := between } (w'.peerRoster c')
  noted : (w.peerRoster c).Named → Noted (w'.peerRoster c') t.channelPeers w.peers.rows w'.peers.rows
  eventers : w'.eventers = w.eventers
  discoverers : w'.discoverers = w.discoverers

variable {id : ChannelId} {r : Reach} {t : DiscoveryTree} {c c' : Channel} {w w' : World}
  {orderers peers : List Advertised} {between : Network}

theorem EndorsersNamed.named (h : w.EndorsersNamed id) (hc : w.channel? id = some c) :
    (w.peerRoster c).Named := by
  intro name peer hget
  rw [links_peerRoster]
  exact h c hc name peer hget

theorem CommittersNamed.named (h : w.CommittersNamed id) (hc : w.channel? id = some c) :
    (w.ordererRoster c).Named :=
  h c hc

/-- Providers that are added take the place of those with the same ids. -/
theorem get?_foldl_msps {msps : SortedMap String MspInfo}
    (hids : ∀ mspid msp, msps.get? mspid = some msp → msp.id = mspid) (c : Channel)
    (mspid : String) :
    (msps.values.foldl (fun m msp => m.insert msp.id msp) c.msps).get? mspid =
      (msps.get? mspid).or (c.msps.get? mspid) := by
  rw [← SortedMap.get?_foldl_entries, SortedMap.values, List.foldl_map]
  congr 1
  refine List.foldl_ext _ _ _ fun m e he => ?_
  rw [hids e.1 e.2 (SortedMap.get?_eq_some_iff.mpr he)]

/-- Without the channel nothing is connected. -/
theorem materialize_of_none (h : w.channel? id = none) (r : Reach)
    (t : DiscoveryTree) : w.materialize id r t = w := by
  have hmsps : w.addMsps id t.msps.values = w := by rw [addMsps, h]
  have horderers : t.channelOrderers.foldl (fun w o => w.addOrderer id r o.1 o.2) w = w :=
    List.foldl_fixed' (fun o => by rw [addOrderer, h]) _
  have hpeers : t.channelPeers.foldl (fun w d => w.addPeer id r d) w = w :=
    List.foldl_fixed' (fun d => by rw [addPeer, h]) _
  rw [materialize, hmsps, horderers, hpeers]

/-- Bringing a channel up to date with a tree, in which providers stand under their ids and
peers have published their states. -/
theorem materialize_grown (hc : w.channel? id = some c)
    (hids : ∀ mspid msp, t.msps.get? mspid = some msp → msp.id = mspid)
    (hstate : ∀ d ∈ t.channelPeers, d.ledgerHeight.isSome) :
    ∃ c' orderers peers between,
      Grown id r t c c' w (w.materialize id r t) orderers peers between := by
  have hid : (w.channel? id).isSome := by rw [hc]; rfl
  let c₁ : Channel :=
    { c with msps := t.msps.values.foldl (fun m msp => m.insert msp.id msp) c.msps }
  have hmsps : w.addMsps id t.msps.values = w.withOrderers id c₁ (w.ordererRoster c) := by
    rw [addMsps, hc]
    rfl
  let s₁ := (t.channelOrderers.map (r.orderer c₁)).foldl (fun s a => s.join a) (w.ordererRoster c)
  obtain ⟨orderers, horderers⟩ :=
    Roster.joined_foldl_join (t.channelOrderers.map (r.orderer c₁)) (w.ordererRoster c)
  let c₂ : Channel := { c₁ with committers := s₁.members }
  let s₀ : Roster .peer := { w.peerRoster c with network := s₁.network }
  let w₁ := w.withOrderers id c₁ s₁
  have hid₁ : (w₁.channel? id).isSome := by rw [channel?_withOrderers hid]; rfl
  have hpeers₀ : w₁.withPeers id c₂ s₀ w.peers.rows = w₁ := by
    simp only [w₁, withPeers, withOrderers, Table.set_set]
    rfl
  have hrows₀ : w.peers.rows.map Peer.link = s₀.links := rfl
  obtain ⟨rows, hfold, hlinks, hnoted⟩ := foldl_addPeer (r := r) (c := c₂) hid₁ hrows₀ hstate
  obtain ⟨peers, hpeers⟩ := Roster.joined_foldl_join (t.channelPeers.map (r.peer c₂)) s₀
  let s₂ := (t.channelPeers.map (r.peer c₂)).foldl (fun s a => s.join a) s₀
  have hworld : w.materialize id r t = w₁.withPeers id c₂ s₂ rows := by
    rw [materialize, hmsps, foldl_addOrderer hid, ← hfold, hpeers₀]
  have hrows : (w₁.withPeers id c₂ s₂ rows).peerRoster { c₂ with endorsers := s₂.members } =
      s₂ := by
    simp only [peerRoster, withPeers, hlinks]
    rfl
  rw [hworld]
  refine ⟨{ c₂ with endorsers := s₂.members }, orderers, peers, s₁.network, ?_⟩
  exact {
    channels := by
      simp only [w₁, withPeers, withOrderers, Table.set_set]
    name := rfl
    msps := get?_foldl_msps hids c
    orderers := horderers
    peers := by
      rw [hrows]
      exact hpeers
    noted := by
      rw [hrows]
      exact hnoted
    eventers := rfl
    discoverers := rfl }

/-- The channel that has grown. -/
theorem Grown.channel?_eq (h : Grown id r t c c' w w' orderers peers between)
    (hc : w.channel? id = some c) : w'.channel? id = some c' := by
  rw [channel?] at hc ⊢
  rw [h.channels, Table.get?_set_self, hc]
  rfl

/-- Where the channel has its peers under their own names, their states are noted. -/
theorem materialize_updated (hc : w.channel? id = some c) (hnamed : w.EndorsersNamed id)
    (hids : ∀ mspid msp, t.msps.get? mspid = some msp → msp.id = mspid)
    (hstate : ∀ d ∈ t.channelPeers, d.ledgerHeight.isSome) :
    ∃ c' orderers peers between,
      Updated id r t c c' w (w.materialize id r t) orderers peers between := by
  obtain ⟨c', orderers, peers, between, hgrown⟩ := materialize_grown (r := r) hc hids hstate
  exact ⟨c', orderers, peers, between, { hgrown with noted := hgrown.noted (hnamed.named hc) }⟩

end World

/-- The readable providers of a configuration. -/
theorem get?_decodeMsps (config : ConfigResult) (mspid : String) :
    (decodeMsps config).get? mspid = (config.msps.get? mspid).bind (MspInfo.decode? mspid) :=
  SortedMap.get?_ofList_filterMap MspInfo.decode? config.msps mspid

/-- A provider that is read has the id that it is read under. -/
theorem MspInfo.id_of_decode? {mspid : String} {config : MspConfig} {msp : MspInfo}
    (h : MspInfo.decode? mspid config = some msp) : msp.id = mspid := by
  rw [decode?] at h
  split at h
  · cases h
  · cases h
    rfl

namespace DiscoveryTree

/-- The providers that are read of an answer. -/
theorem Reads.get?_msps {tags : List QueryTag} {results : List QueryResult} {t : DiscoveryTree}
    (h : Reads tags results {} t) (mspid : String) :
    t.msps.get? mspid = (QueryResult.lastConfig? results).bind fun config =>
      (config.msps.get? mspid).bind (MspInfo.decode? mspid) := by
  rw [h.msps]
  cases QueryResult.lastConfig? results with
  | none => rfl
  | some config => exact get?_decodeMsps config mspid

/-- Providers are read under their own ids. -/
theorem Reads.msp_id {tags : List QueryTag} {results : List QueryResult} {t : DiscoveryTree}
    (h : Reads tags results {} t) {mspid : String} {msp : MspInfo}
    (hget : t.msps.get? mspid = some msp) : msp.id = mspid := by
  rw [h.get?_msps] at hget
  obtain ⟨config, -, hget⟩ := Option.bind_eq_some_iff.mp hget
  obtain ⟨encoded, -, hdecode⟩ := Option.bind_eq_some_iff.mp hget
  exact MspInfo.id_of_decode? hdecode

end DiscoveryTree

namespace ChannelDiscovery

variable {d d' : ChannelDiscovery} {target : DiscovererId} {asLocalhost : Bool}
  {response : DiscoveryResponse} {c : Channel} {w w' : World} {results : DiscoveryResults}

/-- An answer that is processed was read completely. -/
theorem of_process (h : d.process target asLocalhost response w = (.ok results, d', w')) :
    DiscoveryTree.ofResponse d.request.tags response = .ok results.tree ∧
      d' = { d with results := some results } ∧
      w' = w.materialize d.channel (d.reach target asLocalhost w) results.tree := by
  rw [process] at h
  split at h
  · cases h
  · next tree htree =>
    cases h
    exact ⟨htree, rfl, rfl⟩

/-- An answer that can be read is processed. -/
theorem exists_process {tree : DiscoveryTree}
    (hread : DiscoveryTree.ofResponse d.request.tags response = .ok tree) (target : DiscovererId)
    (asLocalhost : Bool) (w : World) :
    ∃ results d' w', results.tree = tree ∧
      d.process target asLocalhost response w = (.ok results, d', w') := by
  rw [process, hread]
  exact ⟨_, _, _, rfl, rfl⟩

/-- What processing an answer changes. -/
theorem updated_of_process (hc : w.channel? d.channel = some c)
    (hnamed : w.EndorsersNamed d.channel)
    (h : d.process target asLocalhost response w = (.ok results, d', w')) :
    ∃ c' orderers peers between,
      World.Updated d.channel (d.reach target asLocalhost w) results.tree c c' w w' orderers peers
        between := by
  obtain ⟨hread, -, rfl⟩ := of_process h
  have hreads := DiscoveryTree.reads_of_takeAll hread
  exact World.materialize_updated hc hnamed (fun _ _ => hreads.msp_id)
    fun _ => hreads.ledgerHeight_isSome

/-- What processing an answer does, whatever the channel has and whatever the answer names. Of
several entries of one kind the last one is read. The readable providers take the place of those
with the same ids; orderers and peers join; every peer that the answer names, and that the
channel has in the end, has the ledger height and chaincodes of its last occurrence, and all
other peers are as they were. The same answer can be processed again, as an answer of any
service, and then it tries to connect no node that the channel has. -/
theorem process_updates (hc : w.channel? d.channel = some c) (hnamed : w.EndorsersNamed d.channel)
    (h : d.process target asLocalhost response w = (.ok results, d', w')) :
    DiscoveryTree.Reads d.request.tags response.results {} results.tree ∧
      ∃ c' orderers peers between,
        World.Updated d.channel (d.reach target asLocalhost w) results.tree c c' w w' orderers peers
          between ∧
        (∀ mspid, c'.msps.get? mspid =
          ((QueryResult.lastConfig? response.results).bind fun config =>
            (config.msps.get? mspid).bind (MspInfo.decode? mspid)).or (c.msps.get? mspid)) ∧
        (∀ advertised ∈ results.tree.channelPeers, ∀ peer,
          c'.endorsers.get? advertised.name = some peer → ∃ last p,
            results.tree.channelPeers.reverse.find? (·.name == advertised.name) = some last ∧
              w'.peers.get? peer.index = some p ∧ last.ledgerHeight.isSome ∧
              p.ledgerHeight = last.ledgerHeight ∧ p.chaincodes = last.chaincodes) ∧
        ∀ target' asLocalhost', ∃ results' d'' w'' c'' orderers' peers' between',
          d'.process target' asLocalhost' response w' = (.ok results', d'', w'') ∧
            results'.tree = results.tree ∧
            World.Updated d.channel (d'.reach target' asLocalhost' w') results.tree c' c'' w' w''
              orderers' peers' between' ∧
            (∀ a ∈ orderers', c'.committers.get? a.name = none) ∧
            ∀ a ∈ peers', c'.endorsers.get? a.name = none := by
  obtain ⟨hread, hd', -⟩ := of_process h
  have hreads := DiscoveryTree.reads_of_takeAll hread
  obtain ⟨c', orderers, peers, between, hupdated⟩ := updated_of_process hc hnamed h
  refine ⟨hreads, c', orderers, peers, between, hupdated, ?_, ?_, ?_⟩
  · intro mspid
    rw [hupdated.msps, hreads.get?_msps]
  · intro advertised hadvertised peer hget
    have hsome : (results.tree.channelPeers.reverse.find? (·.name == advertised.name)).isSome :=
      List.find?_isSome.mpr ⟨advertised, List.mem_reverse.mpr hadvertised, by simp⟩
    obtain ⟨last, hlast⟩ := Option.isSome_iff_exists.mp hsome
    have hnamed' : (w'.peerRoster c').Named :=
      Roster.Named.joined (s := { w.peerRoster c with network := between }) (hnamed.named hc)
        hupdated.peers
    obtain ⟨l, hl, -⟩ := Option.map_eq_some_iff.mp (hnamed' advertised.name peer hget)
    rw [World.peerRoster, List.getElem?_map] at hl
    obtain ⟨p, hp, -⟩ := Option.map_eq_some_iff.mp hl
    exact ⟨last, p, hlast, hp,
      hreads.ledgerHeight_isSome (List.mem_reverse.mp (List.mem_of_find?_eq_some hlast)),
      hupdated.noted.last hget hlast hp⟩
  · intro target' asLocalhost'
    have hc' : w'.channel? d'.channel = some c' := by
      rw [hd', World.channel?, hupdated.channels, Table.get?_set_self]
      rw [World.channel?] at hc
      rw [hc]
      rfl
    have hnamed' : w'.EndorsersNamed d'.channel := by
      have hkept := process_endorsersNamed target asLocalhost response hnamed
      rw [h] at hkept
      exact hkept.2 ▸ hkept.1
    have hread' : DiscoveryTree.ofResponse d'.request.tags response = .ok results.tree := by
      rw [hd']
      exact hread
    obtain ⟨results', d'', w'', htree, hprocess⟩ := exists_process hread' target' asLocalhost' w'
    obtain ⟨c'', orderers', peers', between', hupdated'⟩ := updated_of_process hc' hnamed' hprocess
    rw [htree, show d'.channel = d.channel by rw [hd']] at hupdated'
    exact ⟨results', d'', w'', c'', orderers', peers', between', hprocess, htree, hupdated',
      hupdated'.orderers.absent, hupdated'.peers.absent⟩

/-! ### An answer that overlaps with the channel -/

end ChannelDiscovery

/-- A channel with one connected peer, a service for two peers and one for an orderer. -/
def World.inhabited : World :=
  { network :=
      { endorsers :=
          { sites := ⟨[{ behaviour := { reply := .hang } }]⟩
            addresses := .ofList [("p1:1", ⟨0⟩), ("p2:1", ⟨0⟩), ("p3:1", ⟨0⟩)] }
        orderers :=
          { sites := ⟨[{ behaviour := { reply := .hang } }]⟩
            addresses := .ofList [("o1:7050", ⟨0⟩)] } }
    peers := ⟨[{ link :=
      { name := "p1:1", kind := .endorser, mspid := none, client := some ⟨0⟩ } }]⟩
    channels := ⟨[{ name := "ch", endorsers := SortedMap.empty.insert "p1:1" ⟨0⟩ }]⟩ }

/-- An answer that names the peer of the channel, a second peer twice, a local peer, and two
orderers of which only one can be connected. -/
def DiscoveryResponse.overlapping : DiscoveryResponse :=
  let first := Sample.channelPeer "Org1" "p1:1" 5 ["cc"]
  let second := Sample.channelPeer "Org1" "p2:1" 6 ["cc"]
  { results := [
      .config (Sample.configResult [("Org1", "TLS")]
        [("Orderers", "o1", 7050), ("Orderers", "o2", 7050)]),
      .members (Sample.members [("Org1", first), ("Org1", second)]),
      .members (Sample.members [("Org1", Sample.localPeer "Org1" "p3:1")]),
      .chaincodes (Sample.endorsementPlan "cc"
        [("G", [Sample.channelPeer "Org1" "p2:1" 9 ["cc"]])] [])] }

/-- A discovery of this channel that has asked for all of it. -/
def ChannelDiscovery.inquisitive : ChannelDiscovery :=
  { name := "d"
    channel := ⟨0⟩
    config := {}
    request := { tags := [.config, .members, .localPeers, .chaincode] } }

theorem World.inhabited_endorsersNamed : World.inhabited.EndorsersNamed ⟨0⟩ := by
  intro c hc name id hget
  obtain rfl := Option.some.inj hc
  rw [SortedMap.get?_insert] at hget
  split at hget
  · next heq =>
    obtain rfl := Option.some.inj hget
    rw [heq]
    rfl
  · cases hget

/-- The answer is processed, and the channel has what it names. -/
theorem ChannelDiscovery.process_updates_overlapping :
    ∃ results d' w' c c' orderers peers between,
      inquisitive.process ⟨0⟩ false .overlapping .inhabited = (.ok results, d', w') ∧
        World.Updated ⟨0⟩ (inquisitive.reach ⟨0⟩ false .inhabited) results.tree c c' .inhabited w'
          orderers peers between := by
  have hprocess : ∃ results d' w',
      inquisitive.process ⟨0⟩ false .overlapping .inhabited = (.ok results, d', w') :=
    ⟨_, _, _, rfl⟩
  obtain ⟨results, d', w', hprocess⟩ := hprocess
  obtain ⟨-, c', orderers, peers, between, hupdated, -⟩ :=
    process_updates rfl World.inhabited_endorsersNamed hprocess
  exact ⟨results, d', w', _, c', orderers, peers, between, hprocess, hupdated⟩

end LedgerClient
