import LedgerClient.Proofs.Discovery.Peers
import LedgerClient.Proofs.Discovery.Reading
import LedgerClient.Proofs.Discovery.Roster
import Mathlib.Data.List.Induction

/-!
# Bringing a channel up to date

A discovery answer updates a channel in three steps: its providers take the place of those with
the same ids, then its orderers join, then its peers. Each of the last two steps works
on a roster and leaves everything else alone, except that the state of the ledger is noted for
every peer of the answer that the channel has, as its last occurrence tells it.

## Main results

* `World.foldl_addOrderer`, `World.foldl_addPeer`: adding orderers and peers lets them join.
* `World.Noted.snoc`: what is noted about peers, one peer after the other.
-/

namespace LedgerClient

namespace World

variable {id : ChannelId} {c : Channel} {r : Reach} {w : World}

/-- An orderer as an answer advertises it. -/
def Reach.orderer (r : Reach) (c : Channel) (o : String × OrdererAddress) : Advertised where
  name := o.2.name
  mspid := o.1
  endpoint := r.endpoint o.2.host o.2.port o.1 c

/-- A peer as an answer advertises it. -/
def Reach.peer (r : Reach) (c : Channel) (d : DiscoveredPeer) : Advertised where
  name := d.name
  mspid := d.mspid
  endpoint := r.endpoint d.host d.port d.mspid c

/-! ### Orderers -/

/-- The orderers of a client, and those of a channel. -/
def ordererRoster (c : Channel) (w : World) : Roster .orderer where
  links := w.orderers.rows
  members := c.committers
  network := w.network

/-- The world in which a client and a channel have the orderers of a roster. -/
def withOrderers (id : ChannelId) (c : Channel) (s : Roster .orderer) (w : World) : World :=
  { w with
    network := s.network
    orderers := ⟨s.links⟩
    channels := w.channels.set id.index { c with committers := s.members } }

theorem channel?_withOrderers (hid : (w.channel? id).isSome) (s : Roster .orderer) :
    (w.withOrderers id c s).channel? id = some { c with committers := s.members } := by
  obtain ⟨c₀, hc₀⟩ := Option.isSome_iff_exists.mp hid
  rw [channel?] at hc₀
  simp [withOrderers, channel?, Table.get?_set_self, hc₀]

/-- Making an orderer and connecting it as it is advertised. -/
theorem connect_addNode_orderer (a : Advertised) (w : World) :
    ∃ result, ConnectsTo (w.network.serving? .orderer a) result ∧
      (w.addNode .orderer a.name (some a.mspid)).2.connect
          (w.addNode .orderer a.name (some a.mspid)).1 a.endpoint =
        (result, { w with
          network := w.network.attempt .orderer a.endpoint
          orderers := ⟨w.orderers.rows ++ [a.link .orderer (w.network.serving? .orderer a)]⟩ }) := by
  obtain ⟨result, hresult, hconnect⟩ :=
    a.connect .orderer (w.addNode .orderer a.name (some a.mspid)).2
  have hlink : (w.addNode .orderer a.name (some a.mspid)).2.link?
      (w.addNode .orderer a.name (some a.mspid)).1 =
        some { name := a.name, kind := .broadcast, mspid := some a.mspid } :=
    Table.get?_push_size _ _
  refine ⟨result, hresult, ?_⟩
  simp only [World.connect, hlink]
  rw [show ServiceKind.broadcast = NodeKind.orderer.service from rfl, hconnect]
  simp [setLink, addNode, Table.set, Table.push, Table.size]

/-- An orderer that is added joins. -/
theorem addOrderer_withOrderers (hid : (w.channel? id).isSome) (s : Roster .orderer)
    (o : String × OrdererAddress) :
    (w.withOrderers id c s).addOrderer id r o.1 o.2 =
      w.withOrderers id c (s.join (r.orderer c o)) := by
  rw [addOrderer, channel?_withOrderers hid]
  simp only
  cases hname : s.members.get? o.2.name with
  | some known =>
      rw [if_pos (by simp [SortedMap.contains, hname]), Roster.join_of_taken hname]
  | none =>
      rw [if_neg (by simp [SortedMap.contains, hname]), Roster.join_of_free hname]
      obtain ⟨result, hresult, hconnect⟩ :=
        connect_addNode_orderer (r.orderer c o) (w.withOrderers id c s)
      simp only [show (w.withOrderers id c s).network = s.network from rfl] at hresult hconnect
      -- Where orderers are reached does not depend on which of them the channel has.
      simp only [show r.endpoint o.2.host o.2.port o.1 { c with committers := s.members } =
        (r.orderer c o).endpoint from rfl]
      rw [show o.2.name = (r.orderer c o).name from rfl, show o.1 = (r.orderer c o).mspid from rfl,
        hconnect]
      cases hserving : s.network.serving? .orderer (r.orderer c o) with
      | none =>
          rw [hserving] at hresult
          obtain ⟨error, rfl⟩ := hresult
          rfl
      | some site =>
          rw [hserving] at hresult
          obtain rfl := hresult
          simp only [setChannel, withOrderers, Table.set_set]
          rfl

/-- Orderers that are added join one after the other. -/
theorem foldl_addOrderer (hid : (w.channel? id).isSome) (orderers : List (String × OrdererAddress))
    (s : Roster .orderer) :
    orderers.foldl (fun w o => w.addOrderer id r o.1 o.2) (w.withOrderers id c s) =
      w.withOrderers id c ((orderers.map (r.orderer c)).foldl (fun s a => s.join a) s) := by
  induction orderers generalizing s with
  | nil => rfl
  | cons o rest ih => rw [List.foldl_cons, addOrderer_withOrderers hid, ih, List.map_cons,
      List.foldl_cons]

/-! ### Peers -/

/-- The peers of a client, and those of a channel. -/
def peerRoster (c : Channel) (w : World) : Roster .peer where
  links := w.peers.rows.map Peer.link
  members := c.endorsers
  network := w.network

/-- The links in a roster are those of the peers. -/
theorem links_peerRoster (w : World) (c : Channel) (peer : PeerId) :
    (w.peerRoster c).links[peer.index]? = w.link? peer := by
  rw [peerRoster, List.getElem?_map]
  rfl

/-- The world in which a client has certain peers, and a channel those of a roster. -/
def withPeers (id : ChannelId) (c : Channel) (s : Roster .peer) (peers : List (Peer SiteId))
    (w : World) : World :=
  { w with
    network := s.network
    peers := ⟨peers⟩
    channels := w.channels.set id.index { c with endorsers := s.members } }

theorem channel?_withPeers (hid : (w.channel? id).isSome) (s : Roster .peer)
    (peers : List (Peer SiteId)) :
    (w.withPeers id c s peers).channel? id = some { c with endorsers := s.members } := by
  obtain ⟨c₀, hc₀⟩ := Option.isSome_iff_exists.mp hid
  rw [channel?] at hc₀
  simp [withPeers, channel?, Table.get?_set_self, hc₀]

/-- Making a peer and connecting it as it is advertised. -/
theorem connect_addNode_peer (a : Advertised) (w : World) :
    ∃ result, ConnectsTo (w.network.serving? .peer a) result ∧
      (w.addNode .peer a.name (some a.mspid)).2.connect
          (w.addNode .peer a.name (some a.mspid)).1 a.endpoint =
        (result, { w with
          network := w.network.attempt .peer a.endpoint
          peers := ⟨w.peers.rows ++ [{ link := a.link .peer (w.network.serving? .peer a) }]⟩ }) := by
  obtain ⟨result, hresult, hconnect⟩ :=
    a.connect .peer (w.addNode .peer a.name (some a.mspid)).2
  have hlink : (w.addNode .peer a.name (some a.mspid)).2.link?
      (w.addNode .peer a.name (some a.mspid)).1 =
        some { name := a.name, kind := .endorser, mspid := some a.mspid } := by
    simp [addNode, link?]
  refine ⟨result, hresult, ?_⟩
  simp only [World.connect, hlink]
  rw [show ServiceKind.endorser = NodeKind.peer.service from rfl, hconnect]
  simp [setLink, addNode, Table.modify, Table.push, Table.size, List.modify_eq_take_drop]

/-- What is noted about the peers of a client when those of an answer have joined a channel,
with the roster `s` as it is then. -/
structure Noted (s : Roster .peer) (advertised : List DiscoveredPeer)
    (peers peers' : List (Peer SiteId)) : Prop where
  links : peers'.map Peer.link = s.links
  /-- Whom the answer does not name stays as it was. -/
  others : ∀ {i p}, peers[i]? = some p → (∀ d ∈ advertised, s.members.get? d.name ≠ some ⟨i⟩) →
    peers'[i]? = some p
  /-- Of whom the answer names, the last occurrence counts. -/
  last : ∀ {name peer d p}, s.members.get? name = some peer →
    advertised.reverse.find? (·.name == name) = some d → peers'[peer.index]? = some p →
    p.ledgerHeight = d.ledgerHeight ∧ p.chaincodes = d.chaincodes

/-- A peer that the channel does not have is not noted. -/
theorem Noted.of_unknown {s : Roster .peer} {d : DiscoveredPeer} {peers peers' : List (Peer SiteId)}
    (hlinks : peers'.map Peer.link = s.links)
    (hold : ∀ {i : Nat} {p}, peers[i]? = some p → peers'[i]? = some p)
    (hunknown : s.members.get? d.name = none) : Noted s [d] peers peers' where
  links := hlinks
  others := fun hp _ => hold hp
  last := by
    intro name peer d' p hget hlast _
    obtain rfl := List.mem_singleton.mp (List.mem_of_find?_eq_some hlast)
    have hname : d'.name = name := by simpa using List.find?_some hlast
    rw [hname, hget] at hunknown
    cases hunknown

/-- A peer that the channel has is noted. -/
theorem Noted.of_known {s : Roster .peer} {d : DiscoveredPeer} {peers peers' : List (Peer SiteId)}
    {known : PeerId} {height : BlockNumber} (hlinks : peers'.map Peer.link = s.links)
    (hold : ∀ {i : Nat} {p}, peers[i]? = some p → peers'[i]? = some p)
    (hknown : s.members.get? d.name = some known) (hheight : d.ledgerHeight = some height) :
    Noted s [d] peers
      (peers'.modify known.index (Peer.setDiscoveredState height d.chaincodes)) where
  links := by
    rw [← hlinks]
    refine List.ext_getElem? fun i => ?_
    rw [List.getElem?_map, List.getElem?_map, List.getElem?_modify]
    cases peers'[i]? with
    | none => rfl
    | some p =>
        simp only [Option.map_eq_map, Option.map_some]
        split <;> rfl
  others := by
    intro i p hp hothers
    have hne : known.index ≠ i := by
      rintro rfl
      exact hothers d List.mem_cons_self hknown
    rw [List.getElem?_modify, hold hp, Option.map_eq_map, Option.map_some, if_neg hne]
  last := by
    intro name peer d' p hget hlast hp
    obtain rfl := List.mem_singleton.mp (List.mem_of_find?_eq_some hlast)
    obtain rfl : d'.name = name := by simpa using List.find?_some hlast
    obtain rfl := Option.some.inj (hknown.symm.trans hget)
    rw [List.getElem?_modify] at hp
    obtain ⟨p₀, -, rfl⟩ := Option.map_eq_some_iff.mp hp
    rw [if_pos rfl]
    exact ⟨hheight.symm, rfl⟩

/-- A peer that is added joins, and its state is noted if the channel has it then. -/
theorem addPeer_withPeers (hid : (w.channel? id).isSome) {s : Roster .peer}
    {peers : List (Peer SiteId)} (hpeers : peers.map Peer.link = s.links) {d : DiscoveredPeer}
    (hstate : d.ledgerHeight.isSome) :
    ∃ peers', (w.withPeers id c s peers).addPeer id r d =
        w.withPeers id c (s.join (r.peer c d)) peers' ∧
      Noted (s.join (r.peer c d)) [d] peers peers' := by
  obtain ⟨height, hheight⟩ := Option.isSome_iff_exists.mp hstate
  rw [addPeer, channel?_withPeers hid]
  simp only
  cases hname : s.members.get? d.name with
  | some known =>
      rw [Roster.join_of_taken hname]
      refine ⟨_, ?_, .of_known hpeers (fun hp => hp) hname hheight⟩
      simp only [noteState, hheight]
      rfl
  | none =>
      obtain ⟨result, hresult, hconnect⟩ :=
        connect_addNode_peer (r.peer c d) (w.withPeers id c s peers)
      simp only [show (w.withPeers id c s peers).network = s.network from rfl] at hresult hconnect
      simp only [show r.endpoint d.host d.port d.mspid { c with endorsers := s.members } =
        (r.peer c d).endpoint from rfl]
      rw [show d.name = (r.peer c d).name from rfl, show d.mspid = (r.peer c d).mspid from rfl,
        hconnect]
      have hold : ∀ {p : Peer SiteId} {i : Nat} {p₀ : Peer SiteId}, peers[i]? = some p₀ →
          (peers ++ [p])[i]? = some p₀ := by
        intro p i p₀ hp
        rw [List.getElem?_append_left (List.getElem?_eq_some_iff.mp hp).1, hp]
      have hjoin := Roster.join_of_free (a := r.peer c d) hname
      have hlength : s.links.length = peers.length := by rw [← hpeers, List.length_map]
      cases hserving : s.network.serving? .peer (r.peer c d) with
      | none =>
          rw [hserving] at hresult hjoin
          obtain ⟨error, rfl⟩ := hresult
          refine ⟨peers ++ [{ link := (r.peer c d).link .peer none }], ?_, .of_unknown ?_ hold ?_⟩
          · rw [hjoin]
            rfl
          · rw [hjoin, List.map_append, hpeers]
            rfl
          · rw [hjoin]
            exact hname
      | some site =>
          rw [hserving] at hresult hjoin
          obtain rfl := hresult
          have hknown : (s.join (r.peer c d)).members.get? d.name = some ⟨peers.length⟩ := by
            rw [hjoin, ← hlength]
            simp [SortedMap.get?_insert, Reach.peer]
          let fresh : Peer SiteId := { link := (r.peer c d).link .peer (some site) }
          have hlinks : (peers ++ [fresh]).map Peer.link = (s.join (r.peer c d)).links := by
            rw [hjoin, List.map_append, hpeers]
            rfl
          refine ⟨_, ?_, .of_known hlinks hold hknown hheight⟩
          rw [hjoin, hlength]
          simp only [setChannel, withPeers, Table.set_set, noteState, hheight]
          rfl

/-- What is noted about several peers, and then about one more. -/
theorem Noted.snoc {s : Roster .peer} {a : Advertised} {advertised : List DiscoveredPeer}
    {d : DiscoveredPeer} {peers peers₁ peers' : List (Peer SiteId)} (hname : a.name = d.name)
    (hnamed : s.Named) (hnamed' : (s.join a).Named) (h : Noted s advertised peers peers₁)
    (hd : Noted (s.join a) [d] peers₁ peers') :
    Noted (s.join a) (advertised ++ [d]) peers peers' where
  links := hd.links
  others := by
    intro i p hp hothers
    refine hd.others (h.others hp ?_) ?_
    · intro d' hd' hget
      exact hothers d' (List.mem_append_left _ hd') (Roster.get?_join_of_get? hget)
    · intro d' hd'
      exact hothers d' (List.mem_append_right _ hd')
  last := by
    intro name peer d' p hget hlast hp
    rw [List.reverse_append, List.reverse_singleton, List.singleton_append,
      List.find?_cons] at hlast
    split at hlast
    · next hd' =>
      refine hd.last hget ?_ hp
      rw [List.reverse_singleton, List.find?_singleton, hd', if_pos rfl]
      exact hlast
    · next hne =>
      have hne' : name ≠ d.name := fun heq => by simp [heq] at hne
      -- The last peer has another name, so it is not the one that is looked for.
      have hget₀ : s.members.get? name = some peer := by
        rwa [Roster.get?_join_of_ne (hname ▸ hne')] at hget
      obtain ⟨l, hl, -⟩ := Option.map_eq_some_iff.mp (hnamed name peer hget₀)
      rw [← h.links, List.getElem?_map] at hl
      obtain ⟨p₁, hp₁, -⟩ := Option.map_eq_some_iff.mp hl
      have hkept : peers'[peer.index]? = some p₁ := by
        refine hd.others hp₁ ?_
        intro d₁ hd₁ hget₁
        obtain rfl := List.mem_singleton.mp hd₁
        exact hne' (hnamed'.name_eq hget hget₁)
      obtain rfl := Option.some.inj (hp.symm.trans hkept)
      exact h.last hget₀ hlast hp₁

/-- Peers that are added join one after the other; their states are noted, provided that the
channel has its peers under their own names. -/
theorem foldl_addPeer (hid : (w.channel? id).isSome) {s : Roster .peer}
    {peers : List (Peer SiteId)} (hpeers : peers.map Peer.link = s.links)
    {advertised : List DiscoveredPeer} (hstate : ∀ d ∈ advertised, d.ledgerHeight.isSome) :
    ∃ peers', advertised.foldl (fun w d => w.addPeer id r d) (w.withPeers id c s peers) =
        w.withPeers id c ((advertised.map (r.peer c)).foldl (fun s a => s.join a) s) peers' ∧
      peers'.map Peer.link =
        ((advertised.map (r.peer c)).foldl (fun s a => s.join a) s).links ∧
      (s.Named → Noted ((advertised.map (r.peer c)).foldl (fun s a => s.join a) s) advertised peers
        peers') := by
  induction advertised using List.reverseRecOn with
  | nil => exact ⟨peers, rfl, hpeers, fun _ => ⟨hpeers, fun hp _ => hp, fun _ h => nomatch h⟩⟩
  | append_singleton advertised d ih =>
      obtain ⟨peers₁, heq₁, hlinks₁, hnoted₁⟩ :=
        ih fun d' hd' => hstate d' (List.mem_append_left _ hd')
      obtain ⟨peers', heq', hnoted'⟩ := addPeer_withPeers (r := r) (c := c) hid hlinks₁
        (hstate d (List.mem_append_right _ List.mem_cons_self))
      refine ⟨peers', ?_, ?_, fun hnamed => ?_⟩
      · rw [List.foldl_append, heq₁, List.map_append, List.foldl_append]
        exact heq'
      · rw [List.map_append, List.foldl_append]
        exact hnoted'.links
      · have hnamed₁ := hnamed.foldl_join (advertised.map (r.peer c))
        rw [List.map_append, List.foldl_append]
        exact (hnoted₁ hnamed).snoc rfl hnamed₁ (hnamed₁.foldl_join [r.peer c d]) hnoted'

end World

end LedgerClient
