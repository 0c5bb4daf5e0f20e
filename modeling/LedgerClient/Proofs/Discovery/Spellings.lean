import LedgerClient.Proofs.Discovery.Update
import Mathlib.Data.Set.Defs

/-!
# Spellings of an address

A channel has a peer under the text by which an answer advertises its address, but the peer is
connected to the host and port that are read off this text. So a peer is connected once for each
text, and a peer that is advertised by two texts for one address, such as a port with and without
a leading zero, is connected twice.

## Main results

* `World.Sends.placed`: each peer of a channel is where the text says that it is there under.
* `World.oncePerAddress_iff`: peers are connected once for each address exactly if no address is
  advertised by two texts.
* `World.twice_for_one_address`: two peers for one host and port.
-/

namespace LedgerClient

/-- A link was connected for an advertised host and port: at this host, or at another one under
the advertised name. -/
def Link.ConnectedFor (l : Link SiteId) (host : String) (port : UInt16) : Prop :=
  ∃ e, l.endpoint = some e ∧ e.sslTarget.getD e.host = host ∧ e.port = port

/-- A text is advertised by some peer of a channel. -/
def Advertisable (text : String) : Prop :=
  ∃ peer d, DiscoveredPeer.decode true peer = .ok d ∧ d.name = text

namespace World

/-- The endpoint of a peer is for the address that it advertises, wherever it is reached. -/
theorem Reach.connectedFor_peer (r : Reach) (c : Channel) (d : DiscoveredPeer) (site : SiteId) :
    ((r.peer c d).link .peer (some site)).ConnectedFor d.host d.port := by
  obtain ⟨protocol, asLocalhost⟩ := r
  refine ⟨_, rfl, ?_, rfl⟩
  cases asLocalhost <;> rfl

/-! ### Runs -/

/-- A channel gets no new peers, and those that stay have the names and endpoints they had.
They may be disconnected or leave, services may come and go, and other channels may change. -/
def GainsNoPeers (channel : ChannelId) (w w' : World) : Prop :=
  ∀ c', w'.channel? channel = some c' → ∃ c, w.channel? channel = some c ∧
    ∀ name id, c'.endorsers.get? name = some id → c.endorsers.get? name = some id ∧
      (w'.link? id).map (fun l => (l.name, l.endpoint)) =
        (w.link? id).map fun l => (l.name, l.endpoint)

/-- What becomes of a world by sends of the discoveries of a channel, when the answers advertise
peers by certain texts only. Between the sends anything may happen that brings no peers to the
channel. -/
inductive Sends (texts : Set String) (channel : ChannelId) (w₀ : World) : World → Prop
  | start : Sends texts channel w₀ w₀
  | send {w : World} (h : Sends texts channel w₀ w) (d : ChannelDiscovery)
      (hd : d.channel = channel) (r : DiscoverRequest)
      (htexts : ∀ results, (d.send r w).1 = .ok results →
        ∀ peer ∈ results.tree.channelPeers, peer.name ∈ texts) :
      Sends texts channel w₀ (d.send r w).2.2
  | meanwhile {w w' : World} (h : Sends texts channel w₀ w) (hw : w.GainsNoPeers channel w') :
      Sends texts channel w₀ w'

/-- A channel is there, and it has no peers. -/
def WithoutPeers (channel : ChannelId) (w : World) : Prop :=
  ∃ c, w.channel? channel = some c ∧ c.endorsers = ∅

/-- A channel has no two peers that were connected for one advertised host and port. -/
def OncePerAddress (channel : ChannelId) (w : World) : Prop :=
  ∀ c, w.channel? channel = some c → ∀ name id l name' id' l' host port,
    c.endorsers.get? name = some id → w.link? id = some l → l.ConnectedFor host port →
    c.endorsers.get? name' = some id' → w.link? id' = some l' → l'.ConnectedFor host port →
    id = id'

/-- Each peer of a channel is there under its own name, which is one of certain texts and
addresses the host and port that the peer was connected for. -/
def Placed (texts : Set String) (channel : ChannelId) (w : World) : Prop :=
  ∀ c, w.channel? channel = some c → ∀ name id, c.endorsers.get? name = some id →
    name ∈ texts ∧ Advertisable name ∧
      ∃ l host port, w.link? id = some l ∧ l.name = name ∧ l.ConnectedFor host port ∧
        Addresses name host port

variable {texts : Set String} {channel : ChannelId} {w w' : World}

theorem WithoutPeers.placed (h : w.WithoutPeers channel) : w.Placed texts channel := by
  obtain ⟨c, hc, hempty⟩ := h
  intro c' hc' name id hget
  obtain rfl := Option.some.inj (hc.symm.trans hc')
  rw [hempty] at hget
  cases hget

theorem Placed.of_gainsNoPeers (h : w.Placed texts channel) (hw : w.GainsNoPeers channel w') :
    w'.Placed texts channel := by
  intro c' hc' name id hget
  obtain ⟨c, hc, hkept⟩ := hw c' hc'
  obtain ⟨hget, hlink⟩ := hkept name id hget
  obtain ⟨htext, hadvertisable, l, host, port, hl, hname, hconnected, haddress⟩ := h c hc name id hget
  rw [hl] at hlink
  obtain ⟨l', hl', heq⟩ := Option.map_eq_some_iff.mp hlink
  obtain ⟨hname', hendpoint⟩ := Prod.mk.inj heq
  refine ⟨htext, hadvertisable, l', host, port, hl', hname'.trans hname, ?_, haddress⟩
  rwa [Link.ConnectedFor, hendpoint]

/-- Asking discovery services brings no peers to a channel. -/
theorem Inquired.gainsNoPeers (h : w.Inquired w') : w.GainsNoPeers channel w' := by
  obtain ⟨_, _, rfl⟩ := h
  exact fun c hc => ⟨c, hc, fun _ _ hget => ⟨hget, rfl⟩⟩

/-- A channel that grows has its old peers where they were, and new ones where they were
advertised. -/
theorem Grown.placed {r : Reach} {t : DiscoveryTree} {c c' : Channel}
    {orderers peers : List Advertised} {between : Network}
    (hgrown : Grown channel r t c c' w w' orderers peers between)
    (hc : w.channel? channel = some c) (h : w.Placed texts channel)
    (hadvertised : ∀ d ∈ t.channelPeers,
      d.name ∈ texts ∧ Advertisable d.name ∧ Addresses d.name d.host d.port) :
    w'.Placed texts channel := by
  intro c₁ hc₁ name id hget
  obtain rfl := Option.some.inj ((hgrown.channel?_eq hc).symm.trans hc₁)
  cases hold : c.endorsers.get? name with
  | some id₀ =>
      -- A peer that was there is kept, and so is its link.
      obtain rfl := Option.some.inj ((hgrown.peers.kept hold).symm.trans hget)
      obtain ⟨htext, hadvertisable, l, host, port, hl, hrest⟩ := h c hc name id₀ hold
      refine ⟨htext, hadvertisable, l, host, port, ?_, hrest⟩
      rw [← links_peerRoster w c] at hl
      rw [← links_peerRoster w' c', hgrown.peers.links,
        List.getElem?_append_left (List.getElem?_eq_some_iff.mp hl).1]
      exact hl
  | none =>
      obtain ⟨a, ha, site, rfl, -, hl⟩ := hgrown.peers.connected hold hget
      obtain ⟨d, hd, rfl⟩ := List.mem_map.mp (hgrown.peers.sublist.subset ha)
      obtain ⟨htext, hadvertisable, haddress⟩ := hadvertised d hd
      rw [links_peerRoster] at hl
      exact ⟨htext, hadvertisable, _, d.host, d.port, hl, rfl, r.connectedFor_peer c' d site,
        haddress⟩

/-- A send brings peers to a channel where they were advertised only. -/
theorem Placed.send {d : ChannelDiscovery} (h : w.Placed texts d.channel) (r : DiscoverRequest)
    (htexts : ∀ results, (d.send r w).1 = .ok results →
      ∀ peer ∈ results.tree.channelPeers, peer.name ∈ texts) :
    (d.send r w).2.2.Placed texts d.channel := by
  have hsent := d.send_spec r w
  generalize d.send r w = sent at hsent htexts
  have hasked : ∀ {signed timeout answer w₁},
      w.firstAnswer signed timeout r.targets = (answer, w₁) → w₁.Placed texts d.channel := by
    intro signed timeout answer w₁ heq
    have hinquired := firstAnswer_inquired signed timeout r.targets w
    rw [heq] at hinquired
    exact h.of_gainsNoPeers hinquired.gainsNoPeers
  cases hsent with
  | noTargets | unsigned => exact h
  | unanswered _ _ _ heq | unreadable _ _ heq _ => exact hasked heq
  | @processed _ _ _ w₁ _ results _ _ heq hread hworld =>
      have hreads := DiscoveryTree.reads_of_takeAll hread
      have hplaced := hasked heq
      rw [hworld]
      cases hc : w₁.channel? d.channel with
      | none => rwa [materialize_of_none hc]
      | some c =>
          obtain ⟨c', orderers, peers, between, hgrown⟩ := materialize_grown hc
            (fun _ _ => hreads.msp_id) fun _ => hreads.ledgerHeight_isSome
          refine hgrown.placed hc hplaced fun peer hpeer => ?_
          obtain ⟨listed, -, hshows⟩ := hreads.exists_lists hpeer
          exact ⟨htexts results rfl peer hpeer,
            ⟨listed, peer, DiscoveredPeer.decode_eq_ok_iff.mpr hshows, rfl⟩, hshows.address⟩

/-- In all that becomes of a channel without peers, its peers are where their names say. -/
theorem Sends.placed {w₀ : World} (h : Sends texts channel w₀ w) (hw₀ : w₀.WithoutPeers channel) :
    w.Placed texts channel := by
  induction h with
  | start => exact hw₀.placed
  | send _ d hd r htexts ih =>
      subst hd
      exact ih.send r htexts
  | meanwhile _ hw ih => exact ih.of_gainsNoPeers hw

/-- Peers that are where their names say are connected once for each address, if no address is
advertised by two texts. -/
theorem Placed.oncePerAddress (h : w.Placed texts channel)
    (hone : ∀ text ∈ texts, ∀ text' ∈ texts, Advertisable text → Advertisable text' →
      ∀ host port, Addresses text host port → Addresses text' host port → text = text') :
    w.OncePerAddress channel := by
  -- A link was connected for one host and port, so for those that its name addresses.
  have haddress : ∀ {l : Link SiteId} {host host' port port'}, l.ConnectedFor host port →
      l.ConnectedFor host' port' → host = host' ∧ port = port' := by
    rintro l host host' port port' ⟨e, he, rfl, rfl⟩ ⟨e', he', rfl, rfl⟩
    obtain rfl := Option.some.inj (he.symm.trans he')
    exact ⟨rfl, rfl⟩
  intro c hc name id l name' id' l' host port hget hl hconnected hget' hl' hconnected'
  obtain ⟨htext, hadvertisable, l₁, _, _, hl₁, rfl, hconnected₁, haddress₁⟩ := h c hc name id hget
  obtain ⟨htext', hadvertisable', l₁', _, _, hl₁', rfl, hconnected₁', haddress₁'⟩ :=
    h c hc name' id' hget'
  obtain rfl := Option.some.inj (hl.symm.trans hl₁)
  obtain rfl := Option.some.inj (hl'.symm.trans hl₁')
  obtain ⟨rfl, rfl⟩ := haddress hconnected hconnected₁
  obtain ⟨rfl, rfl⟩ := haddress hconnected' hconnected₁'
  have hname := hone _ htext _ htext' hadvertisable hadvertisable' _ _ haddress₁ haddress₁'
  rw [hname] at hget
  exact Option.some.inj (hget.symm.trans hget')

/-- Peers are connected once for each address if they are advertised by the usual texts, in which a
port has neither a plus sign nor a leading zero. -/
theorem Sends.oncePerAddress_of_usual {w₀ : World}
    (h : Sends { text | ∃ (host : String) (port : UInt16), host ≠ "" ∧
      text = s!"{host}:{port.toNat}" } channel w₀ w)
    (hw₀ : w₀.WithoutPeers channel) : w.OncePerAddress channel := by
  refine (h.placed hw₀).oncePerAddress ?_
  rintro _ ⟨host₁, port₁, hne₁, rfl⟩ _ ⟨host₂, port₂, hne₂, rfl⟩ - - host port haddress₁ haddress₂
  obtain ⟨rfl, rfl⟩ := (addresses_toString hne₁).unique haddress₁
  obtain ⟨rfl, rfl⟩ := (addresses_toString hne₂).unique haddress₂
  rfl

end World

/-! ### Two texts for one address -/

/-- An answer with two members of a channel. -/
def DiscoveryResponse.pairOf (peer peer' : DiscoveryPeer) : DiscoveryResponse :=
  { results := [.members { peersByOrg := .ofList [("Org1", { peers := [peer, peer'] })] }] }

/-- Both members are read if each of them is. -/
theorem DiscoveryTree.ofResponse_pairOf {peer peer' : DiscoveryPeer} {d d' : DiscoveredPeer}
    (h : DiscoveredPeer.decode true peer = .ok d) (h' : DiscoveredPeer.decode true peer' = .ok d') :
    ofResponse [.config, .members] (.pairOf peer peer') =
      .ok { peersByOrg := .ofList [("Org1", [d, d'])] } := by
  have hmembers : decodeMembers true
      { peersByOrg := .ofList [("Org1", { peers := [peer, peer'] })] } =
        .ok (.ofList [("Org1", [d, d'])]) := by
    have hshows := DiscoveredPeer.decode_eq_ok_iff.mp h
    have hshows' := DiscoveredPeer.decode_eq_ok_iff.mp h'
    exact DiscoveredPeer.decodeAll_eq_ok_iff.mpr
      (.cons ⟨rfl, .cons hshows (.cons hshows' .nil)⟩ .nil)
  exact bind_eq_ok_iff.mpr ⟨_, bind_eq_ok_iff.mpr ⟨_, hmembers, rfl⟩, rfl⟩

namespace World

/-- A channel without nodes, a discovery service that gives an answer, and an endorsing peer at an
address. -/
def offering (response : DiscoveryResponse) (address : String) : World :=
  { answering response with
    network :=
      { (answering response).network with
        endorsers :=
          { sites := ⟨[{ behaviour := { reply := .hang } }]⟩
            addresses := .ofList [(address, ⟨0⟩)] } } }

theorem withoutPeers_offering (response : DiscoveryResponse) (address : String) :
    (offering response address).WithoutPeers ⟨0⟩ :=
  ⟨_, rfl, rfl⟩

theorem reached?_offering (response : DiscoveryResponse) (address : String) :
    (offering response address).network.reached? .peer address = some ⟨0⟩ := by
  simp [Network.reached?, Exchange.reached?, offering, SortedMap.ofList, SortedMap.get?_insert]
  rfl

/-- Two peers with one address are both connected there if they advertise it by two texts. -/
theorem exists_sends_pairOf {peer peer' : DiscoveryPeer} {d d' : DiscoveredPeer}
    (h : DiscoveredPeer.decode true peer = .ok d) (h' : DiscoveredPeer.decode true peer' = .ok d')
    (hhost : d'.host = d.host) (hport : d'.port = d.port) {texts : Set String}
    (htext : d.name ∈ texts) (htext' : d'.name ∈ texts) :
    ∃ w c, Sends texts ⟨0⟩ (offering (.pairOf peer peer') s!"{d.host}:{d.port.toNat}") w ∧
      w.channel? ⟨0⟩ = some c ∧ (c.endorsers.get? d.name).isSome ∧
        (c.endorsers.get? d'.name).isSome := by
  let response := DiscoveryResponse.pairOf peer peer'
  let w₀ := offering response s!"{d.host}:{d.port.toNat}"
  let wish : DiscoverRequest := { targets := [⟨1⟩] }
  let asking : ChannelDiscovery := { ChannelDiscovery.ready with last := some (wish.settings {}) }
  let w₁ := (w₀.sendDiscovery { payload := [1], signature := [2] } none ⟨1⟩).2
  have hsend : ChannelDiscovery.ready.send wish w₀ = asking.process ⟨1⟩ false response w₁ := rfl
  have hread := DiscoveryTree.ofResponse_pairOf h h'
  have hreads := DiscoveryTree.reads_of_takeAll hread
  obtain ⟨results, d₁, w, htree, hprocess⟩ :=
    ChannelDiscovery.exists_process (d := asking) hread ⟨1⟩ false w₁
  rw [hprocess] at hsend
  have hw : w = w₁.materialize ⟨0⟩ (asking.reach ⟨1⟩ false w₁) results.tree :=
    (ChannelDiscovery.of_process hprocess).2.2
  have hc : w₁.channel? ⟨0⟩ = some { name := "ch" } := rfl
  obtain ⟨c', orderers, peers, between, hgrown⟩ :=
    materialize_grown (r := asking.reach ⟨1⟩ false w₁) hc (fun _ _ => hreads.msp_id)
      fun _ => hreads.ledgerHeight_isSome
  rw [htree] at hw
  rw [← hw] at hgrown
  have hbetween : between = w₁.network := by
    obtain rfl : orderers = [] := List.sublist_nil.mp hgrown.orderers.sublist
    exact hgrown.orderers.network
  have hserved : ∀ p ∈ [d, d'],
      (between.serving? .peer ((asking.reach ⟨1⟩ false w₁).peer c' p)).isSome := by
    intro p hp
    have haddress : s!"{p.host}:{p.port.toNat}" = s!"{d.host}:{d.port.toNat}" := by
      rcases List.mem_pair.mp hp with rfl | rfl
      · rfl
      · rw [hhost, hport]
    have hreached : w₀.network.reached? .peer s!"{p.host}:{p.port.toNat}" = some ⟨0⟩ := by
      rw [haddress]
      exact reached?_offering response _
    rw [hbetween]
    exact Option.isSome_iff_exists.mpr ⟨⟨0⟩, hreached⟩
  have hjoined : ∀ p ∈ [d, d'], (c'.endorsers.get? p.name).isSome := fun p hp =>
    (hgrown.peers.added rfl).mpr ⟨_, List.mem_map_of_mem hp, rfl, hserved p hp⟩
  refine ⟨w, c', ?_, hgrown.channel?_eq hc, hjoined d List.mem_cons_self,
    hjoined d' (List.mem_cons_of_mem d List.mem_cons_self)⟩
  have hadvertised : ∀ results, (ChannelDiscovery.ready.send wish w₀).1 = .ok results →
      ∀ p ∈ results.tree.channelPeers, p.name ∈ texts := by
    intro results' hresults p hp
    rw [hsend] at hresults
    obtain rfl := Except.ok.inj hresults
    rw [htree] at hp
    rcases List.mem_pair.mp hp with rfl | rfl
    · exact htext
    · exact htext'
  have hsends : Sends texts ⟨0⟩ w₀ _ := .send .start .ready rfl wish hadvertised
  rwa [hsend] at hsends

/-- Whatever sends are made for a channel that had no peers, its peers are connected once for each
advertised host and port, exactly if no two of the texts by which answers may advertise peers
address the same host and port. -/
theorem oncePerAddress_iff (texts : Set String) :
    (∀ channel w₀ w, w₀.WithoutPeers channel → Sends texts channel w₀ w →
      w.OncePerAddress channel) ↔
    ∀ text ∈ texts, ∀ text' ∈ texts, Advertisable text → Advertisable text' →
      ∀ host port, Addresses text host port → Addresses text' host port → text = text' := by
  constructor
  · rintro h _ htext _ htext' ⟨peer, d, hd, rfl⟩ ⟨peer', d', hd', rfl⟩ host port haddress haddress'
    obtain ⟨rfl, rfl⟩ := haddress.unique (DiscoveredPeer.decode_eq_ok_iff.mp hd).address
    obtain ⟨hhost, hport⟩ := (DiscoveredPeer.decode_eq_ok_iff.mp hd').address.unique haddress'
    obtain ⟨w, c, hsends, hc, hsome, hsome'⟩ :=
      exists_sends_pairOf hd hd' hhost hport htext htext'
    have hplaced := hsends.placed (withoutPeers_offering _ _)
    obtain ⟨id, hid⟩ := Option.isSome_iff_exists.mp hsome
    obtain ⟨id', hid'⟩ := Option.isSome_iff_exists.mp hsome'
    obtain ⟨-, -, l, _, _, hl, hname, hconnected, haddressed⟩ := hplaced c hc _ id hid
    obtain ⟨-, -, l', _, _, hl', hname', hconnected', haddressed'⟩ := hplaced c hc _ id' hid'
    obtain ⟨rfl, rfl⟩ := haddressed.unique haddress
    obtain ⟨rfl, rfl⟩ := haddressed'.unique haddress'
    -- Both were connected for the address, so they are one peer, and it has one name.
    obtain rfl := h ⟨0⟩ _ w (withoutPeers_offering _ _) hsends c hc _ id l _ id' l' _ _ hid hl
      hconnected hid' hl' hconnected'
    obtain rfl := Option.some.inj (hl.symm.trans hl')
    exact hname.symm.trans hname'
  · intro h channel w₀ w hw₀ hsends
    exact (hsends.placed hw₀).oncePerAddress h

/-- An answer that advertises one peer with a leading zero in its port and without it brings two
peers for one host and port to a channel that had none. -/
theorem twice_for_one_address :
    let response := DiscoveryResponse.pairOf (Sample.channelPeer "Org1" "p1:1" 5 ["cc"])
      (Sample.channelPeer "Org1" "p1:01" 5 ["cc"])
    let w := (ChannelDiscovery.ready.send { targets := [⟨1⟩] } (offering response "p1:1")).2.2
    (offering response "p1:1").WithoutPeers ⟨0⟩ ∧
      Sends Set.univ ⟨0⟩ (offering response "p1:1") w ∧
      (w.channel? ⟨0⟩).map (fun c => c.endorsers.keys) = some ["p1:01", "p1:1"] ∧
      ¬ w.OncePerAddress ⟨0⟩ := by
  intro response w
  have hpeers : (w.channel? ⟨0⟩).map (fun c => c.endorsers.entries) =
      some [("p1:01", ⟨1⟩), ("p1:1", ⟨0⟩)] := by
    decide +kernel
  have hendpoints : ∀ id ∈ [(⟨0⟩ : PeerId), ⟨1⟩], (w.link? id).map Link.endpoint =
      some (some { protocol := .grpc, host := "p1", port := 1 }) := by
    decide +kernel
  obtain ⟨c, hc, hentries⟩ := Option.map_eq_some_iff.mp hpeers
  refine ⟨⟨_, rfl, rfl⟩, .send .start .ready rfl _ fun _ _ _ _ => trivial, ?_, fun honce => ?_⟩
  · rw [hc, Option.map_some, SortedMap.keys, hentries]
    rfl
  · obtain ⟨l, hl, he⟩ := Option.map_eq_some_iff.mp (hendpoints ⟨0⟩ (by simp))
    obtain ⟨l', hl', he'⟩ := Option.map_eq_some_iff.mp (hendpoints ⟨1⟩ (by simp))
    have hget : c.endorsers.get? "p1:1" = some ⟨0⟩ :=
      SortedMap.get?_eq_some_iff.mpr (by rw [hentries]; simp)
    have hget' : c.endorsers.get? "p1:01" = some ⟨1⟩ :=
      SortedMap.get?_eq_some_iff.mpr (by rw [hentries]; simp)
    have hsame := honce c hc "p1:1" ⟨0⟩ l "p1:01" ⟨1⟩ l' "p1" 1 hget hl ⟨_, he, rfl, rfl⟩ hget' hl'
      ⟨_, he', rfl, rfl⟩
    cases hsame

end World

end LedgerClient
