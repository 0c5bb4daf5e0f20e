import LedgerClient.Proofs.Discovery.Asked

/-!
# The peers of a channel

The world in which a plan is endorsed grants what the search relies on. A channel keeps its
peers under their own names, so an outcome reports the peer that was asked. What a peer
answers is written down beforehand, so it does not depend on who was asked before.

## Main results

* `World.EndorsersNamed.steady`: asking the peers of a channel is steady.
* `World.addChannel_endorsersNamed`, `World.EndorsersNamed.addEndorser`,
  `World.EndorsersNamed.removeEndorser`: a channel begins without peers, and adding or removing
  one keeps them under their names.
* `ChannelDiscovery.refreshed_endorsersNamed`: so does renewing the results of a discovery.
-/

namespace LedgerClient

namespace World

/-! ### What peers answer -/

/-- What an endorsing service answers. -/
def endorserReply (site : SiteId) (n : Network) : Reply ProposalResponse :=
  match n.endorsers.sites.get? site.index with
  | some s => s.behaviour.reply
  | none => .hang

/-- A proposal is answered with what is written down. -/
theorem proposalAt_fst (proposal : SignedProposal) (site : SiteId) (n : Network) :
    (proposalAt proposal site n).1 = endorserReply site n := by
  simp only [proposalAt, Exchange.request, endorserReply]
  cases n.endorsers.sites.get? site.index <;> rfl

/-- A proposal changes nothing about what is written down. -/
theorem endorserReply_proposalAt (proposal : SignedProposal) (site site' : SiteId)
    (n : Network) :
    endorserReply site' (proposalAt proposal site n).2 = endorserReply site' n := by
  simp only [proposalAt, Exchange.request]
  cases hsite : n.endorsers.sites.get? site.index with
  | none => rfl
  | some s =>
      simp only [endorserReply, Exchange.modify]
      by_cases heq : site.index = site'.index
      · rw [← heq, Table.get?_modify_self, hsite]
        rfl
      · rw [Table.get?_modify_ne _ _ heq]

/-- Two worlds have the same channels and peers, and the peers answer the same. -/
structure Alike (w w' : World) : Prop where
  channels : w'.channels = w.channels
  peers : w'.peers = w.peers
  replies : ∀ site, endorserReply site w'.network = endorserReply site w.network

variable {w w' : World}

theorem Alike.refl (w : World) : Alike w w := ⟨rfl, rfl, fun _ => rfl⟩

/-- Time does not change what peers answer. -/
theorem Alike.elapse (h : Alike w w') (ms : Nat) : Alike w (w'.elapse ms) :=
  ⟨h.channels, h.peers, h.replies⟩

/-- What sending a proposal brings depends on the peers and their answers only, and changes
neither. -/
theorem Alike.sendProposal (h : Alike w w') (proposal : SignedProposal) (timeout : Option Nat)
    (id : PeerId) :
    (w'.sendProposal proposal timeout id).1 = (w.sendProposal proposal timeout id).1 ∧
      Alike w (w'.sendProposal proposal timeout id).2 := by
  simp only [World.sendProposal, World.call, World.link?, h.peers]
  cases w.peers.get? id.index with
  | none => exact ⟨rfl, h⟩
  | some p =>
      simp only [Option.map_some, Link.call, Link.service]
      cases p.link.client with
      | none => exact ⟨rfl, h⟩
      | some site =>
          have hafter : Alike w
              { w' with network := (proposalAt proposal site w'.network).2 } :=
            ⟨h.channels, h.peers, fun site' =>
              (endorserReply_proposalAt proposal site site' _).trans (h.replies site')⟩
          simp only [proposalAt_fst, h.replies site]
          cases endorserReply site w.network with
          | ok value => exact ⟨rfl, hafter⟩
          | fail reason => exact ⟨rfl, hafter⟩
          | hang => exact ⟨rfl, hafter⟩

/-- The outcome that is made of a result depends on the peers only. -/
theorem Alike.proposalOutcome (h : Alike w w') (id : PeerId)
    (result : Except ServiceError ProposalResponse) :
    w'.proposalOutcome id result = w.proposalOutcome id result := by
  simp only [World.proposalOutcome, World.connectionInfo, World.link?, h.peers]

/-- The outcome of asking a peer depends on the channel, the peers and their answers only,
and asking changes none of them. -/
theorem Alike.askPeer (h : Alike w w') (channel : ChannelId) (proposal : SignedProposal)
    (timeout : Option Nat) (p : DiscoveredPeer) :
    (w'.askPeer channel proposal timeout p).1 = (w.askPeer channel proposal timeout p).1 ∧
      Alike w (w'.askPeer channel proposal timeout p).2 := by
  simp only [World.askPeer, World.channel?, h.channels]
  cases (w.channels.get? channel.index).bind fun c => c.endorsers.get? p.name with
  | none => exact ⟨rfl, h⟩
  | some peer =>
      obtain ⟨hresult, hafter⟩ := h.sendProposal proposal timeout peer
      obtain ⟨-, hafter₀⟩ := (Alike.refl w).sendProposal proposal timeout peer
      refine ⟨?_, hafter⟩
      simp only [hresult, hafter.proposalOutcome, hafter₀.proposalOutcome]

/-! ### Peers under their names -/

/-- A channel keeps its peers under their own names. -/
def EndorsersNamed (channel : ChannelId) (w : World) : Prop :=
  ∀ c, w.channel? channel = some c → ∀ name id, c.endorsers.get? name = some id →
    (w.link? id).map Link.name = some name

/-- An outcome reports the peer that was asked. -/
theorem EndorsersNamed.askPeer_peer {channel : ChannelId} (h : w.EndorsersNamed channel)
    (proposal : SignedProposal) (timeout : Option Nat) (p : DiscoveredPeer) :
    (w.askPeer channel proposal timeout p).1.1.peer = p.name := by
  simp only [World.askPeer]
  cases hpeer : (w.channel? channel).bind fun c => c.endorsers.get? p.name with
  | none => rfl
  | some peer =>
      obtain ⟨c, hc, hget⟩ := Option.bind_eq_some_iff.mp hpeer
      obtain ⟨l, hl, hname⟩ := Option.map_eq_some_iff.mp (h c hc p.name peer hget)
      obtain ⟨-, hafter⟩ := (Alike.refl w).sendProposal proposal timeout peer
      simp only [hafter.proposalOutcome]
      simp only [World.proposalOutcome, World.connectionInfo, hl]
      exact hname

/-- Whether asking a peer brings an endorsement depends on its name only. -/
theorem askPeer_endorses_congr (channel : ChannelId) (proposal : SignedProposal)
    (timeout : Option Nat) {p p' : DiscoveredPeer} (h : p.name = p'.name) :
    (w.askPeer channel proposal timeout p).1.1.endorses =
      (w.askPeer channel proposal timeout p').1.1.endorses := by
  simp only [World.askPeer, h]
  cases (w.channel? channel).bind fun c => c.endorsers.get? p'.name with
  | none => rfl
  | some peer => rfl

/-- Asking the peers of a channel is steady. -/
theorem EndorsersNamed.steady {channel : ChannelId} (h : w.EndorsersNamed channel)
    (proposal : SignedProposal) (timeout : Option Nat) :
    Endorse.Steady (World.askPeer channel proposal timeout) World.elapse
      (fun p => (w.askPeer channel proposal timeout p).1.1.endorses) (Alike w) where
  peer := by
    intro w' p hw
    rw [(hw.askPeer channel proposal timeout p).1, h.askPeer_peer]
  outcome := by
    intro w' p hw
    rw [(hw.askPeer channel proposal timeout p).1]
  congr := askPeer_endorses_congr channel proposal timeout
  asked := fun p hw => (hw.askPeer channel proposal timeout p).2
  elapsed := fun ms hw => hw.elapse ms

/-! ### What keeps peers under their names -/

/-- Peers keep their names, and channels the peers they have. -/
structure Retains (w w' : World) : Prop where
  names : ∀ (id : PeerId) name, (w.link? id).map Link.name = some name →
    (w'.link? id).map Link.name = some name
  endorsers : ∀ channel, (w'.channel? channel).map Channel.endorsers =
    (w.channel? channel).map Channel.endorsers

theorem Retains.refl (w : World) : Retains w w := ⟨fun _ _ => id, fun _ => rfl⟩

theorem Retains.trans {w'' : World} (h : Retains w w') (h' : Retains w' w'') : Retains w w'' :=
  ⟨fun id name hn => h'.names id name (h.names id name hn),
    fun channel => (h'.endorsers channel).trans (h.endorsers channel)⟩

/-- A world with the same peers and channels retains them. -/
theorem Retains.of_eq (hpeers : w'.peers = w.peers) (hchannels : w'.channels = w.channels) :
    Retains w w' where
  names := by
    intro id name hn
    simpa only [World.link?, hpeers] using hn
  endorsers := by
    intro channel
    simp only [World.channel?, hchannels]

/-- Peers that are kept under their names stay so. -/
theorem EndorsersNamed.retain {channel : ChannelId} (h : w.EndorsersNamed channel)
    (hw : Retains w w') : w'.EndorsersNamed channel := by
  intro c' hc' name id hget
  have hend := hw.endorsers channel
  rw [hc', Option.map_some] at hend
  obtain ⟨c, hc, heq⟩ := Option.map_eq_some_iff.mp hend.symm
  exact hw.names id name (h c hc name id (heq ▸ hget))

/-- Connecting a link changes the network only. -/
theorem connect_transport (k : NodeKind) (l : Link SiteId) (e : Endpoint) (w : World) :
    ∃ n, (l.connect (transport k) e w).2.2 = { w with network := n } := by
  have hdial : ∀ w : World, ∃ n, ((transport k).dial e w).2 = { w with network := n } := by
    intro w
    cases k <;> exact ⟨_, rfl⟩
  have hclose : ∀ site (w : World), ∃ n, (transport k).close site w = { w with network := n } := by
    intro site w
    cases k <;> exact ⟨_, rfl⟩
  have helapse : ∀ ms (w : World), ∃ n, (transport k).elapse ms w = { w with network := n } := by
    intro ms w
    cases k <;> exact ⟨_, rfl⟩
  obtain ⟨n, hn⟩ := hdial w
  simp only [Link.connect]
  split
  · exact ⟨w.network, rfl⟩
  · split
    · next hd =>
      exact ⟨n, by rw [← hn, hd]⟩
    · next hd =>
      obtain rfl : _ = { w with network := n } := by rw [← hn, hd]
      obtain ⟨n', hn'⟩ := helapse e.options.connectTimeout { w with network := n }
      exact ⟨n', hn'⟩
    · next hd =>
      obtain rfl : _ = { w with network := n } := by rw [← hn, hd]
      split
      · exact ⟨n, rfl⟩
      · next site _ _ _ =>
        obtain ⟨n', hn'⟩ := hclose site { w with network := n }
        exact ⟨n', hn'⟩
      · next site _ _ =>
        obtain ⟨n', hn'⟩ := helapse e.options.connectTimeout { w with network := n }
        simp only [hn']
        obtain ⟨n'', hn''⟩ := hclose site { w with network := n' }
        exact ⟨n'', hn''⟩

/-- Connecting a link does not change its name. -/
theorem name_connect (k : NodeKind) (l : Link SiteId) (e : Endpoint) (w : World) :
    (l.connect (transport k) e w).2.1.name = l.name := by
  simp only [Link.connect]
  split
  · rfl
  · split
    · rfl
    · rfl
    · split <;> rfl

/-- Replacing the link of a peer by one of the same name retains the peers. -/
theorem setLink_peer_retains {id : PeerId} {l l' : Link SiteId} (hl : w.link? id = some l)
    (hname : l'.name = l.name) : Retains w (w.setLink id l') where
  names := by
    intro id' name hn
    by_cases heq : id.index = id'.index
    · obtain rfl : id = id' := by
        cases id
        cases id'
        exact congrArg _ heq
      rw [hl, Option.map_some, ← hname] at hn
      obtain ⟨p, hp, -⟩ := Option.map_eq_some_iff.mp hl
      simp only [World.setLink, World.link?, Table.get?_modify_self, hp]
      exact hn
    · simpa only [World.setLink, World.link?, Table.get?_modify_ne _ _ heq] using hn
  endorsers := fun _ => rfl

/-- Connecting a peer retains the peers. -/
theorem connect_peer_retains (id : PeerId) (e : Endpoint) (w : World) :
    Retains w (w.connect id e).2 := by
  simp only [World.connect]
  cases hl : w.link? id with
  | none => exact .refl w
  | some l =>
      obtain ⟨n, hn⟩ := connect_transport .peer l e w
      simp only [hn]
      have hnet : Retains w { w with network := n } := .of_eq rfl rfl
      exact hnet.trans (setLink_peer_retains hl (name_connect .peer l e w))

/-- Connecting an orderer retains the peers. -/
theorem connect_orderer_retains (id : OrdererId) (e : Endpoint) (w : World) :
    Retains w (w.connect id e).2 := by
  simp only [World.connect]
  cases w.link? id with
  | none => exact .refl w
  | some l =>
      obtain ⟨n, hn⟩ := connect_transport .orderer l e w
      simp only [hn]
      exact .of_eq rfl rfl

/-- A channel that was replaced, and any other one. -/
theorem channel?_setChannel (channel channel' : ChannelId) (c : Channel) (w : World) :
    (w.setChannel channel c).channel? channel' =
      if channel = channel' then (w.channel? channel').map fun _ => c
      else w.channel? channel' := by
  simp only [World.setChannel, World.channel?]
  split
  · next heq =>
    rw [heq, Table.get?_set_self]
  · next hne =>
    refine Table.get?_set_ne _ _ ?_
    intro heq
    cases channel
    cases channel'
    exact hne (congrArg _ heq)

/-- Changing a channel but for its peers retains the peers. -/
theorem setChannel_retains {channel : ChannelId} {c : Channel}
    (hc : (w.channel? channel).map Channel.endorsers = some c.endorsers) :
    Retains w (w.setChannel channel c) where
  names := fun _ _ => id
  endorsers := by
    intro channel'
    rw [channel?_setChannel]
    split
    · next heq =>
      rw [← heq, hc]
      obtain ⟨c₀, hc₀, -⟩ := Option.map_eq_some_iff.mp hc
      rw [hc₀]
      rfl
    · rfl

/-- Making an orderer retains the peers. -/
theorem addNode_orderer_retains (name : String) (mspid : Option String) (w : World) :
    Retains w (w.addNode .orderer name mspid).2 :=
  .of_eq rfl rfl

/-- Making a peer retains the peers. -/
theorem addNode_peer_retains (name : String) (mspid : Option String) (w : World) :
    Retains w (w.addNode .peer name mspid).2 where
  names := by
    intro id name' hn
    obtain ⟨l, hl, hname⟩ := Option.map_eq_some_iff.mp hn
    obtain ⟨p, hp, rfl⟩ := Option.map_eq_some_iff.mp hl
    have hlt : id.index < w.peers.size := by
      rw [Table.get?] at hp
      exact (List.getElem?_eq_some_iff.mp hp).1
    simp only [World.addNode, World.link?, Table.get?_push_of_lt _ _ hlt, hp]
    simpa using hname
  endorsers := fun _ => rfl

/-- Noting the state of a peer retains the peers. -/
theorem noteState_retains (id : PeerId) (d : DiscoveredPeer) (w : World) :
    Retains w (w.noteState id d) := by
  simp only [World.noteState]
  cases d.ledgerHeight with
  | none => exact .refl w
  | some height =>
      refine ⟨?_, fun _ => rfl⟩
      intro id' name hn
      by_cases heq : id.index = id'.index
      · simp only [World.link?, ← heq, Table.get?_modify_self] at hn ⊢
        cases hp : w.peers.get? id.index with
        | none => simp [hp] at hn
        | some p =>
            rw [hp] at hn
            exact hn
      · simpa only [World.link?, Table.get?_modify_ne _ _ heq] using hn

/-- Adding providers retains the peers. -/
theorem addMsps_retains (channel : ChannelId) (msps : List MspInfo) (w : World) :
    Retains w (w.addMsps channel msps) := by
  simp only [World.addMsps]
  cases hc : w.channel? channel with
  | none => exact .refl w
  | some c => exact setChannel_retains (by rw [hc]; rfl)

/-- Adding an orderer retains the peers. -/
theorem addOrderer_retains (channel : ChannelId) (r : Reach) (mspid : String)
    (address : OrdererAddress) (w : World) :
    Retains w (w.addOrderer channel r mspid address) := by
  simp only [World.addOrderer]
  cases hc : w.channel? channel with
  | none => exact .refl w
  | some c =>
      simp only
      split
      · exact .refl w
      have hconn := (addNode_orderer_retains address.name (some mspid) w).trans
        (connect_orderer_retains (w.addNode .orderer address.name (some mspid)).1
          (r.endpoint address.host address.port mspid c) _)
      split
      · next h =>
        rw [h] at hconn
        exact hconn
      · next h =>
        rw [h] at hconn
        refine hconn.trans (setChannel_retains ?_)
        rw [hconn.endorsers, hc]
        rfl

/-- A peer that is new to a channel is kept under its own name. -/
theorem EndorsersNamed.insert {channel : ChannelId} {c : Channel} {name : String} {id : PeerId}
    (h : w.EndorsersNamed channel)
    (hc : (w.channel? channel).map Channel.endorsers = some c.endorsers)
    (hid : (w.link? id).map Link.name = some name) :
    (w.setChannel channel { c with endorsers := c.endorsers.insert name id }).EndorsersNamed
      channel := by
  intro c' hc' name' id' hget
  obtain ⟨c₀, hc₀, hend⟩ := Option.map_eq_some_iff.mp hc
  rw [channel?_setChannel, if_pos rfl, hc₀] at hc'
  obtain rfl := Option.some.inj hc'
  simp only [SortedMap.get?_insert] at hget
  split at hget
  · next heq =>
    obtain rfl := Option.some.inj hget
    rw [heq]
    exact hid
  · exact h c₀ hc₀ name' id' (hend ▸ hget)

/-- Adding an endorser to a channel under the name of its node keeps the peers of the channel
under their names. -/
theorem EndorsersNamed.addEndorser {channel : ChannelId} {c c' : Channel} {id : PeerId}
    {replace : Bool} (h : w.EndorsersNamed channel) (hc : w.channel? channel = some c)
    (hid : (w.link? id).isSome) (hadd : c.addEndorser (w.nameOf id) id replace = .ok c') :
    (w.setChannel channel c').EndorsersNamed channel := by
  obtain ⟨l, hl⟩ := Option.isSome_iff_exists.mp hid
  rw [Channel.addEndorser] at hadd
  split at hadd
  · exact absurd hadd (by simp)
  · obtain rfl := Except.ok.inj hadd
    refine h.insert (by rw [hc]; rfl) ?_
    simp [World.nameOf, hl]

/-- A new channel has no peers. -/
theorem addChannel_endorsersNamed {name : String} {channel : ChannelId}
    (h : w.addChannel name = .ok (channel, w')) : w'.EndorsersNamed channel := by
  simp only [addChannel, Channel.new] at h
  split at h
  · exact absurd h nofun
  · obtain ⟨rfl, rfl⟩ := Prod.mk.inj (Except.ok.inj h)
    intro c hc name' id hget
    simp only [World.channel?, Table.get?_push_size] at hc
    obtain rfl := Option.some.inj hc
    exact absurd hget nofun

/-- Removing an endorser keeps the others under their names. -/
theorem EndorsersNamed.removeEndorser {channel : ChannelId} {c : Channel}
    (h : w.EndorsersNamed channel) (hc : w.channel? channel = some c) (name : String) :
    (w.setChannel channel (c.removeEndorser name).2).EndorsersNamed channel := by
  intro c' hc' name' id hget
  rw [channel?_setChannel, if_pos rfl, hc] at hc'
  obtain rfl := Option.some.inj hc'
  simp only [Channel.removeEndorser, SortedMap.get?_erase] at hget
  split at hget
  · exact absurd hget nofun
  · exact h c hc name' id hget

/-- Adding a discovered peer keeps the peers of the channel under their names. -/
theorem EndorsersNamed.addPeer {channel : ChannelId} (h : w.EndorsersNamed channel) (r : Reach)
    (d : DiscoveredPeer) : (w.addPeer channel r d).EndorsersNamed channel := by
  simp only [World.addPeer]
  cases hc : w.channel? channel with
  | none => exact h
  | some c =>
      simp only
      split
      · next known _ => exact h.retain (noteState_retains known d w)
      have hmade := addNode_peer_retains d.name (some d.mspid) w
      have hconn := connect_peer_retains (w.addNode .peer d.name (some d.mspid)).1
        (r.endpoint d.host d.port d.mspid c) (w.addNode .peer d.name (some d.mspid)).2
      have hname : ((w.addNode .peer d.name (some d.mspid)).2.link?
          (w.addNode .peer d.name (some d.mspid)).1).map Link.name = some d.name := by
        simp [World.addNode, World.link?]
      have hnamed := hconn.names _ _ hname
      have hall := hmade.trans hconn
      split
      · next heq =>
        rw [heq] at hall
        exact h.retain hall
      · next heq =>
        rw [heq] at hall hnamed
        refine ((h.retain hall).insert ?_ hnamed).retain (noteState_retains _ d _)
        rw [hall.endorsers, hc]
        rfl

/-- Bringing a channel up to date keeps its peers under their names. -/
theorem EndorsersNamed.materialize {channel : ChannelId} (h : w.EndorsersNamed channel)
    (r : Reach) (t : DiscoveryTree) : (w.materialize channel r t).EndorsersNamed channel := by
  have horderers : ∀ (os : List (String × OrdererAddress)) (w : World),
      Retains w (os.foldl (fun w o => w.addOrderer channel r o.1 o.2) w) := by
    intro os
    induction os with
    | nil => exact fun w => .refl w
    | cons o rest ih =>
        exact fun w => (addOrderer_retains channel r o.1 o.2 w).trans (ih _)
  have hpeers : ∀ (ds : List DiscoveredPeer) (w : World), w.EndorsersNamed channel →
      (ds.foldl (fun w d => w.addPeer channel r d) w).EndorsersNamed channel := by
    intro ds
    induction ds with
    | nil => exact fun _ => id
    | cons d rest ih => exact fun w hw => ih _ (hw.addPeer r d)
  refine hpeers _ _ ((h.retain ?_).retain (horderers _ _))
  exact addMsps_retains channel t.msps.values w

end World

namespace ChannelDiscovery

variable {w : World} {d : ChannelDiscovery}

/-- Asking a discovery service retains the peers. -/
theorem sendDiscovery_retains (signed : SignedRequest) (timeout : Option Nat)
    (target : DiscovererId) (w : World) :
    World.Retains w (w.sendDiscovery signed timeout target).2 := by
  simp only [World.sendDiscovery, World.settle, World.call]
  cases w.link? target with
  | none => exact .of_eq rfl rfl
  | some l =>
      simp only [Link.call]
      cases l.service with
      | error e => exact .of_eq rfl rfl
      | ok site =>
          simp only
          cases (World.queriesAt signed site w.network).1 <;> exact .of_eq rfl rfl

/-- Reading a response keeps the peers of the channel under their names. -/
theorem process_endorsersNamed (target : DiscovererId) (asLocalhost : Bool)
    (response : DiscoveryResponse) (h : w.EndorsersNamed d.channel) :
    (d.process target asLocalhost response w).2.2.EndorsersNamed d.channel ∧
      (d.process target asLocalhost response w).2.1.channel = d.channel := by
  simp only [process]
  split
  · exact ⟨h, rfl⟩
  · exact ⟨h.materialize _ _, rfl⟩

/-- Asking discovery services keeps the peers of the channel under their names. -/
theorem askInOrder_endorsersNamed (signed : SignedRequest) (settings : SendSettings)
    (lastError : DiscoveryError) (targets : List DiscovererId)
    (h : w.EndorsersNamed d.channel) :
    (d.askInOrder signed settings lastError targets w).2.2.EndorsersNamed d.channel ∧
      (d.askInOrder signed settings lastError targets w).2.1.channel = d.channel := by
  induction targets generalizing lastError w with
  | nil => exact ⟨h, rfl⟩
  | cons target rest ih =>
      have hsent := sendDiscovery_retains signed settings.timeout target w
      rw [askInOrder]
      split
      · next heq =>
        rw [heq] at hsent
        exact process_endorsersNamed _ _ _ (h.retain hsent)
      · next heq =>
        rw [heq] at hsent
        exact ih _ (h.retain hsent)

/-- Sending a discovery request keeps the peers of the channel under their names. -/
theorem send_endorsersNamed (r : DiscoverRequest) (h : w.EndorsersNamed d.channel) :
    (d.send r w).2.2.EndorsersNamed d.channel ∧ (d.send r w).2.1.channel = d.channel := by
  rw [send]
  split
  · exact ⟨h, rfl⟩
  split
  · exact ⟨h, rfl⟩
  · exact askInOrder_endorsersNamed _ _ _ _ h

/-- Renewing the results keeps the peers of the channel under their names. -/
theorem refreshed_endorsersNamed (h : w.EndorsersNamed d.channel) :
    (d.refreshed w).2.2.EndorsersNamed d.channel ∧ (d.refreshed w).2.1.channel = d.channel := by
  simp only [refreshed, getResults]
  split
  · exact ⟨h, rfl⟩
  split
  · split
    · exact send_endorsersNamed _ h
    · exact ⟨h, rfl⟩
  · exact ⟨h, rfl⟩

end ChannelDiscovery

end LedgerClient
