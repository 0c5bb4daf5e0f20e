import LedgerClient.Proofs.Discovery.Peers

/-!
# Time goes on

Whatever is done in a world, its clock does not go back, and the channels that are there stay
there under their names. Here this is said of what a discovery does.

## Main results

* `World.materialize_onward`: bringing a channel up to date.
* `World.sendDiscovery_onward`: asking a discovery service.
-/

namespace LedgerClient

namespace World

/-- A world after some time: the clock has not gone back, and channels have kept their names. -/
structure Onward (w w' : World) : Prop where
  clock : w.network.clock ≤ w'.network.clock
  named : ∀ id name, (w.channel? id).map Channel.name = some name →
    (w'.channel? id).map Channel.name = some name

variable {w w' w'' : World}

theorem Onward.refl (w : World) : w.Onward w := ⟨Nat.le_refl _, fun _ _ => id⟩

theorem Onward.trans (h : w.Onward w') (h' : w'.Onward w'') : w.Onward w'' :=
  ⟨Nat.le_trans h.clock h'.clock, fun id name hn => h'.named id name (h.named id name hn)⟩

/-- Where the channels are the same only the clock counts. -/
theorem Onward.of_channels_eq (hclock : w.network.clock ≤ w'.network.clock)
    (hchannels : w'.channels = w.channels) : w.Onward w' where
  clock := hclock
  named := by
    intro id name hn
    simpa only [channel?, hchannels] using hn

/-- Steps that go onward one after another go onward. -/
theorem Onward.foldl {α : Type} {f : World → α → World} (h : ∀ (w : World) a, w.Onward (f w a))
    (as : List α) (w : World) : w.Onward (as.foldl f w) := by
  induction as generalizing w with
  | nil => exact .refl w
  | cons a rest ih => exact (h w a).trans (ih (f w a))

theorem elapse_onward (ms : Nat) (w : World) : w.Onward (w.elapse ms) :=
  .of_channels_eq (Nat.le_add_right _ _) rfl

/-! ### Nodes and channels -/

/-- Connecting a link does not turn the clock back. -/
theorem clock_connect (k : NodeKind) (l : Link SiteId) (e : Endpoint) (w : World) :
    w.network.clock ≤ (l.connect (transport k) e w).2.2.network.clock := by
  have hdial : ∀ w : World, ((transport k).dial e w).2.network.clock = w.network.clock := by
    intro w
    cases k <;> rfl
  have hclose : ∀ site (w : World),
      ((transport k).close site w).network.clock = w.network.clock := by
    intro site w
    cases k <;> rfl
  have helapse : ∀ ms (w : World),
      ((transport k).elapse ms w).network.clock = w.network.clock + ms := by
    intro ms w
    cases k <;> rfl
  have hdialled := hdial w
  simp only [Link.connect]
  split
  · exact Nat.le_refl _
  · split
    · next heq =>
      simp only [heq] at hdialled
      exact Nat.le_of_eq hdialled.symm
    · next heq =>
      simp only [heq] at hdialled
      simp only [helapse, hdialled]
      omega
    · next heq =>
      simp only [heq] at hdialled
      split
      · exact Nat.le_of_eq hdialled.symm
      · simp only [hclose, hdialled]
        omega
      · simp only [hclose, helapse, hdialled]
        omega

theorem connect_peer_onward (id : PeerId) (e : Endpoint) (w : World) :
    w.Onward (w.connect id e).2 := by
  simp only [World.connect]
  cases w.link? id with
  | none => exact .refl w
  | some l =>
      have hclock := clock_connect .peer l e w
      obtain ⟨n, hn⟩ := connect_transport .peer l e w
      simp only [hn] at hclock ⊢
      exact .of_channels_eq hclock rfl

theorem connect_orderer_onward (id : OrdererId) (e : Endpoint) (w : World) :
    w.Onward (w.connect id e).2 := by
  simp only [World.connect]
  cases w.link? id with
  | none => exact .refl w
  | some l =>
      have hclock := clock_connect .orderer l e w
      obtain ⟨n, hn⟩ := connect_transport .orderer l e w
      simp only [hn] at hclock ⊢
      exact .of_channels_eq hclock rfl

/-- Changing a channel but for its name goes onward. -/
theorem setChannel_onward {id : ChannelId} {c : Channel}
    (hc : (w.channel? id).map Channel.name = some c.name) : w.Onward (w.setChannel id c) where
  clock := Nat.le_refl _
  named := by
    intro id' name hn
    rw [channel?_setChannel]
    split
    · next heq =>
      rw [← heq] at hn ⊢
      obtain ⟨c₀, hc₀, -⟩ := Option.map_eq_some_iff.mp hc
      rw [hc] at hn
      rw [hc₀]
      exact hn
    · exact hn

theorem noteState_onward (id : PeerId) (d : DiscoveredPeer) (w : World) :
    w.Onward (w.noteState id d) := by
  rw [noteState]
  split
  · exact .of_channels_eq (Nat.le_refl _) rfl
  · exact .refl w

theorem addMsps_onward (id : ChannelId) (msps : List MspInfo) (w : World) :
    w.Onward (w.addMsps id msps) := by
  rw [addMsps]
  split
  · exact .refl w
  · next c hc => exact setChannel_onward (by rw [hc]; rfl)

/-- Adding an orderer goes onward. -/
theorem addOrderer_onward (id : ChannelId) (r : Reach) (mspid : String)
    (address : OrdererAddress) (w : World) : w.Onward (w.addOrderer id r mspid address) := by
  simp only [addOrderer]
  split
  · exact .refl w
  next c hc =>
  split
  · exact .refl w
  have hmade : w.Onward (w.addNode .orderer address.name (some mspid)).2 :=
    .of_channels_eq (Nat.le_refl _) rfl
  have hconnected := hmade.trans (connect_orderer_onward
    (w.addNode .orderer address.name (some mspid)).1
    (r.endpoint address.host address.port mspid c) _)
  split
  · next heq =>
    rw [heq] at hconnected
    exact hconnected
  · next heq =>
    rw [heq] at hconnected
    exact hconnected.trans (setChannel_onward (hconnected.named id c.name (by rw [hc]; rfl)))

/-- Adding a peer goes onward. -/
theorem addPeer_onward (id : ChannelId) (r : Reach) (d : DiscoveredPeer) (w : World) :
    w.Onward (w.addPeer id r d) := by
  simp only [addPeer]
  split
  · exact .refl w
  next c hc =>
  split
  · exact noteState_onward _ d w
  have hmade : w.Onward (w.addNode .peer d.name (some d.mspid)).2 :=
    .of_channels_eq (Nat.le_refl _) rfl
  have hconnected := hmade.trans (connect_peer_onward
    (w.addNode .peer d.name (some d.mspid)).1 (r.endpoint d.host d.port d.mspid c) _)
  split
  · next heq =>
    rw [heq] at hconnected
    exact hconnected
  · next heq =>
    rw [heq] at hconnected
    refine (hconnected.trans (setChannel_onward ?_)).trans (noteState_onward _ d _)
    exact hconnected.named id c.name (by rw [hc]; rfl)

/-- Bringing a channel up to date goes onward. -/
theorem materialize_onward (id : ChannelId) (r : Reach) (t : DiscoveryTree) (w : World) :
    w.Onward (w.materialize id r t) := by
  have hmsps := addMsps_onward id t.msps.values w
  have horderers := Onward.foldl
    (fun w (o : String × OrdererAddress) => addOrderer_onward id r o.1 o.2 w)
    t.channelOrderers (w.addMsps id t.msps.values)
  exact (hmsps.trans horderers).trans (.foldl (fun w d => addPeer_onward id r d w) _ _)

/-- Asking a discovery service goes onward. -/
theorem sendDiscovery_onward (signed : SignedRequest) (timeout : Option Nat)
    (target : DiscovererId) (w : World) :
    w.Onward (w.sendDiscovery signed timeout target).2 := by
  simp only [sendDiscovery, settle, call]
  cases w.link? target with
  | none => exact elapse_onward 0 w
  | some l =>
      simp only [Link.call]
      cases l.service with
      | error e => exact elapse_onward 0 w
      | ok site =>
          simp only
          cases (queriesAt signed site w.network).1 <;>
            exact .of_channels_eq (Nat.le_add_right _ _) rfl

end World

end LedgerClient
