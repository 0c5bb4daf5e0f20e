import LedgerClient.Network.World

/-!
# Connection attempts

A new node is connected to the service that listens at the endpoint's address, provided that
dialling comes to an end and the service is ready. What an attempt does to the network depends
on the endpoint only, and no attempt changes which services can be reached.

## Main results

* `World.connect_fresh`: what connecting a node comes to that is not connected.
* `Network.reached?_attempt`: an attempt changes nothing about what can be reached.
-/

namespace LedgerClient

namespace Exchange

variable {β : Type}

/-- The service that a connection to an address is made with: it listens there and is ready. -/
def reached? (address : String) (x : Exchange β) : Option SiteId :=
  if x.hanging.contains address then none
  else
    match x.addresses.get? address with
    | none => none
    | some site =>
      match x.readiness site with
      | .ok () => some site
      | _ => none

/-- Whether a service is ready does not depend on clients that were closed. -/
theorem readiness_close (site site' : SiteId) (x : Exchange β) :
    (x.close site).readiness site' = x.readiness site' := by
  simp only [close, modify, readiness]
  by_cases heq : site.index = site'.index
  · rw [← heq, Table.get?_modify_self]
    cases x.sites.get? site.index <;> rfl
  · rw [Table.get?_modify_ne _ _ heq]

theorem reached?_close (address : String) (site : SiteId) (x : Exchange β) :
    (x.close site).reached? address = x.reached? address := by
  simp only [reached?, readiness_close]
  rfl

/-- What dialling an address comes to, and what this means for a connection. -/
theorem dial_cases (e : Endpoint) (x : Exchange β) :
    (x.dial e = (.hang, x) ∧ x.reached? e.address = none) ∨
      (∃ reason, x.dial e = (.fail reason, x) ∧ x.reached? e.address = none) ∨
      ∃ site, x.dial e = (.ok site, { x with connected := x.connected ++ [e] }) ∧
        x.reached? e.address = match x.readiness site with
          | .ok () => some site
          | _ => none := by
  simp only [dial, reached?]
  split
  · exact .inl ⟨rfl, rfl⟩
  · split
    · next site heq => exact .inr (.inr ⟨site, rfl, by rw [heq]⟩)
    · next heq => exact .inr (.inl ⟨_, rfl, by rw [heq]⟩)

end Exchange

/-- The service of a kind of node that a connection to an address is made with. -/
def Network.reached? : NodeKind → String → Network → Option SiteId
  | .peer, address, n => n.endorsers.reached? address
  | .orderer, address, n => n.orderers.reached? address
  | .eventer, address, n => n.deliveries.reached? address
  | .discoverer, address, n => n.discoveries.reached? address

/-- The network after an attempt to connect a node of some kind to an endpoint. -/
def Network.attempt (k : NodeKind) (e : Endpoint) (n : Network) : Network :=
  (Link.connect (World.transport k) e { name := "", kind := k.service, mspid := none }
    ({ network := n } : World)).2.2.network

namespace Link

variable {σ γ : Type} {t : Transport σ γ} {e : Endpoint} {l : Link γ} {s s' : σ} {client : γ}
  {reason : String}

theorem connect_of_dial_fail (hl : l.client = none) (h : t.dial e s = (.fail reason, s')) :
    l.connect t e s = (.error (.connectFailed (l.infoAt e.url) reason), l, s') := by
  simp [connect, isConnected, hl, h]

theorem connect_of_dial_hang (hl : l.client = none) (h : t.dial e s = (.hang, s')) :
    l.connect t e s =
      (.error (.timeout (l.infoAt e.url) .connect e.options.connectTimeout), l,
        t.elapse e.options.connectTimeout s') := by
  simp [connect, isConnected, hl, h]

theorem connect_of_ready (hl : l.client = none) (h : t.dial e s = (.ok client, s'))
    (hr : t.ready client s' = .ok ()) :
    l.connect t e s = (.ok (), { l with endpoint := some e, client := some client }, s') := by
  simp [connect, isConnected, hl, h, hr]

theorem connect_of_ready_fail (hl : l.client = none) (h : t.dial e s = (.ok client, s'))
    (hr : t.ready client s' = .fail reason) :
    l.connect t e s =
      (.error (.connectFailed (l.infoAt e.url) reason), l, t.close client s') := by
  simp [connect, isConnected, hl, h, hr]

theorem connect_of_ready_hang (hl : l.client = none) (h : t.dial e s = (.ok client, s'))
    (hr : t.ready client s' = .hang) :
    l.connect t e s =
      (.error (.timeout (l.infoAt e.url) .waitForReady e.options.connectTimeout), l,
        t.close client (t.elapse e.options.connectTimeout s')) := by
  simp [connect, isConnected, hl, h, hr]

end Link

/-- What a connection attempt comes to: the link has reached a service, or is as it was. -/
def Link.Attempted (e : Endpoint) (l : Link SiteId) (site? : Option SiteId)
    (result : Except ServiceError Unit) (l' : Link SiteId) : Prop :=
  match site? with
  | some site => result = .ok () ∧ l' = { l with endpoint := some e, client := some site }
  | none => (∃ error, result = .error error) ∧ l' = l

/-- The exchange at which nodes of a kind are connected: it can be replaced without regard to
the clock, and with it is replaced what nodes of this kind can reach. -/
structure Network.Place (k : NodeKind) {β : Type} (get : Network → Exchange β)
    (set : Exchange β → Network → Network) : Prop where
  transport_eq : World.transport k = World.reach get set
  get_set : ∀ x n, get (set x n) = x
  get_clock : ∀ n clock, get { n with clock } = get n
  set_set : ∀ x y n, set y (set x n) = set y n
  set_clock : ∀ x n clock, set x { n with clock } = { set x n with clock }
  clock_set : ∀ x n, (set x n).clock = n.clock
  reached?_eq : ∀ n address, n.reached? k address = (get n).reached? address
  reached?_set : ∀ x n clock (k' : NodeKind) address,
    ({ set x n with clock } : Network).reached? k' address =
      if k' = k then x.reached? address else n.reached? k' address

/-- Nodes of every kind are connected at some exchange. -/
theorem Network.exists_place (k : NodeKind) :
    ∃ (β : Type) (get : Network → Exchange β) (set : Exchange β → Network → Network),
      Place k get set := by
  have hset : ∀ {k : NodeKind} {β : Type} {x : Exchange β} {n n' : Network},
      (∀ address, n'.reached? k address = x.reached? address) →
      (∀ k' address, k' ≠ k → n'.reached? k' address = n.reached? k' address) →
      ∀ (k' : NodeKind) address, n'.reached? k' address =
        if k' = k then x.reached? address else n.reached? k' address := by
    intro k β x n n' hk hne k' address
    split
    · next heq => rw [heq, hk]
    · next hneq => exact hne k' address hneq
  cases k
  · refine ⟨_, Network.endorsers, fun x n => { n with endorsers := x }, rfl, fun _ _ => rfl,
      fun _ _ => rfl, fun _ _ _ => rfl, fun _ _ _ => rfl, fun _ _ => rfl, fun _ _ => rfl,
      fun x n clock => hset (fun _ => rfl) fun k' address hne => ?_⟩
    cases k' with
    | peer => exact absurd rfl hne
    | orderer | eventer | discoverer => rfl
  · refine ⟨_, Network.orderers, fun x n => { n with orderers := x }, rfl, fun _ _ => rfl,
      fun _ _ => rfl, fun _ _ _ => rfl, fun _ _ _ => rfl, fun _ _ => rfl, fun _ _ => rfl,
      fun x n clock => hset (fun _ => rfl) fun k' address hne => ?_⟩
    cases k' with
    | orderer => exact absurd rfl hne
    | peer | eventer | discoverer => rfl
  · refine ⟨_, Network.deliveries, fun x n => { n with deliveries := x }, rfl, fun _ _ => rfl,
      fun _ _ => rfl, fun _ _ _ => rfl, fun _ _ _ => rfl, fun _ _ => rfl, fun _ _ => rfl,
      fun x n clock => hset (fun _ => rfl) fun k' address hne => ?_⟩
    cases k' with
    | eventer => exact absurd rfl hne
    | peer | orderer | discoverer => rfl
  · refine ⟨_, Network.discoveries, fun x n => { n with discoveries := x }, rfl, fun _ _ => rfl,
      fun _ _ => rfl, fun _ _ _ => rfl, fun _ _ _ => rfl, fun _ _ => rfl, fun _ _ => rfl,
      fun x n clock => hset (fun _ => rfl) fun k' address hne => ?_⟩
    cases k' with
    | discoverer => exact absurd rfl hne
    | peer | orderer | eventer => rfl

namespace World

section Reach

variable {k : NodeKind} {β : Type} {get : Network → Exchange β}
  {set : Exchange β → Network → Network}

/-- Closing a client of a service that was dialled, some time later. -/
theorem close_elapse (hplace : Network.Place k get set) (site : SiteId) (ms : Nat) (x : Exchange β)
    (w : World) :
    (reach get set).close site (({ w with network := set x w.network } : World).elapse ms) =
      ({ w with network := set (x.close site) w.network } : World).elapse ms := by
  simp only [reach, elapse]
  rw [hplace.get_clock, hplace.get_set, hplace.set_clock, hplace.set_set, hplace.clock_set,
    hplace.clock_set]

/-- An attempt over one exchange: the exchange and the time afterwards, which are the same
whoever makes the attempt, what can be reached then, and what comes of the attempt. -/
theorem connect_reach (hplace : Network.Place k get set) (e : Endpoint) (n : Network) :
    ∃ x ms, (∀ address, x.reached? address = (get n).reached? address) ∧
      ∀ (l : Link SiteId) (w : World), l.client = none → w.network = n →
        ∃ result l', l.Attempted e ((get n).reached? e.address) result l' ∧
          l.connect (reach get set) e w =
            (result, l', ({ w with network := set x n } : World).elapse ms) := by
  have hdialled : ∀ w : World, w.network = n → (reach get set).dial e w =
      (((get n).dial e).1, { w with network := set ((get n).dial e).2 n }) := by
    rintro w rfl
    rfl
  have hready : ∀ (site : SiteId) (w : World), w.network = n →
      (reach get set).ready site { w with network := set ((get n).dial e).2 n } =
        ((get n).dial e).2.readiness site := by
    intro site w _
    simp only [reach, hplace.get_set]
  have hclosed : ∀ (site : SiteId) (ms : Nat) (w : World), w.network = n →
      (reach get set).close site
          (({ w with network := set ((get n).dial e).2 n } : World).elapse ms) =
        ({ w with network := set (((get n).dial e).2.close site) n } : World).elapse ms := by
    rintro site ms w rfl
    exact close_elapse hplace site ms _ w
  rcases (get n).dial_cases e with ⟨hdial, hreached⟩ | ⟨reason, hdial, hreached⟩ |
    ⟨site, hdial, hreached⟩
  · refine ⟨get n, e.options.connectTimeout, fun _ => rfl, fun l w hl hw => ⟨_, _, ?_,
      Link.connect_of_dial_hang hl ((hdialled w hw).trans (by rw [hdial]))⟩⟩
    rw [hreached]
    exact ⟨⟨_, rfl⟩, rfl⟩
  · refine ⟨get n, 0, fun _ => rfl, fun l w hl hw => ⟨_, _, ?_,
      Link.connect_of_dial_fail hl ((hdialled w hw).trans (by rw [hdial]; rfl))⟩⟩
    rw [hreached]
    exact ⟨⟨_, rfl⟩, rfl⟩
  have hsame : ∀ address, ((get n).dial e).2.reached? address = (get n).reached? address := by
    intro address
    rw [hdial]
    rfl
  have hdialled' : ∀ w : World, w.network = n → (reach get set).dial e w =
      (.ok site, { w with network := set ((get n).dial e).2 n }) := by
    intro w hw
    rw [hdialled w hw, hdial]
  -- A service that is dialled is reached if it is ready.
  have hr : (get n).readiness site = ((get n).dial e).2.readiness site := by
    rw [hdial]
    rfl
  rw [hr] at hreached
  cases hreadiness : ((get n).dial e).2.readiness site with
  | ok =>
      refine ⟨((get n).dial e).2, 0, hsame, fun l w hl hw => ⟨_, _, ?_,
        Link.connect_of_ready hl (hdialled' w hw) ((hready site w hw).trans hreadiness)⟩⟩
      rw [hreached, hreadiness]
      exact ⟨rfl, rfl⟩
  | fail reason =>
      refine ⟨((get n).dial e).2.close site, 0, fun address => ?_, fun l w hl hw => ⟨_, _, ?_,
        (Link.connect_of_ready_fail hl (hdialled' w hw)
          ((hready site w hw).trans hreadiness)).trans (by rw [← hclosed site 0 w hw]; rfl)⟩⟩
      · rw [Exchange.reached?_close, hsame]
      · rw [hreached, hreadiness]
        exact ⟨⟨_, rfl⟩, rfl⟩
  | hang =>
      refine ⟨((get n).dial e).2.close site, e.options.connectTimeout, fun address => ?_,
        fun l w hl hw => ⟨_, _, ?_,
          (Link.connect_of_ready_hang hl (hdialled' w hw)
            ((hready site w hw).trans hreadiness)).trans
              (by rw [← hclosed site e.options.connectTimeout w hw]; rfl)⟩⟩
      · rw [Exchange.reached?_close, hsame]
      · rw [hreached, hreadiness]
        exact ⟨⟨_, rfl⟩, rfl⟩

end Reach

/-- What connecting a link comes to that is not connected; what it does to the network depends
on the endpoint only, and does not change what can be reached. -/
theorem connect_fresh (k : NodeKind) (e : Endpoint) (n : Network) :
    (∀ (k' : NodeKind) (address : String),
      (n.attempt k e).reached? k' address = n.reached? k' address) ∧
      ∀ (l : Link SiteId) (w : World), l.client = none → w.network = n →
        ∃ result l', l.Attempted e (n.reached? k e.address) result l' ∧
          l.connect (transport k) e w = (result, l', { w with network := n.attempt k e }) := by
  obtain ⟨β, get, set, hplace⟩ := Network.exists_place k
  obtain ⟨x, ms, hsame, hconnect⟩ := connect_reach hplace e n
  rw [← hplace.transport_eq, ← hplace.reached?_eq] at hconnect
  have hattempt : n.attempt k e = { set x n with clock := (set x n).clock + ms } := by
    obtain ⟨result, l', -, heq⟩ := hconnect { name := "", kind := k.service, mspid := none }
      { network := n } rfl rfl
    rw [Network.attempt, heq]
    rfl
  rw [hattempt]
  refine ⟨fun k' address => ?_, hconnect⟩
  rw [hplace.reached?_set]
  split
  · next heq => rw [heq, hsame, hplace.reached?_eq]
  · rfl

end World

end LedgerClient
