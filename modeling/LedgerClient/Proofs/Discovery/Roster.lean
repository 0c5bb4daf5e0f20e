import LedgerClient.Proofs.Network.Connect

/-!
# Rosters

A roster tells which nodes of one kind a client has made, and under which names a channel has
them. Nodes that an answer advertises join one after the other: a name that the channel
has is left alone, for any other a new node is made and connected, and if this succeeds the
channel has it under the name from then on.

## Main results

* `Roster.joined_foldl_join`: what a roster is like after a list of nodes has joined.
* `Roster.Named.joined`: a channel that has its nodes under their own names goes on to.
-/

namespace LedgerClient

/-- A node as an answer advertises it: its name, its organization, and the endpoint at which it
is to be reached. -/
structure Advertised where
  name : String
  mspid : String
  endpoint : Endpoint

/-- The service that a connection to an advertised node is made with. -/
def Network.serving? (k : NodeKind) (n : Network) (a : Advertised) : Option SiteId :=
  n.reached? k a.endpoint.address

/-- The link of a node that was made as advertised, and connected if there is a service. -/
def Advertised.link (k : NodeKind) (a : Advertised) (site? : Option SiteId) : Link SiteId :=
  { name := a.name
    kind := k.service
    mspid := some a.mspid
    endpoint := site?.map fun _ => a.endpoint
    client := site? }

/-- What connecting a node comes to, if there is a service or not. -/
def ConnectsTo (site? : Option SiteId) (result : Except ServiceError Unit) : Prop :=
  match site? with
  | some _ => result = .ok ()
  | none => ∃ error, result = .error error

/-- Connecting a new node as advertised. -/
theorem Advertised.connect (k : NodeKind) (a : Advertised) (w : World) :
    ∃ result, ConnectsTo (w.network.serving? k a) result ∧
      ({ name := a.name, kind := k.service, mspid := some a.mspid } : Link SiteId).connect
          (World.transport k) a.endpoint w =
        (result, a.link k (w.network.serving? k a),
          { w with network := w.network.attempt k a.endpoint }) := by
  obtain ⟨result, l, hattempted, hconnect⟩ := (World.connect_fresh k a.endpoint w.network).2
    { name := a.name, kind := k.service, mspid := some a.mspid } w rfl rfl
  rw [← Network.serving?] at hattempted
  cases hserving : w.network.serving? k a with
  | some site =>
      rw [hserving] at hattempted
      obtain ⟨hresult, rfl⟩ := hattempted
      exact ⟨result, hresult, hconnect⟩
  | none =>
      rw [hserving] at hattempted
      obtain ⟨hresult, rfl⟩ := hattempted
      exact ⟨result, hresult, hconnect⟩

/-- The nodes of a kind that a client has made, which of them a channel has under which names,
and the network that they are connected over. -/
structure Roster (k : NodeKind) where
  links : List (Link SiteId)
  members : SortedMap String (NodeId k)
  network : Network

namespace Roster

variable {k : NodeKind}

/-- Lets an advertised node join, unless its name is taken. -/
def join (a : Advertised) (s : Roster k) : Roster k :=
  if s.members.contains a.name then s
  else
    { links := s.links ++ [a.link k (s.network.serving? k a)]
      members :=
        match s.network.serving? k a with
        | some _ => s.members.insert a.name ⟨s.links.length⟩
        | none => s.members
      network := s.network.attempt k a.endpoint }

/-- What comes of letting the nodes `advertised` join a roster: `attempts` are those that were
made and tried to connect. -/
structure Joined (advertised attempts : List Advertised) (s s' : Roster k) : Prop where
  /-- Only advertised nodes are tried, in their order. -/
  sublist : attempts.Sublist advertised
  /-- Nobody tries to connect a node that the channel has. -/
  absent : ∀ a ∈ attempts, s.members.get? a.name = none
  /-- No node is connected twice. -/
  once : ((attempts.filter fun a => (s.network.serving? k a).isSome).map Advertised.name).Nodup
  /-- Nodes that were there are as they were, and each attempt has made one. -/
  links : s'.links = s.links ++ attempts.map fun a => a.link k (s.network.serving? k a)
  /-- The network has seen these attempts and no others. -/
  network : s'.network = attempts.foldl (fun n a => n.attempt k a.endpoint) s.network
  /-- The channel keeps the nodes it has. -/
  kept : ∀ {name id}, s.members.get? name = some id → s'.members.get? name = some id
  /-- New names are those of nodes that could be connected. -/
  added : ∀ {name}, s.members.get? name = none →
    ((s'.members.get? name).isSome ↔
      ∃ a ∈ advertised, a.name = name ∧ (s.network.serving? k a).isSome)
  /-- Under a new name the channel has the node of the attempt that succeeded. -/
  connected : ∀ {name id}, s.members.get? name = none → s'.members.get? name = some id →
    ∃ a ∈ attempts, ∃ site, a.name = name ∧ s.network.serving? k a = some site ∧
      s'.links[id.index]? = some (a.link k (some site))

/-- What can be reached does not change when somebody tries to connect. -/
theorem serving?_attempt (k' : NodeKind) (e : Endpoint) (n : Network) (a : Advertised) :
    (n.attempt k' e).serving? k a = n.serving? k a :=
  (World.connect_fresh k' e n).1 k a.endpoint.address

/-- Nobody joins. -/
theorem Joined.nil (s : Roster k) : Joined [] [] s s where
  sublist := .slnil
  absent := List.forall_mem_nil _
  once := List.nodup_nil
  links := (List.append_nil _).symm
  network := rfl
  kept := id
  added := by simp_all
  connected := fun hnone hsome => nomatch hnone.symm.trans hsome

variable {a : Advertised} {advertised attempts : List Advertised} {s s' : Roster k}

/-- A node whose name is taken is left alone. -/
theorem join_of_taken {id : NodeId k} (h : s.members.get? a.name = some id) : s.join a = s := by
  rw [join, if_pos (by simp [SortedMap.contains, h])]

/-- For a name that is free a node is made. -/
theorem join_of_free (h : s.members.get? a.name = none) :
    s.join a =
      { links := s.links ++ [a.link k (s.network.serving? k a)]
        members :=
          match s.network.serving? k a with
          | some _ => s.members.insert a.name ⟨s.links.length⟩
          | none => s.members
        network := s.network.attempt k a.endpoint } := by
  rw [join, if_neg (by simp [SortedMap.contains, h])]

/-- What can be reached does not change when a node joins. -/
theorem serving?_join (b : Advertised) :
    (s.join a).network.serving? k b = s.network.serving? k b := by
  rw [join]
  split
  · rfl
  · exact serving?_attempt k a.endpoint s.network b

/-- Under any other name the channel has the same as before a node joins. -/
theorem get?_join_of_ne {name : String} (hne : name ≠ a.name) :
    (s.join a).members.get? name = s.members.get? name := by
  rw [join]
  split
  · rfl
  · cases s.network.serving? k a with
    | none => rfl
    | some site => rw [SortedMap.get?_insert, if_neg hne]

/-- The channel keeps the nodes it has when a node joins. -/
theorem get?_join_of_get? {name : String} {id : NodeId k} (h : s.members.get? name = some id) :
    (s.join a).members.get? name = some id := by
  by_cases heq : name = a.name
  · rw [join_of_taken (heq ▸ h), h]
  · rw [get?_join_of_ne heq, h]

/-- A node whose name is taken adds nothing. -/
theorem Joined.skip {id : NodeId k} (htaken : s.members.get? a.name = some id)
    (h : Joined advertised attempts s s') : Joined (a :: advertised) attempts s s' :=
  { h with
    sublist := h.sublist.cons a
    added := by
      intro name hnone
      rw [h.added hnone]
      constructor
      · rintro ⟨b, hb, hrest⟩
        exact ⟨b, List.mem_cons_of_mem a hb, hrest⟩
      · rintro ⟨b, hb, rfl, hserved⟩
        rcases List.mem_cons.mp hb with rfl | hb
        · exact nomatch hnone.symm.trans htaken
        · exact ⟨b, hb, rfl, hserved⟩ }

/-- A node that has been tried comes before the attempts that follow, whatever came of it. -/
theorem Joined.attempt (hfree : s.members.get? a.name = none)
    (h : Joined advertised attempts (s.join a) s') :
    Joined (a :: advertised) (a :: attempts) s s' := by
  have hserving : ∀ b, (s.join a).network.serving? k b = s.network.serving? k b := serving?_join
  have hlinks : (s.join a).links = s.links ++ [a.link k (s.network.serving? k a)] := by
    rw [join_of_free hfree]
  have hnetwork : (s.join a).network = s.network.attempt k a.endpoint := by
    rw [join_of_free hfree]
  -- Under its name the channel has the node, provided that it could be connected.
  have hmembers : ∀ name, (s.join a).members.get? name =
      if name = a.name ∧ (s.network.serving? k a).isSome then some ⟨s.links.length⟩
      else s.members.get? name := by
    intro name
    rw [join_of_free hfree]
    cases s.network.serving? k a with
    | none => simp
    | some site => simp [SortedMap.get?_insert]
  have hstill : ∀ {name}, (s.join a).members.get? name = none → s.members.get? name = none := by
    intro name hnone
    rw [hmembers] at hnone
    split at hnone
    · cases hnone
    · exact hnone
  exact {
    sublist := h.sublist.cons_cons a
    absent := by
      intro b hb
      rcases List.mem_cons.mp hb with rfl | hb
      · exact hfree
      · exact hstill (h.absent b hb)
    once := by
      have honce := h.once
      simp only [hserving] at honce
      rw [List.filter_cons]
      split
      · next hserved =>
        refine List.nodup_cons.mpr ⟨?_, honce⟩
        intro hmem
        obtain ⟨b, hb, hname⟩ := List.mem_map.mp hmem
        have hnone := h.absent b (List.mem_filter.mp hb).1
        rw [hmembers, if_pos ⟨hname, hserved⟩] at hnone
        cases hnone
      · exact honce
    links := by
      rw [h.links, hlinks]
      simp only [hserving, List.append_assoc, List.map_cons, List.singleton_append]
    network := by
      rw [h.network, hnetwork, List.foldl_cons]
    kept := fun hsome => h.kept (get?_join_of_get? hsome)
    added := by
      intro name hnone
      simp only [List.mem_cons, exists_eq_or_imp]
      by_cases hnew : name = a.name ∧ (s.network.serving? k a).isSome
      · have hhere : (s.join a).members.get? name = some ⟨s.links.length⟩ := by
          rw [hmembers, if_pos hnew]
        rw [h.kept hhere]
        exact ⟨fun _ => .inl ⟨hnew.1.symm, hnew.2⟩, fun _ => rfl⟩
      · have hhere : (s.join a).members.get? name = none := by
          rw [hmembers, if_neg hnew, hnone]
        rw [h.added hhere]
        simp only [hserving]
        constructor
        · exact .inr
        · rintro (⟨hname, hserved⟩ | hrest)
          · exact absurd ⟨hname.symm, hserved⟩ hnew
          · exact hrest
    connected := by
      intro name id hnone hsome
      by_cases hnew : name = a.name ∧ (s.network.serving? k a).isSome
      · have hhere : (s.join a).members.get? name = some ⟨s.links.length⟩ := by
          rw [hmembers, if_pos hnew]
        obtain rfl := Option.some.inj ((h.kept hhere).symm.trans hsome)
        obtain ⟨site, hsite⟩ := Option.isSome_iff_exists.mp hnew.2
        refine ⟨a, List.mem_cons_self, site, hnew.1.symm, hsite, ?_⟩
        rw [h.links, hlinks, hsite]
        simp
      · have hhere : (s.join a).members.get? name = none := by
          rw [hmembers, if_neg hnew, hnone]
        obtain ⟨b, hb, hrest⟩ := h.connected hhere hsome
        simp only [hserving] at hrest
        exact ⟨b, List.mem_cons_of_mem a hb, hrest⟩ }

/-- What comes of letting a list of nodes join one after the other. -/
theorem joined_foldl_join (advertised : List Advertised) (s : Roster k) :
    ∃ attempts, Joined advertised attempts s (advertised.foldl (fun s a => s.join a) s) := by
  induction advertised generalizing s with
  | nil => exact ⟨[], .nil s⟩
  | cons a rest ih =>
      obtain ⟨attempts, hrest⟩ := ih (s.join a)
      rw [List.foldl_cons]
      cases hname : s.members.get? a.name with
      | some id =>
          rw [join_of_taken hname] at hrest ⊢
          exact ⟨attempts, hrest.skip hname⟩
      | none => exact ⟨a :: attempts, hrest.attempt hname⟩

/-! ### Names -/

/-- The channel has its nodes under their own names. -/
def Named (s : Roster k) : Prop :=
  ∀ name id, s.members.get? name = some id →
    (s.links[id.index]?).map Link.name = some name

/-- No node is on the channel under two names. -/
theorem Named.name_eq (h : s.Named) {name name' : String} {id : NodeId k}
    (hname : s.members.get? name = some id) (hname' : s.members.get? name' = some id) :
    name = name' :=
  Option.some.inj ((h name id hname).symm.trans (h name' id hname'))

/-- When nodes join, the channel still has its nodes under their own names. -/
theorem Named.joined (h : s.Named) (hjoined : Joined advertised attempts s s') : s'.Named := by
  intro name id hget
  cases hold : s.members.get? name with
  | some id₀ =>
      obtain rfl := Option.some.inj ((hjoined.kept hold).symm.trans hget)
      obtain ⟨l, hl, hname⟩ := Option.map_eq_some_iff.mp (h name id₀ hold)
      obtain ⟨hlt, -⟩ := List.getElem?_eq_some_iff.mp hl
      rw [hjoined.links, List.getElem?_append_left hlt, hl]
      exact congrArg some hname
  | none =>
      obtain ⟨a, -, site, rfl, -, hlink⟩ := hjoined.connected hold hget
      rw [hlink]
      rfl

theorem Named.foldl_join (h : s.Named) (advertised : List Advertised) :
    (advertised.foldl (fun s a => s.join a) s).Named := by
  obtain ⟨attempts, hjoined⟩ := joined_foldl_join advertised s
  exact h.joined hjoined

end Roster

end LedgerClient
