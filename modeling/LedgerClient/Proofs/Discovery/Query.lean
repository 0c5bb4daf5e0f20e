import LedgerClient.Discovery.Query
import LedgerClient.Proofs.Discovery.Commit

/-!
# Queries to a channel

A query goes to all peers of a channel at once. Each of them has its own timer, and what it
answers is written down beforehand, so its outcome is the one it would have alone, however many
others fail or never answer. The outcomes are then divided into responses and errors.

## Main results

* `World.together_outcomes`: asked at once, peers have the outcomes they have alone.
* `ProposalResults.ofOutcomes_divided`: each outcome is found in its place on one side.
* `ChannelDiscovery.query_settles_all`: what a query to a channel comes to.
-/

namespace LedgerClient

/-! ### Asking peers at once -/

namespace World

variable {w w' : World} {proposal : SignedProposal} {timeout : Option Nat} {id : PeerId}

/-- What a peer alone says to a proposal, and the time it takes. A peer that never answers takes
all the time it has. -/
def resultAt (timeout : Option Nat) (id : PeerId) (w : World) :
    Except ServiceError ProposalResponse × Nat :=
  match w.link? id with
  | none => (.error (.notConnected {}), 0)
  | some l =>
    match l.client with
    | none => (.error (.notConnected l.connectionInfo), 0)
    | some site =>
      match endorserReply site w.network with
      | .ok response => (.ok response, 0)
      | .fail reason => (.error (.transport l.connectionInfo .sendProposal reason), 0)
      | .hang =>
        (.error (.timeout l.connectionInfo .sendProposal (l.requestTimeout timeout)),
          l.requestTimeout timeout)

/-- What becomes of a proposal at a peer alone. -/
def outcomeAt (timeout : Option Nat) (id : PeerId) (w : World) : PeerOutcome :=
  w.proposalOutcome id (w.resultAt timeout id).1

/-- What the other peers do has no part in it. -/
theorem outcomeAt_congr (hlink : w'.link? id = w.link? id)
    (hreply : ∀ site, (w.link? id).bind Link.client = some site →
      endorserReply site w'.network = endorserReply site w.network) :
    w'.outcomeAt timeout id = w.outcomeAt timeout id := by
  have hresult : w'.resultAt timeout id = w.resultAt timeout id := by
    rw [resultAt, resultAt, hlink]
    cases hl : w.link? id with
    | none => rfl
    | some l =>
        cases hclient : l.client with
        | none => simp only [hclient]
        | some site =>
            have hbind : (w.link? id).bind Link.client = some site := by
              rw [hl]
              exact hclient
            simp only [hclient, hreply site hbind]
  rw [outcomeAt, outcomeAt, hresult, World.proposalOutcome, connectionInfo, hlink]
  rfl

/-- The result of sending a proposal is what the peer says, and the clock stands still. -/
theorem sendProposal_eq : (w.sendProposal proposal timeout id).1 = w.resultAt timeout id ∧
    (w.sendProposal proposal timeout id).2.network.clock = w.network.clock := by
  rw [sendProposal, call, resultAt]
  cases w.link? id with
  | none => exact ⟨rfl, rfl⟩
  | some l =>
      simp only [Link.call, Link.service]
      cases l.client with
      | none => exact ⟨rfl, rfl⟩
      | some site =>
          simp only [proposalAt_fst]
          cases endorserReply site w.network with
          | ok response => exact ⟨rfl, rfl⟩
          | fail reason => exact ⟨rfl, rfl⟩
          | hang => exact ⟨rfl, rfl⟩

/-- What a peer says depends on the peers and their answers only. -/
theorem Alike.resultAt (h : Alike w w') (timeout : Option Nat) (id : PeerId) :
    w'.resultAt timeout id = w.resultAt timeout id := by
  have hsame := (h.sendProposal {} timeout id).1
  rwa [sendProposal_eq.1, sendProposal_eq.1] at hsame

/-- The time that some peers take, none of which waits for another one. -/
def longestWait (timeout : Option Nat) (ids : List PeerId) (longest : Nat) (w : World) : Nat :=
  ids.foldl (fun longest id => max longest (w.resultAt timeout id).2) longest

/-- Asked at once, in a world where others may have been asked before, peers have the outcomes
they have alone. -/
theorem Alike.together_go (h : Alike w w') (ids : List PeerId) (longest : Nat) :
    let request (id : PeerId) (w : World) : (PeerOutcome × Nat) × World :=
      let ((result, ms), w) := w.sendProposal proposal timeout id
      ((w.proposalOutcome id result, ms), w)
    let after := together.go request ids longest w'
    after.1 = ids.map (w.outcomeAt timeout) ∧ Alike w after.2 ∧
      after.2.network.clock = w'.network.clock + w.longestWait timeout ids longest := by
  induction ids generalizing w' longest with
  | nil => exact ⟨rfl, h.elapse longest, rfl⟩
  | cons id rest ih =>
      obtain ⟨hresult, hclock⟩ := @sendProposal_eq w' proposal timeout id
      have hafter := (h.sendProposal proposal timeout id).2
      rw [h.resultAt] at hresult
      obtain ⟨hrest, halike, htime⟩ := ih hafter (max longest (w.resultAt timeout id).2)
      simp only [together.go, hresult]
      refine ⟨?_, halike, ?_⟩
      · rw [hrest, hafter.proposalOutcome]
        rfl
      · rw [htime, hclock]
        rfl

/-- Asked at once, peers have the outcomes they have alone, and the clock moves by the longest of
the times they take. -/
theorem together_outcomes (proposal : SignedProposal) (timeout : Option Nat) (ids : List PeerId)
    (w : World) :
    (w.sendProposals proposal timeout ids).1 = ids.map (w.outcomeAt timeout) ∧
      Alike w (w.sendProposals proposal timeout ids).2 ∧
      (w.sendProposals proposal timeout ids).2.network.clock =
        w.network.clock + w.longestWait timeout ids 0 :=
  (Alike.refl w).together_go ids 0

/-- The outcome at a peer of a channel names the peer. -/
theorem EndorsersNamed.outcomeAt_peer {channel : ChannelId} {c : Channel} {name : String}
    (h : w.EndorsersNamed channel) (hc : w.channel? channel = some c)
    (hid : (name, id) ∈ c.endorsers.entries) : (w.outcomeAt timeout id).peer = name := by
  obtain ⟨l, hl, hname⟩ :=
    Option.map_eq_some_iff.mp (h c hc name id (SortedMap.get?_eq_some_iff.mpr hid))
  rw [outcomeAt, World.proposalOutcome, connectionInfo, hl]
  exact hname

end World

/-! ### Dividing outcomes -/

/-- The outcomes in order, each of them in its place on one of two sides: a response below status
400 as it is, and what went wrong otherwise. A response that reports an error is told with its
status in decimal digits and its message. -/
inductive Divided : List PeerOutcome → List PeerResponse → List PeerFailure → Prop
  | nil : Divided [] [] []
  | response {peer : String} {connection : ConnectionInfo} {r : ProposalResponse}
      {os : List PeerOutcome} {rs : List PeerResponse} {es : List PeerFailure}
      (hr : r.response.status < 400) (h : Divided os rs es) :
      Divided (⟨peer, connection, .ok r⟩ :: os) (⟨peer, connection, r⟩ :: rs) es
  | remote {peer : String} {connection : ConnectionInfo} {r : ProposalResponse}
      {os : List PeerOutcome} {rs : List PeerResponse} {es : List PeerFailure}
      (hr : ¬ r.response.status < 400) (h : Divided os rs es) :
      Divided (⟨peer, connection, .ok r⟩ :: os) rs
        (⟨peer, .remote connection (toString r.response.status.toInt) r.response.message⟩ :: es)
  | failure {peer : String} {connection : ConnectionInfo} {e : ServiceError}
      {os : List PeerOutcome} {rs : List PeerResponse} {es : List PeerFailure}
      (h : Divided os rs es) :
      Divided (⟨peer, connection, .error e⟩ :: os) rs (⟨peer, e⟩ :: es)

/-- The payload of a response with status 200. -/
def PeerOutcome.successPayload? (o : PeerOutcome) : Option Bytes :=
  match o.result with
  | .ok r => if r.response.status = 200 then some r.response.payload else none
  | .error _ => none

namespace Divided

variable {os : List PeerOutcome} {rs : List PeerResponse} {es : List PeerFailure}

/-- No outcome is lost. -/
theorem length_add (h : Divided os rs es) : rs.length + es.length = os.length := by
  induction h with
  | nil => rfl
  | response _ _ ih | remote _ _ ih | failure _ ih =>
      simp only [List.length_cons]
      omega

/-- Query results are the payloads of the outcomes with status 200, in order. -/
theorem queryResults (h : Divided os rs es) :
    ProposalResults.queryResults ⟨rs, es⟩ = os.filterMap PeerOutcome.successPayload? := by
  rw [ProposalResults.queryResults]
  induction h with
  | nil => rfl
  | @response peer connection r os rs es hr _ ih =>
      rw [List.filter_cons, List.filterMap_cons, PeerOutcome.successPayload?]
      by_cases hsuccess : r.response.status = 200
      · have hequal : (r.response.status == ProposalResponse.successStatus) = true :=
          beq_iff_eq.mpr hsuccess
        simp only [hequal, if_pos hsuccess, if_true, List.map_cons, ih]
      · have hdiffer : (r.response.status == ProposalResponse.successStatus) = false :=
          beq_false_of_ne hsuccess
        simp only [hdiffer, if_neg hsuccess, Bool.false_eq_true, if_false, ih]
  | @remote peer connection r os rs es hr _ ih =>
      have hfailed : r.response.status ≠ 200 := by
        rintro hsuccess
        rw [hsuccess] at hr
        exact hr (by decide)
      rw [List.filterMap_cons, PeerOutcome.successPayload?]
      simp only [if_neg hfailed, ih]
  | failure _ ih => exact ih

end Divided

namespace ProposalResults

theorem isError_iff (r : ProposalResponse) : r.isError = true ↔ ¬ r.response.status < 400 := by
  rw [ProposalResponse.isError, decide_eq_true_iff, Int32.not_lt]
  rfl

/-- Each outcome is found in its place on one side. -/
theorem ofOutcomes_divided (os : List PeerOutcome) :
    Divided os (ofOutcomes os).responses (ofOutcomes os).errors := by
  induction os with
  | nil => exact .nil
  | cons o rest ih =>
      obtain ⟨peer, connection, result⟩ := o
      rw [ofOutcomes, List.filterMap_cons, List.filterMap_cons]
      cases result with
      | error e => exact .failure ih
      | ok r =>
          cases herror : r.isError with
          | true =>
              simp only [PeerOutcome.response?, PeerOutcome.failure?, herror]
              exact .remote ((isError_iff r).mp herror) ih
          | false =>
              simp only [PeerOutcome.response?, PeerOutcome.failure?, herror]
              have hlow : r.response.status < 400 :=
                Decidable.not_not.mp fun h => by simp [(isError_iff r).mpr h] at herror
              exact .response hlow ih

end ProposalResults

namespace ChannelDiscovery

variable {d d₁ : ChannelDiscovery} {w w₁ : World} {results : DiscoveryResults} {c : Channel}

/-- What a query to a channel comes to, once the results of the discovery are there and recent
enough or have been renewed, and if the channel then has a peer. Every peer is asked, in the order
of their names, and has the outcome it has alone, whatever the others do; none can make the call
fail. The call takes as long as the slowest peer. Any outcomes at all are divided into responses
and errors, each in its place, and the query results are the payloads of those with status 200. -/
theorem query_settles_all (proposal : SignedProposal) (timeout : Option Nat)
    (hnamed : w.EndorsersNamed d.channel) (hrefreshed : d.refreshed w = (.ok results, d₁, w₁))
    (hc : w₁.channel? d.channel = some c) (hsome : c.endorsers.values ≠ []) :
    (∃ outcomes w₂, d.query proposal timeout w = (.ok outcomes, d₁, w₂) ∧
        outcomes = c.endorsers.values.map (w₁.outcomeAt timeout) ∧
        outcomes.map PeerOutcome.peer = c.endorsers.keys ∧
        c.endorsers.keys.Pairwise (· < ·) ∧
        w₂.network.clock = w₁.network.clock + w₁.longestWait timeout c.endorsers.values 0) ∧
      (∀ id, (w₁.sendProposals proposal timeout [id]).1 = [w₁.outcomeAt timeout id] ∧
        ∀ w' : World, w'.link? id = w₁.link? id →
          (∀ site, (w₁.link? id).bind Link.client = some site →
            World.endorserReply site w'.network = World.endorserReply site w₁.network) →
          w'.outcomeAt timeout id = w₁.outcomeAt timeout id) ∧
      ∀ outcomes : List PeerOutcome, let divided := ProposalResults.ofOutcomes outcomes
        Divided outcomes divided.responses divided.errors ∧
        divided.responses.length + divided.errors.length = outcomes.length ∧
        divided.queryResults = outcomes.filterMap PeerOutcome.successPayload? := by
  obtain ⟨hnamed₁, hchannel⟩ := refreshed_endorsersNamed (d := d) hnamed
  rw [hrefreshed] at hnamed₁ hchannel
  simp only at hnamed₁ hchannel
  obtain ⟨houtcomes, -, hclock⟩ := World.together_outcomes proposal timeout c.endorsers.values w₁
  have hquery : d.query proposal timeout w =
      (.ok (w₁.sendProposals proposal timeout c.endorsers.values).1, d₁,
        (w₁.sendProposals proposal timeout c.endorsers.values).2) := by
    simp only [query, hrefreshed, hchannel, hc, Option.map_some, Option.getD_some]
  refine ⟨⟨_, _, hquery, houtcomes, ?_, ?_, hclock⟩, ?_, ?_⟩
  · rw [houtcomes, SortedMap.values, SortedMap.keys, List.map_map, List.map_map]
    exact List.map_congr_left fun e he => hnamed₁.outcomeAt_peer hc he
  · exact List.pairwise_map.mpr
      (c.endorsers.ascending.imp fun h => compareOfLessAndEq_eq_lt.mp h)
  · exact fun id => ⟨(World.together_outcomes proposal timeout [id] w₁).1,
      fun w' => World.outcomeAt_congr⟩
  · intro outcomes
    have hdivided := ProposalResults.ofOutcomes_divided outcomes
    exact ⟨hdivided, hdivided.length_add, hdivided.queryResults⟩

end ChannelDiscovery

/-! ### Peers that fail in all ways -/

/-- A channel with five peers. One answers with success and one with an error, the request to one
fails, one never answers, and one is not connected. -/
def World.querying : World :=
  let peer (name : String) (client : Option SiteId) : Peer SiteId :=
    { link := { name, kind := .endorser, mspid := none, client } }
  let roster : List (String × PeerId) :=
    [("p5", ⟨4⟩), ("p4", ⟨3⟩), ("p3", ⟨2⟩), ("p2", ⟨1⟩), ("p1", ⟨0⟩)]
  { network := { endorsers := { sites := ⟨[
      { behaviour := { reply := .ok { response := { status := 200, payload := [1] } } } },
      { behaviour := { reply := .ok { response := { status := 500, message := "panic" } } } },
      { behaviour := { reply := .fail "down" } }, { behaviour := { reply := .hang } }]⟩ } }
    peers := ⟨[peer "p1" (some ⟨0⟩), peer "p2" (some ⟨1⟩), peer "p3" (some ⟨2⟩),
      peer "p4" (some ⟨3⟩), peer "p5" none]⟩
    channels := ⟨[{ name := "ch", endorsers := .ofList roster }]⟩ }

theorem World.querying_endorsersNamed : World.querying.EndorsersNamed ⟨0⟩ := by
  intro c hc name id hget
  obtain rfl := Option.some.inj hc
  have hall : ∀ e ∈ (SortedMap.ofList [("p5", (⟨4⟩ : PeerId)), ("p4", ⟨3⟩), ("p3", ⟨2⟩),
      ("p2", ⟨1⟩), ("p1", ⟨0⟩)]).entries,
      (World.querying.link? e.2).map Link.name = some e.1 := by
    decide
  exact hall (name, id) (SortedMap.get?_eq_some_iff.mp hget)

namespace ChannelDiscovery

/-- Each peer has its own outcome, in the order of the names, and the call takes as long as the
one that never answers. -/
theorem query_settles_all_mixed :
    ∃ outcomes w₂, informed.query {} (some 5) .querying = (.ok outcomes, informed, w₂) ∧
      outcomes.map PeerOutcome.peer = ["p1", "p2", "p3", "p4", "p5"] ∧
      (ProposalResults.ofOutcomes outcomes).queryResults = [[1]] ∧
      (ProposalResults.ofOutcomes outcomes).errors =
        [⟨"p2", .remote { name := "p2" } "500" "panic"⟩,
          ⟨"p3", .transport { name := "p3" } .sendProposal "down"⟩,
          ⟨"p4", .timeout { name := "p4" } .sendProposal 5⟩,
          ⟨"p5", .notConnected { name := "p5" }⟩] ∧
      w₂.network.clock = 5 := by
  have hchannel : ∃ c, World.querying.channel? informed.channel = some c ∧
      c.endorsers.values = [⟨0⟩, ⟨1⟩, ⟨2⟩, ⟨3⟩, ⟨4⟩] ∧
      c.endorsers.keys = ["p1", "p2", "p3", "p4", "p5"] :=
    ⟨_, rfl, rfl, rfl⟩
  obtain ⟨c, hc, hvalues, hkeys⟩ := hchannel
  have hrefreshed : informed.refreshed .querying =
      (.ok { tree := {}, timestamp := 0, serial := 1 }, informed, .querying) := rfl
  obtain ⟨⟨outcomes, w₂, hquery, houtcomes, hpeers, -, hclock⟩, -, hdivided⟩ :=
    query_settles_all {} (some 5) World.querying_endorsersNamed hrefreshed hc (by simp [hvalues])
  obtain ⟨-, -, hpayloads⟩ := hdivided outcomes
  rw [hvalues] at houtcomes hclock
  subst houtcomes
  exact ⟨_, w₂, hquery, hpeers.trans hkeys, hpayloads, rfl, hclock⟩

/-- A channel without peers makes a query fail, and so does a discovery that was never sent,
though the channel has peers. -/
theorem query_refused :
    ((∃ c, World.ordering.channel? informed.channel = some c ∧ c.endorsers.values = []) ∧
      ∀ proposal timeout, informed.query proposal timeout .ordering =
        (.error (.discovery "No peers assigned to the channel"), informed, .ordering)) ∧
    (∃ c, World.querying.channel? unsent.channel = some c ∧ c.endorsers.values.length = 5) ∧
      ∀ proposal timeout, unsent.query proposal timeout .querying =
        (.error (.discovery "No discovery results found"), unsent, .querying) :=
  ⟨⟨⟨_, rfl, rfl⟩, fun _ _ => rfl⟩, ⟨_, rfl, rfl⟩, fun _ _ => rfl⟩

end ChannelDiscovery

end LedgerClient
