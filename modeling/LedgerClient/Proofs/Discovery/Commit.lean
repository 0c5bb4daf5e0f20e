import LedgerClient.Discovery.Commit
import LedgerClient.Proofs.Discovery.Update
import LedgerClient.Proofs.Request.Broadcast

/-!
# Committing to a channel

A transaction is sent to the orderers of the channel one after another, in an order in which
those of the requested organization come first, until one of them accepts it. No orderer is sent
to twice, because a channel keeps each of them under its own name only.

## Main results

* `ChannelDiscovery.refreshed_committersNamed`: renewing the results of a discovery keeps the
  orderers of the channel under their names.
* `ChannelDiscovery.commitBy_contacts`: whom a transaction is sent to, and what comes of it.
* `ChannelDiscovery.commit_isOk_iff`: the transactions that are accepted, where what orderers
  answer is written down beforehand.
-/

namespace LedgerClient

namespace World

variable {id : ChannelId} {c c' : Channel} {w w' : World}

/-! ### Orderers under their names -/

/-- Orderers stay under their names when discovery services are asked. -/
theorem CommittersNamed.inquired (h : w.CommittersNamed id) (hw : w.Inquired w') :
    w'.CommittersNamed id := by
  obtain ⟨_, _, rfl⟩ := hw
  exact h

/-- Orderers stay under their names when the channel is brought up to date. -/
theorem Updated.committersNamed {r : Reach} {t : DiscoveryTree}
    {orderers peers : List Advertised} {between : Network}
    (h : Updated id r t c c' w w' orderers peers between) (hc : w.channel? id = some c)
    (hnamed : w.CommittersNamed id) : w'.CommittersNamed id := by
  have hc' : w'.channel? id = some c' := by
    rw [channel?, h.channels, Table.get?_set_self]
    rw [channel?] at hc
    rw [hc]
    rfl
  intro c'' hc''
  obtain rfl := Option.some.inj (hc'.symm.trans hc'')
  exact Roster.Named.joined (hnamed.named hc) h.orderers

/-- No orderer is on a channel twice. -/
theorem CommittersNamed.nodup_values (h : w.CommittersNamed id) (hc : w.channel? id = some c) :
    c.committers.values.Nodup := by
  refine List.pairwise_map.mpr (c.committers.ascending.imp_of_mem ?_)
  rintro ⟨name, orderer⟩ ⟨name', orderer'⟩ he he' hlt rfl
  -- The same orderer under two keys would have two names.
  obtain rfl : name = name' := (h.named hc).name_eq (SortedMap.get?_eq_some_iff.mpr he)
    (SortedMap.get?_eq_some_iff.mpr he')
  exact absurd (hlt.symm.trans Std.ReflCmp.compare_self) (by decide)

/-! ### The order of orderers -/

/-- Every orderer is in the order once. -/
theorem commitOrder_perm {shuffle : List OrdererId → List OrdererId}
    (hshuffle : ∀ orderers, (shuffle orderers).Perm orderers) (mspid : Option String)
    (orderers : List OrdererId) (w : World) :
    (w.commitOrder shuffle mspid orderers).Perm orderers := by
  rw [commitOrder, List.partition_eq_filter_filter]
  exact ((hshuffle _).append (hshuffle _)).trans (List.filter_append_perm _ orderers)

/-- Before an orderer of another organization come all those of the requested one. -/
theorem mem_before_of_commitOrder {shuffle : List OrdererId → List OrdererId}
    (hshuffle : ∀ orderers, (shuffle orderers).Perm orderers) {mspid : String}
    {orderers before after : List OrdererId} {outside inside : OrdererId}
    (horder : w.commitOrder shuffle (some mspid) orderers = before ++ outside :: after)
    (houtside : w.mspidOf outside ≠ some mspid) (hinside : w.mspidOf inside = some mspid)
    (hmem : inside ∈ orderers) : inside ∈ before := by
  rw [commitOrder, List.partition_eq_filter_filter] at horder
  simp only at horder
  have hpreferred : ∀ o, o ∈ shuffle (orderers.filter fun o =>
      (some mspid).isSome && w.mspidOf o == some mspid) ↔
        o ∈ orderers ∧ w.mspidOf o = some mspid := by
    intro o
    rw [(hshuffle _).mem_iff, List.mem_filter]
    simp
  rcases List.append_eq_append_iff.mp horder with ⟨others, hbefore, -⟩ | ⟨rest, hpref, hrest⟩
  · rw [hbefore]
    exact List.mem_append_left _ ((hpreferred inside).mpr ⟨hmem, hinside⟩)
  · cases rest with
    | nil =>
        rw [List.append_nil] at hpref
        rw [← hpref]
        exact (hpreferred inside).mpr ⟨hmem, hinside⟩
    | cons o rest =>
        -- The first part of the order would hold an orderer of another organization.
        obtain ⟨rfl, -⟩ := List.cons.inj hrest
        have hin := hpref ▸ List.mem_append_right before (List.mem_cons_self (a := outside))
        exact absurd ((hpreferred outside).mp hin).2 houtside

end World

namespace ChannelDiscovery

variable {d : ChannelDiscovery} {w : World} {c : Channel}

/-- Orderers stay under their names when a request is sent. -/
theorem send_committersNamed (hc : w.channel? d.channel = some c)
    (hendorsers : w.EndorsersNamed d.channel) (h : w.CommittersNamed d.channel)
    (r : DiscoverRequest) : (d.send r w).2.2.CommittersNamed d.channel := by
  have hsent := send_spec r d w
  generalize d.send r w = sent at hsent
  have hasked : ∀ signed timeout,
      w.Inquired (w.firstAnswer signed timeout r.targets).2 :=
    fun signed timeout => World.firstAnswer_inquired signed timeout r.targets w
  cases hsent with
  | noTargets | unsigned => exact h
  | unanswered _ _ _ heq => exact h.inquired (congrArg Prod.snd heq ▸ hasked ..)
  | unreadable _ _ heq => exact h.inquired (congrArg Prod.snd heq ▸ hasked ..)
  | @processed signed _ _ w₁ _ results _ _ heq hread hworld =>
      have hw₁ : w.Inquired w₁ := by
        have hinquired := hasked signed (r.settings d.config).timeout
        rw [heq] at hinquired
        exact hinquired
      have hreads := DiscoveryTree.reads_of_takeAll hread
      have hc₁ : w₁.channel? d.channel = some c := by
        obtain ⟨_, _, rfl⟩ := hw₁
        exact hc
      have hendorsers₁ : w₁.EndorsersNamed d.channel := by
        obtain ⟨_, _, rfl⟩ := hw₁
        exact hendorsers
      obtain ⟨c', orderers, peers, between, hupdated⟩ := World.materialize_updated hc₁ hendorsers₁
        (fun _ _ => hreads.msp_id) fun _ => hreads.ledgerHeight_isSome
      rw [hworld]
      exact hupdated.committersNamed hc₁ (h.inquired hw₁)

/-- Orderers stay under their names when the results are renewed. -/
theorem refreshed_committersNamed (hc : w.channel? d.channel = some c)
    (hendorsers : w.EndorsersNamed d.channel) (h : w.CommittersNamed d.channel) :
    (d.refreshed w).2.2.CommittersNamed d.channel := by
  simp only [refreshed, getResults]
  split
  · exact h
  split
  · split
    · exact send_committersNamed hc hendorsers h _
    · exact h
  · exact h

end ChannelDiscovery

/-! ### What orderers answer -/

namespace World

/-- What an ordering service answers. -/
def ordererReply (site : SiteId) (n : Network) : Reply BroadcastResponse :=
  match n.orderers.sites.get? site.index with
  | some s => s.behaviour.reply
  | none => .hang

/-- A transaction is answered with what is written down. -/
theorem transactionAt_fst (site : SiteId) (n : Network) :
    (transactionAt site n).1 = ordererReply site n := by
  simp only [transactionAt, Exchange.request, ordererReply]
  cases n.orderers.sites.get? site.index <;> rfl

/-- A transaction changes nothing about what is written down. -/
theorem ordererReply_transactionAt (site site' : SiteId) (n : Network) :
    ordererReply site' (transactionAt site n).2 = ordererReply site' n := by
  simp only [transactionAt, Exchange.request]
  cases hsite : n.orderers.sites.get? site.index with
  | none => rfl
  | some s =>
      simp only [ordererReply, Exchange.modify]
      by_cases heq : site.index = site'.index
      · rw [← heq, Table.get?_modify_self, hsite]
        rfl
      · rw [Table.get?_modify_ne _ _ heq]

/-- Two worlds have the same orderers, and they answer the same. -/
structure AlikeOrderers (w w' : World) : Prop where
  orderers : w'.orderers = w.orderers
  replies : ∀ site, ordererReply site w'.network = ordererReply site w.network

variable {w w' : World}

theorem AlikeOrderers.refl (w : World) : AlikeOrderers w w := ⟨rfl, fun _ => rfl⟩

/-- What an orderer answers depends on the orderers and their answers only, and sending to one
changes neither. -/
theorem AlikeOrderers.sendBroadcast (h : AlikeOrderers w w') (timeout : Option Nat)
    (orderer : OrdererId) :
    (w'.sendBroadcast timeout orderer).1 = (w.sendBroadcast timeout orderer).1 ∧
      AlikeOrderers w (w'.sendBroadcast timeout orderer).2 := by
  simp only [World.sendBroadcast, settle, call, link?, h.orderers]
  cases w.orderers.get? orderer.index with
  | none => exact ⟨rfl, h.orderers, h.replies⟩
  | some l =>
      simp only [Link.call, Link.service]
      cases l.client with
      | none => exact ⟨rfl, h.orderers, h.replies⟩
      | some site =>
          have hreplies : ∀ site',
              ordererReply site' (transactionAt site w'.network).2 = ordererReply site' w.network :=
            fun site' => (ordererReply_transactionAt site site' _).trans (h.replies site')
          simp only [transactionAt_fst, h.replies site]
          cases ordererReply site w.network with
          | ok value => exact ⟨rfl, h.orderers, hreplies⟩
          | fail reason => exact ⟨rfl, h.orderers, hreplies⟩
          | hang => exact ⟨rfl, h.orderers, hreplies⟩

/-- So does the answer with the details of the orderer. -/
theorem AlikeOrderers.broadcastTo (h : AlikeOrderers w w') (timeout : Option Nat)
    (orderer : OrdererId) :
    (w'.broadcastTo timeout orderer).1 = (w.broadcastTo timeout orderer).1 ∧
      AlikeOrderers w (w'.broadcastTo timeout orderer).2 := by
  obtain ⟨hresult, hafter⟩ := h.sendBroadcast timeout orderer
  obtain ⟨-, hafter₀⟩ := (AlikeOrderers.refl w).sendBroadcast timeout orderer
  refine ⟨?_, hafter⟩
  simp only [World.broadcastTo, hresult, connectionInfo, link?, hafter.orderers, hafter₀.orderers]

/-- Orderers that are sent to one after another answer as if each were the first. -/
theorem AlikeOrderers.answers {timeout : Option Nat} {w₁ w₂ : World}
    {contacts : List (OrdererId × OrdererAnswer)} (h : AlikeOrderers w w₁)
    (hcontacts : Contacts (World.broadcastTo timeout) contacts w₁ w₂) :
    ∀ x ∈ contacts, x.2 = (w.broadcastTo timeout x.1).1 := by
  induction hcontacts with
  | nil => exact List.forall_mem_nil _
  | cons hsend _ ih =>
      obtain ⟨hanswer, hafter⟩ := h.broadcastTo timeout _
      rw [hsend] at hanswer hafter
      exact List.forall_mem_cons.mpr ⟨hanswer, ih hafter⟩

end World

namespace ChannelDiscovery

variable {d : ChannelDiscovery} {w : World} {c : Channel}

/-! ### Sending a transaction -/

/-- What it comes to that a transaction is sent to the orderers of a channel one after another:
`refused` have not accepted it, `last` was the last one it was sent to. -/
structure Committed (send : OrdererId → World → OrdererAnswer × World) (mspid : Option String)
    (orderers : List OrdererId) (w : World) (refused : List (OrdererId × OrdererAnswer))
    (last : OrdererId × OrdererAnswer) (result : Except ActionError BroadcastResponse)
    (w' : World) : Prop where
  contacts : Contacts send (refused ++ [last]) w w'
  nodup : ((refused ++ [last]).map Prod.fst).Nodup
  subset : (refused ++ [last]).map Prod.fst ⊆ orderers
  /-- Before an orderer of another organization come all those of the requested one. -/
  preferred : ∀ {requested before outside after inside}, mspid = some requested →
    (refused ++ [last]).map Prod.fst = before ++ outside :: after →
    w.mspidOf outside ≠ some requested → inside ∈ orderers →
    w.mspidOf inside = some requested → inside ∈ before
  none_accepted : ∀ x ∈ refused, x.2.accepted? = none
  /-- The last one decides; if it does not accept, then none is left. -/
  decided : match last.2.accepted? with
    | some response => result = .ok response
    | none => result = .error last.2.refusal ∧ ((refused ++ [last]).map Prod.fst).Perm orderers

variable {send : OrdererId → World → OrdererAnswer × World} {mspid : Option String}
  {shuffle : List OrdererId → List OrdererId}

/-- If there are orderers, a transaction is sent to some of them. -/
theorem exists_committed {d₁ : ChannelDiscovery} {w₁ : World} {results : DiscoveryResults}
    (send : OrdererId → World → OrdererAnswer × World) (mspid : Option String)
    (hshuffle : ∀ orderers, (shuffle orderers).Perm orderers)
    (hrefreshed : d.refreshed w = (.ok results, d₁, w₁)) (hc : w₁.channel? d₁.channel = some c)
    (hnamed : w₁.CommittersNamed d₁.channel) (hsome : c.committers.values ≠ []) :
    ∃ refused last result w',
      d.commitBy send mspid shuffle w = (result, d₁, w') ∧
        Committed send mspid c.committers.values w₁ refused last result w' := by
  have hperm := World.commitOrder_perm hshuffle mspid c.committers.values w₁
  have hne : w₁.commitOrder shuffle mspid c.committers.values ≠ [] := by
    intro hnil
    rw [hnil] at hperm
    exact hsome hperm.nil_eq.symm
  obtain ⟨refused, last, rest, result, w', horder, hcontacts, hrefused, hresult, hlast⟩ :=
    broadcast_contacts hne w₁
  refine ⟨refused, last, result, w', ?_, hcontacts, ?_, ?_, ?_, hrefused, ?_⟩
  · rw [commitBy, hrefreshed]
    simp only [hc, Option.map_some, Option.getD_some]
    cases hvalues : c.committers.values with
    | nil => exact absurd hvalues hsome
    | cons o others =>
        rw [← hvalues, hresult]
  · have hnodup := hperm.symm.nodup (hnamed.nodup_values hc)
    rw [horder] at hnodup
    exact (List.nodup_append.mp hnodup).1
  · intro o ho
    refine hperm.subset ?_
    rw [horder]
    exact List.mem_append_left rest ho
  · rintro requested before outside after inside rfl hcontacted houtside hmem hinside
    rw [hcontacted, List.append_assoc, List.cons_append] at horder
    exact World.mem_before_of_commitOrder hshuffle horder houtside hinside hmem
  · cases haccepted : last.2.accepted? with
    | some response =>
        rw [haccepted] at hlast
        exact hlast
    | none =>
        rw [haccepted] at hlast
        obtain ⟨hresult', rfl⟩ := hlast
        rw [List.append_nil] at horder
        exact ⟨hresult', horder ▸ hperm⟩

/-- A transaction is accepted exactly if some orderer of the channel accepts it, provided that
those it was sent to have answered as `answers` tells of every orderer. -/
theorem Committed.isOk_iff {orderers : List OrdererId} {refused : List (OrdererId × OrdererAnswer)}
    {last : OrdererId × OrdererAnswer} {result : Except ActionError BroadcastResponse} {w' : World}
    (h : Committed send mspid orderers w refused last result w')
    {answers : OrdererId → OrdererAnswer}
    (hanswers : ∀ x ∈ refused ++ [last], x.2 = answers x.1) :
    (∃ response, result = .ok response) ↔ ∃ o ∈ orderers, (answers o).accepted?.isSome := by
  have hlast := hanswers last (List.mem_append_right refused List.mem_cons_self)
  have hdecided := h.decided
  cases haccepted : last.2.accepted? with
  | some response =>
      rw [haccepted] at hdecided
      refine ⟨fun _ => ⟨last.1, h.subset ?_, by rw [← hlast, haccepted]; rfl⟩,
        fun _ => ⟨response, hdecided⟩⟩
      exact List.mem_map_of_mem (List.mem_append_right refused List.mem_cons_self)
  | none =>
      rw [haccepted] at hdecided
      obtain ⟨rfl, hall⟩ := hdecided
      constructor
      · rintro ⟨response, hresponse⟩
        cases hresponse
      · rintro ⟨o, ho, hsome⟩
        obtain ⟨x, hx, rfl⟩ := List.mem_map.mp (hall.mem_iff.mpr ho)
        rw [← hanswers x hx] at hsome
        rcases List.mem_append.mp hx with hx | hx
        · rw [h.none_accepted x hx] at hsome
          cases hsome
        · rw [List.mem_singleton.mp hx, haccepted] at hsome
          cases hsome

/-- Where what orderers answer is written down beforehand, a transaction is accepted exactly if
some orderer of the channel would accept it. -/
theorem commit_isOk_iff {d₁ : ChannelDiscovery} {w₁ : World} {results : DiscoveryResults}
    (timeout : Option Nat) (mspid : Option String)
    (hshuffle : ∀ orderers, (shuffle orderers).Perm orderers)
    (hrefreshed : d.refreshed w = (.ok results, d₁, w₁)) (hc : w₁.channel? d₁.channel = some c)
    (hnamed : w₁.CommittersNamed d₁.channel) (hsome : c.committers.values ≠ []) :
    (∃ response, (d.commit timeout mspid shuffle w).1 = .ok response) ↔
      ∃ o ∈ c.committers.values,
        (OrdererAnswer.accepted? (w₁.broadcastTo timeout o).1).isSome := by
  obtain ⟨refused, last, result, w', hresult, hcommitted⟩ :=
    exists_committed (World.broadcastTo timeout) mspid hshuffle hrefreshed hc hnamed hsome
  rw [commit, hresult]
  have hanswers : ∀ x ∈ refused ++ [last], x.2 = (fun o => (w₁.broadcastTo timeout o).1) x.1 :=
    (World.AlikeOrderers.refl w₁).answers hcommitted.contacts
  exact hcommitted.isOk_iff hanswers

/-- What committing to a channel comes to, whatever its orderers answer, once the results of the
discovery are there and recent enough or have been renewed. -/
theorem commitBy_contacts {d₁ : ChannelDiscovery} {w₁ : World} {results : DiscoveryResults}
    {c₁ : Channel} (send : OrdererId → World → OrdererAnswer × World) (mspid : Option String)
    (hc : w.channel? d.channel = some c) (hendorsers : w.EndorsersNamed d.channel)
    (hcommitters : w.CommittersNamed d.channel)
    (hshuffle : ∀ orderers, (shuffle orderers).Perm orderers)
    (hrefreshed : d.refreshed w = (.ok results, d₁, w₁))
    (hc₁ : w₁.channel? d.channel = some c₁) (hsome : c₁.committers.values ≠ []) :
    ∃ refused last result w',
      d.commitBy send mspid shuffle w = (result, d₁, w') ∧
        Committed send mspid c₁.committers.values w₁ refused last result w' ∧
        ∀ answers : OrdererId → OrdererAnswer, (∀ x ∈ refused ++ [last], x.2 = answers x.1) →
          ((∃ response, result = .ok response) ↔
            ∃ o ∈ c₁.committers.values, (answers o).accepted?.isSome) := by
  have hchannel := (refreshed_endorsersNamed (d := d) hendorsers).2
  have hnamed := refreshed_committersNamed hc hendorsers hcommitters
  rw [hrefreshed] at hchannel hnamed
  simp only at hchannel hnamed
  rw [← hchannel] at hc₁ hnamed
  obtain ⟨refused, last, result, w', hresult, hcommitted⟩ :=
    exists_committed send mspid hshuffle hrefreshed hc₁ hnamed hsome
  exact ⟨refused, last, result, w', hresult, hcommitted, fun _ => hcommitted.isOk_iff⟩

end ChannelDiscovery

/-- A channel with two orderers of two organizations: the first rejects transactions, the second
accepts them. -/
def World.ordering : World :=
  { network :=
      { orderers :=
          { sites := ⟨[{ behaviour := { reply := .ok { status := .forbidden } } },
              { behaviour := { reply := .ok { status := .success } } }]⟩ } }
    orderers := ⟨[
      { name := "o1", kind := .broadcast, mspid := some "Org1", client := some ⟨0⟩ },
      { name := "o2", kind := .broadcast, mspid := some "Org2", client := some ⟨1⟩ }]⟩
    channels := ⟨[
      { name := "ch", committers := (SortedMap.empty.insert "o1" ⟨0⟩).insert "o2" ⟨1⟩ }]⟩ }

/-- A discovery of this channel that has never been sent. -/
def ChannelDiscovery.unsent : ChannelDiscovery := { name := "d", channel := ⟨0⟩, config := {} }

/-- A discovery of this channel with results. -/
def ChannelDiscovery.informed : ChannelDiscovery :=
  { ChannelDiscovery.unsent with results := some { tree := {}, timestamp := 0, serial := 1 } }

theorem World.ordering_endorsersNamed : World.ordering.EndorsersNamed ⟨0⟩ := by
  intro c hc name id hget
  obtain rfl := Option.some.inj hc
  cases hget

theorem World.ordering_committersNamed : World.ordering.CommittersNamed ⟨0⟩ := by
  intro c hc name id hget
  obtain rfl := Option.some.inj hc
  simp only [SortedMap.get?_insert] at hget
  split at hget
  · next heq =>
    obtain rfl := Option.some.inj hget
    rw [heq]
    rfl
  split at hget
  · next heq =>
    obtain rfl := Option.some.inj hget
    rw [heq]
    rfl
  · cases hget

/-- The second orderer accepts a transaction after the first one has refused it. -/
theorem ChannelDiscovery.commitBy_contacts_ordering :
    ∃ refused last result w',
      informed.commitBy (World.broadcastTo none) (some "Org1") List.reverse .ordering =
          (result, informed, w') ∧
        Committed (World.broadcastTo none) (some "Org1") [⟨0⟩, ⟨1⟩] .ordering refused last result
          w' := by
  have hchannel : ∃ c, World.ordering.channel? informed.channel = some c ∧
      c.committers.values = [⟨0⟩, ⟨1⟩] := ⟨_, rfl, rfl⟩
  obtain ⟨c, hc, hvalues⟩ := hchannel
  have hrefreshed : informed.refreshed .ordering =
      (.ok { tree := {}, timestamp := 0, serial := 1 }, informed, .ordering) := rfl
  obtain ⟨refused, last, result, w', hresult, hcommitted, -⟩ :=
    commitBy_contacts (World.broadcastTo none) (some "Org1") hc World.ordering_endorsersNamed
      World.ordering_committersNamed List.reverse_perm hrefreshed hc (by simp [hvalues])
  exact ⟨refused, last, result, w', hresult, hvalues ▸ hcommitted⟩

/-- Without results nothing is sent to any orderer, though one of them would accept: a discovery
that was never sent has none, and reports that. -/
theorem ChannelDiscovery.commit_unsent :
    (∃ c, World.ordering.channel? unsent.channel = some c ∧ c.committers.values = [⟨0⟩, ⟨1⟩]) ∧
      (∃ response, OrdererAnswer.accepted? (World.ordering.broadcastTo none ⟨1⟩).1 =
        some response) ∧
      ∀ mspid shuffle, unsent.commit none mspid shuffle .ordering =
        (.error (.discovery "No discovery results found"), unsent, .ordering) :=
  ⟨⟨_, rfl, rfl⟩, ⟨_, rfl⟩, fun _ _ => rfl⟩

end LedgerClient
