import LedgerClient.Discovery.ChannelDiscovery
import LedgerClient.Fixture.Membership
import LedgerClient.Proofs.Request.Transaction
import Mathlib.Logic.Basic

/-!
# Sending a discovery request

A send goes through stages: it needs targets and a signed request, then a service that answers,
then an answer of which every entry can be read. Only an answer that has got through all of them
is used. Wherever a send stops before, nothing has been done but asking discovery services.

## Main results

* `ChannelDiscovery.send_spec`: what a send comes to at the stage where it stops.
* `ChannelDiscovery.send_fails_iff`: the sends that fail.
* `ChannelDiscovery.send_error_unchanged`: a send that fails leaves channels, nodes and results
  as they were.
-/

namespace LedgerClient

/-! ### Asking discovery services -/

namespace World

/-- Asks discovery services in order: the first that answers, with its answer. -/
def firstAnswer (signed : SignedRequest) (timeout : Option Nat) :
    List DiscovererId → World → Option (DiscovererId × DiscoveryResponse) × World
  | [], w => (none, w)
  | target :: rest, w =>
    match w.sendDiscovery signed timeout target with
    | (.ok response, w) => (some (target, response), w)
    | (.error _, w) => firstAnswer signed timeout rest w

/-- Nothing has happened between two worlds but requests to discovery services: time has passed,
and the services have noted what they were asked. -/
def Inquired (w w' : World) : Prop :=
  ∃ clock discoveries, w' = { w with network := { w.network with clock, discoveries } }

theorem Inquired.refl (w : World) : w.Inquired w := ⟨_, _, rfl⟩

theorem Inquired.trans {w w' w'' : World} (h : w.Inquired w') (h' : w'.Inquired w'') :
    w.Inquired w'' := by
  obtain ⟨_, _, rfl⟩ := h
  obtain ⟨clock, discoveries, rfl⟩ := h'
  exact ⟨clock, discoveries, rfl⟩

theorem sendDiscovery_inquired (signed : SignedRequest) (timeout : Option Nat)
    (target : DiscovererId) (w : World) :
    w.Inquired (w.sendDiscovery signed timeout target).2 := by
  simp only [sendDiscovery, settle, call]
  cases w.link? target with
  | none => exact ⟨_, _, rfl⟩
  | some l =>
      simp only [Link.call]
      cases l.service with
      | error e => exact ⟨_, _, rfl⟩
      | ok site =>
          simp only
          cases (queriesAt signed site w.network).1 <;> exact ⟨_, _, rfl⟩

theorem firstAnswer_inquired (signed : SignedRequest) (timeout : Option Nat)
    (targets : List DiscovererId) (w : World) :
    w.Inquired (w.firstAnswer signed timeout targets).2 := by
  induction targets generalizing w with
  | nil => exact .refl w
  | cons target rest ih =>
      have hasked := sendDiscovery_inquired signed timeout target w
      rw [firstAnswer]
      split
      · next heq =>
        rw [heq] at hasked
        exact hasked
      · next heq =>
        rw [heq] at hasked
        exact hasked.trans (ih _)

end World

/-! ### Reading an answer -/

/-- Whether an entry of an answer can be read. How peers are read depends on what their query
was about: members of the channel must have published their state. -/
def QueryResult.Readable (tag : Option QueryTag) : QueryResult → Prop
  | .error _ => False
  | .config _ => True
  | .members result => ∃ peers, decodeMembers (tag != some .localPeers) result = .ok peers
  | .chaincodes result => ∃ plan, decodePlan result = .ok plan

namespace DiscoveryTree

/-- What is made of a value succeeds exactly if there is a value. -/
theorem bind_pure_isOk_iff {ε α β : Type} {x : Except ε α} {f : α → β} :
    (∃ b, (x >>= fun a => pure (f a)) = .ok b) ↔ ∃ a, x = .ok a := by
  constructor
  · rintro ⟨b, h⟩
    obtain ⟨a, ha, -⟩ := bind_eq_ok_iff.mp h
    exact ⟨a, ha⟩
  · rintro ⟨a, ha⟩
    exact ⟨f a, bind_eq_ok_iff.mpr ⟨a, ha, rfl⟩⟩

/-- An entry is taken in exactly if it can be read. -/
theorem take_isOk_iff (tag : Option QueryTag) (result : QueryResult) (t : DiscoveryTree) :
    (∃ t', t.take tag result = .ok t') ↔ result.Readable tag := by
  cases result with
  | error content =>
      refine ⟨?_, False.elim⟩
      rintro ⟨t', h⟩
      cases h
  | config config => exact ⟨fun _ => trivial, fun _ => ⟨_, rfl⟩⟩
  | members members =>
      simp only [take, QueryResult.Readable]
      split
      · next htag =>
        rw [htag]
        exact bind_pure_isOk_iff
      · next htag =>
        rw [bne_iff_ne.mpr htag]
        exact bind_pure_isOk_iff
  | chaincodes result => exact bind_pure_isOk_iff

/-- An answer is taken in exactly if each of its entries can be read. -/
theorem takeAll_isOk_iff (tags : List QueryTag) (results : List QueryResult)
    (t : DiscoveryTree) :
    (∃ t', takeAll tags results t = .ok t') ↔
      ∀ (i : Nat) (result : QueryResult), results[i]? = some result → result.Readable tags[i]? := by
  induction results generalizing tags t with
  | nil =>
      refine ⟨?_, fun _ => ⟨t, rfl⟩⟩
      intro _ i result h
      cases h
  | cons result rest ih =>
      have htail : ∀ i : Nat, tags.tail[i]? = tags[i + 1]? := fun i => List.getElem?_tail
      constructor
      · rintro ⟨t', h⟩ i entry hentry
        obtain ⟨t₁, htake, hrest⟩ := bind_eq_ok_iff.mp h
        cases i with
        | zero =>
            obtain rfl := Option.some.inj hentry
            rw [← List.head?_eq_getElem?]
            exact (take_isOk_iff _ _ t).mp ⟨t₁, htake⟩
        | succ i => exact htail i ▸ (ih tags.tail t₁).mp ⟨t', hrest⟩ i entry hentry
      · intro h
        have hfirst := h 0 result rfl
        rw [← List.head?_eq_getElem?] at hfirst
        obtain ⟨t₁, htake⟩ := (take_isOk_iff _ _ t).mpr hfirst
        obtain ⟨t', hrest⟩ := (ih tags.tail t₁).mpr fun i entry hentry =>
          htail i ▸ h (i + 1) entry hentry
        exact ⟨t', bind_eq_ok_iff.mpr ⟨t₁, htake, hrest⟩⟩

end DiscoveryTree

/-! ### The stages of a send -/

/-- The settings of a send: what the request does not give comes from the configuration. -/
def DiscoverRequest.settings (config : DiscoveryConfig) (r : DiscoverRequest) : SendSettings :=
  { targets := r.targets
    timeout := r.timeout <|> config.requestTimeout
    asLocalhost := r.asLocalhost.getD config.asLocalhost
    refreshAge := r.refreshAge.getD config.refreshAge }

namespace ChannelDiscovery

/-- Asking the targets in order comes to reading the first answer, or to an error if there is
none. -/
theorem askInOrder_eq (signed : SignedRequest) (settings : SendSettings)
    (lastError : DiscoveryError) (d : ChannelDiscovery) (targets : List DiscovererId)
    (w : World) :
    ∃ e, d.askInOrder signed settings lastError targets w =
      match w.firstAnswer signed settings.timeout targets with
      | (some (target, response), w) => d.process target settings.asLocalhost response w
      | (none, w) => (.error e, d, w) := by
  induction targets generalizing lastError w with
  | nil => exact ⟨lastError, rfl⟩
  | cons target rest ih =>
      rw [askInOrder, World.firstAnswer]
      rcases w.sendDiscovery signed settings.timeout target with ⟨e | response, w'⟩
      · exact ih (.service e) w'
      · exact ⟨lastError, rfl⟩

/-- What a send comes to, by the stage where it stops. -/
inductive Sent (r : DiscoverRequest) (d : ChannelDiscovery) (w : World) :
    Except DiscoveryError DiscoveryResults × ChannelDiscovery × World → Prop where
  | noTargets (htargets : r.targets = []) :
      Sent r d w (.error (.missingParameter "targets"), d, w)
  | unsigned {e : DiscoveryError} (htargets : r.targets ≠ [])
      (hsigned : d.request.signed = .error e) : Sent r d w (.error e, d, w)
  | unanswered {signed : SignedRequest} {w' : World} (e : DiscoveryError)
      (htargets : r.targets ≠ []) (hsigned : d.request.signed = .ok signed)
      (hasked : w.firstAnswer signed (r.settings d.config).timeout r.targets = (none, w')) :
      Sent r d w (.error e, { d with last := some (r.settings d.config) }, w')
  | unreadable {signed : SignedRequest} {target : DiscovererId} {response : DiscoveryResponse}
      {w' : World} {e : DiscoveryError}
      (htargets : r.targets ≠ []) (hsigned : d.request.signed = .ok signed)
      (hasked : w.firstAnswer signed (r.settings d.config).timeout r.targets =
        (some (target, response), w'))
      (hread : DiscoveryTree.ofResponse d.request.tags response = .error e) :
      Sent r d w (.error e, { d with last := some (r.settings d.config) }, w')
  | processed {signed : SignedRequest} {target : DiscovererId} {response : DiscoveryResponse}
      {w' w'' : World} {results : DiscoveryResults}
      (htargets : r.targets ≠ []) (hsigned : d.request.signed = .ok signed)
      (hasked : w.firstAnswer signed (r.settings d.config).timeout r.targets =
        (some (target, response), w'))
      (hread : DiscoveryTree.ofResponse d.request.tags response = .ok results.tree)
      (hworld : w'' = w'.materialize d.channel
        (d.reach target (r.settings d.config).asLocalhost w') results.tree)
      (htime : results.timestamp = w''.network.clock) :
      Sent r d w
        (.ok results, { d with last := some (r.settings d.config), results := some results }, w'')

/-- Every send comes to one of these. -/
theorem send_spec (r : DiscoverRequest) (d : ChannelDiscovery) (w : World) :
    Sent r d w (d.send r w) := by
  rw [send]
  split
  · next hempty => exact .noTargets (List.isEmpty_iff.mp hempty)
  next hne =>
  have htargets : r.targets ≠ [] := mt List.isEmpty_iff.mpr hne
  split
  · next e hsigned => exact .unsigned htargets hsigned
  next signed hsigned =>
  obtain ⟨e, heq⟩ := askInOrder_eq signed (r.settings d.config) (.missingParameter "targets")
    { d with last := some (r.settings d.config) } r.targets w
  simp only [DiscoverRequest.settings] at heq
  simp only [heq]
  rcases hasked : w.firstAnswer signed (r.settings d.config).timeout r.targets with
    ⟨_ | ⟨target, response⟩, w'⟩
  · simp only [DiscoverRequest.settings] at hasked
    rw [hasked]
    exact .unanswered e htargets hsigned hasked
  · simp only [DiscoverRequest.settings] at hasked
    rw [hasked]
    simp only [process]
    split
    · next hread => exact .unreadable htargets hsigned hasked hread
    · next hread => exact .processed htargets hsigned hasked hread rfl rfl

variable {r : DiscoverRequest} {d d' : ChannelDiscovery} {w w' : World}

/-- A send fails exactly if it has no targets, if the request is not signed, if no target
answers, or if some entry of the first answer cannot be read, whichever entries come before. -/
theorem send_fails_iff :
    (∃ e, (d.send r w).1 = .error e) ↔
      r.targets = [] ∨ (∃ e, d.request.signed = .error e) ∨
        ∃ signed, d.request.signed = .ok signed ∧
          ∀ target response,
            (w.firstAnswer signed (r.settings d.config).timeout r.targets).1 =
              some (target, response) →
            ∃ (i : Nat) (result : QueryResult), response.results[i]? = some result ∧
              ¬ result.Readable d.request.tags[i]? := by
  have hsent := send_spec r d w
  generalize d.send r w = sent at hsent
  cases hsent with
  | noTargets htargets => exact ⟨fun _ => .inl htargets, fun _ => ⟨_, rfl⟩⟩
  | unsigned _ hsigned => exact ⟨fun _ => .inr (.inl ⟨_, hsigned⟩), fun _ => ⟨_, rfl⟩⟩
  | unanswered e _ hsigned hasked =>
      refine ⟨fun _ => .inr (.inr ⟨_, hsigned, ?_⟩), fun _ => ⟨e, rfl⟩⟩
      intro target response hanswer
      rw [hasked] at hanswer
      cases hanswer
  | @unreadable _ _ response _ e _ hsigned hasked hread =>
      refine ⟨fun _ => .inr (.inr ⟨_, hsigned, ?_⟩), fun _ => ⟨e, rfl⟩⟩
      intro target response hanswer
      rw [hasked] at hanswer
      cases hanswer
      have hbad : ¬ ∃ tree, DiscoveryTree.ofResponse d.request.tags response = .ok tree := by
        rintro ⟨tree, htree⟩
        exact nomatch hread.symm.trans htree
      rw [DiscoveryTree.ofResponse, DiscoveryTree.takeAll_isOk_iff] at hbad
      simpa only [not_forall, exists_prop] using hbad
  | processed htargets hsigned hasked hread =>
      constructor
      · rintro ⟨_, h⟩
        cases h
      rintro (h | ⟨e, h⟩ | ⟨signed, h, hanswer⟩)
      · exact absurd h htargets
      · exact nomatch hsigned.symm.trans h
      · obtain rfl := Except.ok.inj (hsigned.symm.trans h)
        rw [hasked] at hanswer
        obtain ⟨i, result, hresult, hbad⟩ := hanswer _ _ rfl
        exact absurd ((DiscoveryTree.takeAll_isOk_iff _ _ _).mp ⟨_, hread⟩ i result hresult) hbad

/-- A discovery remembers at most the settings of a send that fails. -/
theorem discovery_of_send_error {e : DiscoveryError} (h : d.send r w = (.error e, d', w')) :
    ∃ last, d' = { d with last } := by
  have hsent := send_spec r d w
  rw [h] at hsent
  cases hsent with
  | noTargets | unsigned => exact ⟨d.last, rfl⟩
  | unanswered | unreadable => exact ⟨_, rfl⟩

/-- The world after a send that fails is the one in which the targets have been asked up to the
first answer, if any was asked. -/
theorem world_of_send_error {e : DiscoveryError} (h : d.send r w = (.error e, d', w')) :
    w' = w ∨ ∃ signed, d.request.signed = .ok signed ∧
      w' = (w.firstAnswer signed (r.settings d.config).timeout r.targets).2 := by
  have hsent := send_spec r d w
  rw [h] at hsent
  cases hsent with
  | noTargets | unsigned => exact .inl rfl
  | unanswered _ _ hsigned hasked => exact .inr ⟨_, hsigned, (congrArg Prod.snd hasked).symm⟩
  | unreadable _ hsigned hasked => exact .inr ⟨_, hsigned, (congrArg Prod.snd hasked).symm⟩

/-- A send that fails, at whatever stage, changes nothing: the discovery keeps its request and
its results, and remembers at most the settings. The world is the one in which the targets have
been asked up to the first answer. So channels and nodes are as they were, and no other service
was dialled: what an answer names would have been made a node before. -/
theorem send_error_unchanged {e : DiscoveryError} (h : d.send r w = (.error e, d', w')) :
    (∃ last, d' = { d with last }) ∧
      (∃ clock discoveries, w' = { w with network := { w.network with clock, discoveries } }) ∧
      (w' = w ∨ ∃ signed, d.request.signed = .ok signed ∧
        w' = (w.firstAnswer signed (r.settings d.config).timeout r.targets).2) := by
  have hworld := world_of_send_error h
  refine ⟨discovery_of_send_error h, ?_, hworld⟩
  rcases hworld with rfl | ⟨signed, -, rfl⟩
  · exact World.Inquired.refl _
  · exact World.firstAnswer_inquired signed _ _ w

end ChannelDiscovery

/-! ### An answer with an unreadable end -/

/-- A channel without nodes, and two discovery services of which the second one is connected and
gives an answer. -/
def World.answering (response : DiscoveryResponse) : World :=
  { network := { discoveries := { sites := ⟨[{ behaviour := { reply := .ok response } }]⟩ } }
    discoverers := ⟨[{ name := "d1", kind := .discovery, mspid := none },
      { name := "d2", kind := .discovery, mspid := none, client := some ⟨0⟩ }]⟩
    channels := ⟨[{ name := "ch" }]⟩ }

/-- A discovery of this channel with a signed request. -/
def ChannelDiscovery.ready : ChannelDiscovery :=
  { name := "d"
    channel := ⟨0⟩
    config := {}
    request := { state := { payload := some [1], signature := some [2] }
                 tags := [.config, .members] } }

/-- A provider, an orderer and a member of the channel, and last a member that has not published
its state. -/
def DiscoveryResponse.stateless : DiscoveryResponse :=
  let peers : List (String × DiscoveryPeer) :=
    [("Org1", Sample.channelPeer "Org1" "p1:1" 5 ["cc"]), ("Org1", Sample.localPeer "Org1" "p2:1")]
  { results := [.config (Sample.configResult [("Org1", "TLS")] [("Orderers", "o1", 7050)]),
      .members (Sample.members peers)] }

/-- Both services are asked. Because of the last member nothing of the answer is used. -/
theorem ChannelDiscovery.send_stateless_unchanged :
    ∃ d' w', ready.send { targets := [⟨0⟩, ⟨1⟩] } (.answering .stateless) =
        (.error (.invalidPeer "p2:1" "missing state info"), d', w') ∧
      (∃ last, d' = { ready with last }) ∧
      ∃ clock discoveries, w' = { World.answering .stateless with
        network := { (World.answering .stateless).network with clock, discoveries } } := by
  have hsend : ∃ d' w', ready.send { targets := [⟨0⟩, ⟨1⟩] } (.answering .stateless) =
      (.error (.invalidPeer "p2:1" "missing state info"), d', w') := ⟨_, _, rfl⟩
  obtain ⟨d', w', hsend⟩ := hsend
  obtain ⟨hdiscovery, hworld, -⟩ := send_error_unchanged hsend
  exact ⟨d', w', hsend, hdiscovery, hworld⟩

end LedgerClient
