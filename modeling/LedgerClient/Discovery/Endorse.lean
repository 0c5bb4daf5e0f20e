import LedgerClient.Discovery.ChannelDiscovery
import LedgerClient.Request.Proposal

/-!
# Endorsing by a plan

Chooses peers that together satisfy an endorsement plan, and asks them. The layouts of the
plan are tried in order, the groups of a layout by name. A group is asked for as many
endorsements as it still lacks, all at once, then again for those that were refused, until
it has enough or has no more peers. What a peer answered counts for every group and every
layout, so a peer that has answered is not asked again.

The search knows the outside world only through two functions: what asking a peer brings,
with the time it takes, and how time passes. An outcome is kept under the name of the peer
that it reports. Should peers report other names than those they are asked under, the search
could go on for ever, and then it has no result.
-/

namespace LedgerClient

/-- How the peers of a group are ordered before preferences are looked at. -/
inductive PeerSort where
  /-- The highest ledger first. -/
  | ledgerHeight
  | random
  deriving DecidableEq, Repr, Inhabited

/-- The wishes for an endorsement by plan. -/
structure EndorseRequest where
  timeout : Option Nat := none
  ignoreOrgs : List String := []
  ignorePeers : List String := []
  preferredOrgs : List String := []
  preferredPeers : List String := []
  /-- How far a ledger may be behind the highest one of its group. -/
  preferredHeightGap : Option UInt64 := none
  sort : PeerSort := .ledgerHeight
  deriving DecidableEq, Repr, Inhabited

/-! ### Preparing the groups -/

namespace DiscoveredPeer

/-- Whether a ledger is at least as high as another; an unknown height is the lowest. -/
def atLeast : Option BlockNumber → Option BlockNumber → Bool
  | _, none => true
  | none, some _ => false
  | some a, some b => b ≤ a

/-- The highest ledger among some peers. -/
def highest (peers : List DiscoveredPeer) : Option BlockNumber :=
  (peers.filterMap ledgerHeight).max?

end DiscoveredPeer

namespace EndorseRequest

/-- Whether a peer may be asked. -/
def admits (r : EndorseRequest) (p : DiscoveredPeer) : Bool :=
  !r.ignoreOrgs.contains p.mspid && !r.ignorePeers.contains p.name

/-- Whether a peer is preferred by its name or its organization. -/
def prefers (r : EndorseRequest) (p : DiscoveredPeer) : Bool :=
  r.preferredPeers.contains p.name || r.preferredOrgs.contains p.mspid

/-- Whether a ledger is further behind the highest one than the gap allows. -/
def isLagging (r : EndorseRequest) (highest : Option BlockNumber) (p : DiscoveredPeer) : Bool :=
  match r.preferredHeightGap, highest, p.ledgerHeight with
  | some gap, some highest, some height => height.ahead gap < highest
  | _, _, _ => false

/-- The peers of a group in the order they are asked: those that lag come last, and among
equals the preferred ones first. `shuffle` is the random order. -/
def prepare (r : EndorseRequest) (shuffle : List DiscoveredPeer → List DiscoveredPeer)
    (peers : List DiscoveredPeer) : List DiscoveredPeer :=
  let admitted := peers.filter r.admits
  let sorted := match r.sort with
    | .ledgerHeight =>
      admitted.mergeSort fun a b => DiscoveredPeer.atLeast a.ledgerHeight b.ledgerHeight
    | .random => shuffle admitted
  let lagging := r.isLagging (DiscoveredPeer.highest sorted)
  let (behind, level) := sorted.partition lagging
  let preferredFirst (ps : List DiscoveredPeer) : List DiscoveredPeer :=
    ps.filter r.prefers ++ ps.filter fun p => !r.prefers p
  preferredFirst level ++ preferredFirst behind

end EndorseRequest

/-- The groups of a plan, each in the order its peers are asked. `shuffle` gives every group a
random order of its own. -/
def EndorsementPlan.prepareGroups (plan : EndorsementPlan) (r : EndorseRequest)
    (shuffle : String → List DiscoveredPeer → List DiscoveredPeer) :
    SortedMap String (List DiscoveredPeer) :=
  plan.groups.mapValues fun group peers => r.prepare (shuffle group) peers

/-! ### Attempts -/

/-- The peers that were asked, in the order they were asked first, with what became of it. -/
structure Attempts where
  outcomes : List (String × PeerOutcome) := []

namespace Attempts

/-- What became of asking a peer. -/
def outcome? (a : Attempts) (peer : String) : Option PeerOutcome :=
  (a.outcomes.find? fun o => o.1 == peer).map Prod.snd

/-- Whether a peer was asked. -/
def tried (a : Attempts) (peer : String) : Bool :=
  a.outcomes.any fun o => o.1 == peer

/-- Whether a peer was asked and has endorsed. -/
def endorsed (a : Attempts) (peer : String) : Bool :=
  (a.outcome? peer).any fun o => o.response?.isSome

/-- Records what became of asking a peer, under the name the outcome reports; of several
outcomes the last one counts. -/
def record (o : PeerOutcome) (a : Attempts) : Attempts where
  outcomes :=
    if a.tried o.peer then a.outcomes.map fun e => if e.1 == o.peer then (o.peer, o) else e
    else a.outcomes ++ [(o.peer, o)]

/-- The results: of the peers that endorsed only those that were selected, and all others
that were asked. -/
def results (a : Attempts) (selected : List String) : ProposalResults :=
  .ofOutcomes <| (a.outcomes.filter fun o =>
    selected.contains o.1 || !a.endorsed o.1).map Prod.snd

end Attempts

/-! ### The search -/

namespace Endorse

variable {σ : Type}

/-- Asks peers all at once; the time that passes is that of the slowest, `longest` if none
of them takes longer. -/
def askAll (ask : DiscoveredPeer → σ → (PeerOutcome × Nat) × σ) (elapse : Nat → σ → σ) :
    List DiscoveredPeer → (longest : Nat) → Attempts → σ → Attempts × σ
  | [], longest, a, s => (a, elapse longest s)
  | p :: rest, longest, a, s =>
    let ((o, ms), s) := ask p s
    askAll ask elapse rest (max longest ms) (a.record o) s

/-- The candidates that have endorsed, at most as many as are required. -/
def endorsedAmong (candidates : List DiscoveredPeer) (required : Nat) (a : Attempts) :
    List String :=
  ((candidates.filter fun p => a.endorsed p.name).map DiscoveredPeer.name).take required

/-- The candidates that have not been asked. -/
def untried (candidates : List DiscoveredPeer) (a : Attempts) : List DiscoveredPeer :=
  candidates.filter fun p => !a.tried p.name

end Endorse

open Endorse in
/-- Gathers the required number of endorsements in a group: the names of the first endorsing
candidates, or none if too few candidates endorse. -/
def Attempts.satisfyGroup {σ : Type} (ask : DiscoveredPeer → σ → (PeerOutcome × Nat) × σ)
    (elapse : Nat → σ → σ) (candidates : List DiscoveredPeer) (required : Nat) (a : Attempts)
    (s : σ) :
    Option (Option (List String) × Attempts × σ) :=
  let names := endorsedAmong candidates required a
  if required ≤ names.length then some (some names, a, s)
  else
    let batch := (untried candidates a).take (required - names.length)
    if batch.isEmpty then some (none, a, s)
    else
      let next := askAll ask elapse batch 0 a s
      next.1 |>.satisfyGroup ask elapse candidates required next.2
partial_fixpoint

namespace Endorse

variable {σ : Type}

/-- Adds the names that are not there yet. -/
def addNew (selected names : List String) : List String :=
  names.foldl (fun s name => if s.contains name then s else s ++ [name]) selected

/-- Gathers the endorsements of a layout, group by group: the names of the selected peers, or
none as soon as a group cannot be satisfied. A group that the plan does not have is empty. -/
def satisfyLayout (ask : DiscoveredPeer → σ → (PeerOutcome × Nat) × σ) (elapse : Nat → σ → σ)
    (groups : SortedMap String (List DiscoveredPeer)) :
    List (String × UInt32) → (selected : List String) → Attempts → σ →
    Option (Option (List String) × Attempts × σ)
  | [], selected, a, s => some (some selected, a, s)
  | (group, required) :: rest, selected, a, s => do
    let candidates := (groups.get? group).getD []
    match ← a.satisfyGroup ask elapse candidates required.toNat s with
    | (some names, a, s) => satisfyLayout ask elapse groups rest (addNew selected names) a s
    | (none, a, s) => return (none, a, s)

/-- Tries layouts in order: the names of the peers that satisfy the first one that can be
satisfied. -/
def satisfyFirst (ask : DiscoveredPeer → σ → (PeerOutcome × Nat) × σ) (elapse : Nat → σ → σ)
    (groups : SortedMap String (List DiscoveredPeer)) :
    List (SortedMap String UInt32) → Attempts → σ → Option (Option (List String) × Attempts × σ)
  | [], a, s => some (none, a, s)
  | layout :: rest, a, s => do
    match ← satisfyLayout ask elapse groups layout.entries [] a s with
    | (some selected, a, s) => return (some selected, a, s)
    | (none, a, s) => satisfyFirst ask elapse groups rest a s

end Endorse

/-- Gathers the endorsements that a plan asks for. -/
def EndorsementPlan.endorse {σ : Type} (ask : DiscoveredPeer → σ → (PeerOutcome × Nat) × σ)
    (elapse : Nat → σ → σ) (plan : EndorsementPlan) (r : EndorseRequest)
    (shuffle : String → List DiscoveredPeer → List DiscoveredPeer) (s : σ) :
    Option (Except ActionError ProposalResults × σ) := do
  match ← Endorse.satisfyFirst ask elapse (plan.prepareGroups r shuffle) plan.layouts {} s with
  | (some selected, a, s) => return (.ok (a.results selected), s)
  | (none, a, s) =>
    return (.error (.endorsementFailed "No endorsement plan layout could be satisfied"
      (a.results []).errors), s)

/-! ### Endorsing over a channel -/

/-- Asks a discovered peer through its node on the channel. -/
def World.askPeer (channel : ChannelId) (proposal : SignedProposal) (timeout : Option Nat)
    (p : DiscoveredPeer) (w : World) : (PeerOutcome × Nat) × World :=
  match (w.channel? channel).bind fun c => c.endorsers.get? p.name with
  | some peer =>
    let ((result, ms), w) := w.sendProposal proposal timeout peer
    ((w.proposalOutcome peer result, ms), w)
  | none =>
    let connection : ConnectionInfo := { name := p.name, mspid := some p.mspid }
    (({ peer := p.name, connection, result := .error (.notConnected connection) }, 0), w)

namespace ChannelDiscovery

/-- Refreshes the results if they are too old, for a request that needs them. -/
def refreshed (d : ChannelDiscovery) (w : World) :
    Except ActionError DiscoveryResults × ChannelDiscovery × World :=
  let (results, d, w) := d.getResults true w
  (results.mapError DiscoveryError.toActionError, d, w)

/-- Gathers endorsements for a proposal by the discovered plan. -/
def endorse (proposal : SignedProposal) (r : EndorseRequest)
    (shuffle : String → List DiscoveredPeer → List DiscoveredPeer) (d : ChannelDiscovery)
    (w : World) : Option (Except ActionError ProposalResults × ChannelDiscovery × World) :=
  match d.refreshed w with
  | (.error e, d, w) => some (.error e, d, w)
  | (.ok results, d, w) =>
    match results.tree.plan with
    | none => some (.error (.discovery "No endorsement plan available"), d, w)
    | some plan => do
      let (results, w) ←
        plan.endorse (World.askPeer d.channel proposal r.timeout) World.elapse r shuffle w
      return (results, d, w)

end ChannelDiscovery

end LedgerClient
