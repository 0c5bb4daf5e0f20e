import LedgerClient.Discovery.Endorse

/-!
# Querying a channel

Sends a query to all peers of a channel at once. What one peer does has no influence on the
outcome at another.
-/

namespace LedgerClient

/-- Sends a proposal to all peers of the channel, by name. -/
def ChannelDiscovery.query (proposal : SignedProposal) (timeout : Option Nat)
    (d : ChannelDiscovery) (w : World) :
    Except ActionError (List PeerOutcome) × ChannelDiscovery × World :=
  match d.refreshed w with
  | (.error e, d, w) => (.error e, d, w)
  | (.ok _, d, w) =>
    match ((w.channel? d.channel).map fun c => c.endorsers.values).getD [] with
    | [] => (.error (.discovery "No peers assigned to the channel"), d, w)
    | peers =>
      let (outcomes, w) := w.sendProposals proposal timeout peers
      (.ok outcomes, d, w)

end LedgerClient
