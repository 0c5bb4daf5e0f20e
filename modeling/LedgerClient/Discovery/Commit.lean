import LedgerClient.Discovery.Endorse
import LedgerClient.Request.Commit

/-!
# Committing to a channel

Sends a transaction to the orderers of a channel, one after the other until one accepts it:
those of the requested organization first, otherwise in random order.
-/

namespace LedgerClient

/-- Sends a transaction to an orderer; the answer comes with the orderer's details. -/
def World.broadcastTo (timeout : Option Nat) (orderer : OrdererId) (w : World) :
    (Except ServiceError BroadcastResponse × ConnectionInfo) × World :=
  let (result, w) := w.sendBroadcast timeout orderer
  ((result, w.connectionInfo orderer), w)

/-- Orderers in the order they are tried: those of the organization, then the others, each
part in the random order `shuffle`. -/
def World.commitOrder (shuffle : List OrdererId → List OrdererId) (mspid : Option String)
    (orderers : List OrdererId) (w : World) : List OrdererId :=
  let (preferred, others) := orderers.partition fun o =>
    mspid.isSome && w.mspidOf o == mspid
  shuffle preferred ++ shuffle others

/-- Sends a transaction to the orderers of the channel; `send` is the outside world: what an
orderer answers, its details, and the world afterwards. -/
def ChannelDiscovery.commitBy
    (send : OrdererId → World → (Except ServiceError BroadcastResponse × ConnectionInfo) × World)
    (mspid : Option String) (shuffle : List OrdererId → List OrdererId) (d : ChannelDiscovery)
    (w : World) : Except ActionError BroadcastResponse × ChannelDiscovery × World :=
  match d.refreshed w with
  | (.error e, d, w) => (.error e, d, w)
  | (.ok _, d, w) =>
    match ((w.channel? d.channel).map fun c => c.committers.values).getD [] with
    | [] => (.error (.discovery "No orderers assigned to the channel"), d, w)
    | orderers =>
      let (result, w) := broadcast send (w.commitOrder shuffle mspid orderers) w
      (result, d, w)

/-- Sends a transaction to the orderers of the channel. -/
def ChannelDiscovery.commit (timeout : Option Nat) (mspid : Option String)
    (shuffle : List OrdererId → List OrdererId) (d : ChannelDiscovery) (w : World) :
    Except ActionError BroadcastResponse × ChannelDiscovery × World :=
  d.commitBy (World.broadcastTo timeout) mspid shuffle w

end LedgerClient
