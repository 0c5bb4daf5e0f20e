import LedgerClient.Document.Result
import LedgerClient.Document.Sample
import LedgerClient.Fixture.Reply
import LedgerClient.Request.Timeless
import LedgerClient.Scenario.Desk

/-!
# Steps about remote services

Puts services in memory at addresses, tells them how to answer, feeds the streams they hand
out, and shows what they were asked. Requests that carry the time of their making are shown
without it.
-/

namespace LedgerClient.Scenario

open Work

/-! ### Replies -/

/-- Reads whether a service is ready: at once, never, or failing for a reason. -/
def readReadiness? (d : Document) : Option (Reply Unit) := do
  let ready : String ← d.get? "ready"
  return if ready = "" then .ok () else if ready = "hang" then .hang else .fail ready

/-- Reads a reply: none ever, a failure, or what is described otherwise. -/
def readReply? {α : Type} (read? : Document → Option α) (d : Document) : Option (Reply α) := do
  let hang : Bool ← d.get? "hang"
  let fail : Option String ← d.get? "fail"
  match hang, fail with
  | true, _ => return .hang
  | false, some reason => return .fail reason
  | false, none => return .ok (← read? d)

/-- What is in the field `reply`. -/
def replyField (d : Document) : Document :=
  (d.field? "reply").getD (.object [])

/-- Reads what an endorsing peer answers. -/
def readProposalResponse? (d : Document) : Option ProposalResponse := do
  let status : Option Int32 ← d.get? "status"
  return Sample.proposalResponse
    { status := status.getD 200, message := ← d.get? "message", payload := ← d.get? "payload" }

/-- Reads what an ordering service answers: a status, or that it accepts. -/
def readBroadcastResponse? (d : Document) : Option BroadcastResponse := do
  let status : Option Status ← d.get? "status"
  return (status.map Sample.rejected).getD Sample.accepted

/-- Reads what a discovery service answers. -/
def readDiscoveryResponse? (d : Document) : Option DiscoveryResponse := do
  return { results := ← Sample.readResults? d }

/-! ### Putting services at addresses -/

/-- Puts an endorsing peer at an address. -/
def putEndorser : Step := fun d => do
  let reply ← readReply? readProposalResponse? (replyField d)
  let ready ← readReadiness? d
  let n ← network
  setNetwork { n with endorsers := n.endorsers.install (← text d "addr") { reply } ready }
  answer true

/-- Puts an ordering service at an address. -/
def putOrderer : Step := fun d => do
  let reply ← readReply? readBroadcastResponse? (replyField d)
  let ready ← readReadiness? d
  let n ← network
  setNetwork { n with orderers := n.orderers.install (← text d "addr") { reply } ready }
  answer true

/-- Puts a delivery service at an address. -/
def putDelivery : Step := fun d => do
  let ready ← readReadiness? d
  let n ← network
  setNetwork { n with deliveries := n.deliveries.install (← text d "addr") {} ready }
  answer true

/-- Puts a discovery service at an address. -/
def putDiscovery : Step := fun d => do
  let reply ← readReply? readDiscoveryResponse? d
  let ready ← readReadiness? d
  let n ← network
  setNetwork { n with discoveries := n.discoveries.install (← text d "addr") { reply } ready }
  answer true

/-! ### Changing what services do -/

/-- Changes the endorsing peer at an address. -/
def changeEndorser (d : Document) (f : Site EndorserSite → Site EndorserSite) : Work Document := do
  let n ← network
  let (id, _) ← n.endorsers.at? (← text d "addr")
  setNetwork { n with endorsers := n.endorsers.modify id f }
  answer true

/-- Lets an endorsing peer fail from now on. -/
def setFailing : Step := fun d => do
  let reason ← text d "reason"
  changeEndorser d fun s => { s with behaviour := { s.behaviour with reply := .fail reason } }

/-- Changes whether an endorsing peer is ready. -/
def setReady : Step := fun d => do
  let readiness ← readReadiness? d
  changeEndorser d fun s => { s with readiness }

/-- Changes what a discovery service answers. -/
def setResponse : Step := fun d => do
  let results ← Sample.readResults? d
  let n ← network
  let (id, _) ← n.discoveries.at? (← text d "addr")
  setNetwork { n with discoveries := n.discoveries.modify id fun s =>
    { s with behaviour := { s.behaviour with reply := .ok { results } } } }
  answer true

/-! ### Streams -/

/-- Arranges what the next request for a stream gets. -/
def arrange (d : Document) (next : Except String FeedId) : Work Unit := do
  let n ← network
  let (id, _) ← n.deliveries.at? (← text d "addr")
  setNetwork { n with deliveries := n.deliveries.modify id fun s =>
    { s with behaviour := { s.behaviour with upcoming := s.behaviour.upcoming ++ [next] } } }

/-- Lets go of the sending end of a stream; tells whether it was still held. -/
def dropSender (id : FeedId) : Work Bool := do
  let n ← network
  let f ← n.feeds.get? id.index
  setNetwork { n with feeds := n.feeds.set id.index { f with senderOpen := false } }
  return f.senderOpen

/-- A new stream under a name; an earlier one of that name has nobody left who could send. -/
def arrangeFeed : Step := fun d => do
  let name ← text d "id"
  let (sent, f) := Feed.sendAll (← Sample.readStreamEvents? d) {}
  let n ← network
  let id : FeedId := ⟨n.feeds.size⟩
  setNetwork { n with feeds := n.feeds.push f }
  arrange d (.ok id)
  if let some old := (← get).feeds.get? name then
    let _ ← dropSender old
  nameFeed name id
  answer sent

/-- Lets the next request for a stream fail. -/
def failNext : Step := fun d => do
  arrange d (.error (← text d "reason"))
  answer true

/-- Sends events into a stream, and tells which of them somebody may still read. -/
def push : Step := fun d => do
  let id ← feed (← text d "feed")
  let events ← Sample.readStreamEvents? d
  let n ← network
  let (sent, f) := (← n.feeds.get? id.index).sendAll events
  setNetwork { n with feeds := n.feeds.set id.index f }
  report [("sent", shown sent)]

/-- Lets go of the sending end of a stream. -/
def dropFeed : Step := fun d => do
  answer (← dropSender (← feed (← text d "feed")))

/-- Tells whether nobody reads a stream any more. -/
def feedState : Step := fun d => do
  let id ← feed (← text d "feed")
  let f ← (← network).feeds.get? id.index
  report [("cancelled", shown !f.receiverOpen)]

/-! ### What the network has seen -/

/-- Reads the kind of a service. -/
def readService? (d : Document) : Option NodeKind := do
  let service : String ← d.get? "service"
  match service with
  | "endorser" => return .peer
  | "orderer" | "broadcast" => return .orderer
  | "deliver" => return .eventer
  | "discovery" => return .discoverer
  | _ => none

/-- Makes dialling an address hang, or stops that. -/
def hangConnect : Step := fun d => do
  let addr ← text d "addr"
  let off : Bool ← d.get? "off"
  let n ← network
  let (changed, n) := match ← readService? d with
    | .peer => let (c, x) := n.endorsers.setHanging addr !off; (c, { n with endorsers := x })
    | .orderer => let (c, x) := n.orderers.setHanging addr !off; (c, { n with orderers := x })
    | .eventer => let (c, x) := n.deliveries.setHanging addr !off; (c, { n with deliveries := x })
    | .discoverer =>
      let (c, x) := n.discoveries.setHanging addr !off; (c, { n with discoveries := x })
  setNetwork n
  answer changed

/-- A proposal without the time of its making, or the fault in reading it. -/
def proposalDocument (bytes : Bytes) : Document :=
  .inPlace ((ChaincodeProposal.timeless bytes).map shown)

/-- A payload without the time of its making, or the fault in reading it. -/
def payloadDocument (bytes : Bytes) : Document :=
  .inPlace ((Payload.timeless bytes).map shown)

/-- A payload with its signature. -/
def lastDocument (payload : Bytes → Document) (last : Option (Bytes × Bytes)) : Work Document := do
  match last with
  | none => return .null
  | some (bytes, signature) =>
    return .object [("payload", payload bytes),
      ("signature", ← signatureDocument bytes signature)]

/-- Shows what a service was asked. -/
def calls : Step := fun d => do
  let addr ← text d "addr"
  let n ← network
  match ← readService? d with
  | .peer => do
    let (_, s) ← n.endorsers.at? addr
    let last := s.behaviour.last.map fun p => (p.proposalBytes, p.signature)
    report [("calls", .ofNat s.behaviour.calls), ("closed", shown s.closed),
      ("last", ← lastDocument proposalDocument last)]
  | .orderer => do
    let (_, s) ← n.orderers.at? addr
    report [("calls", .ofNat s.behaviour.calls), ("closed", shown s.closed)]
  | .eventer => do
    let (_, s) ← n.deliveries.at? addr
    let requests ← s.behaviour.requests.mapM fun (t, e) => do
      return .list [shown t, payloadDocument e.payload, ← signatureDocument e.payload e.signature]
    report [("closed", shown s.closed), ("requests", .list requests)]
  | .discoverer => do
    let (_, s) ← n.discoveries.at? addr
    let last := s.behaviour.last.map fun r => (r.payload, r.signature)
    report [("calls", .ofNat s.behaviour.calls), ("closed", shown s.closed),
      ("last", ← lastDocument shown last)]

/-- Shows the endpoints that were dialled successfully. -/
def connected : Step := fun d => do
  let n ← network
  match ← readService? d with
  | .peer => answer n.endorsers.connected
  | .orderer => answer n.orderers.connected
  | .eventer => answer n.deliveries.connected
  | .discoverer => answer n.discoveries.connected

/-- Lets time pass. -/
def advance : Step := fun d => do
  setWorld ((← world).elapse (← d.get? "ms"))
  answer true

/-- The steps about remote services. -/
def serviceSteps : List (String × Step) := [
  ("mock_endorser", putEndorser), ("mock_orderer", putOrderer), ("mock_deliver", putDelivery),
  ("mock_discovery", putDiscovery), ("set_failing", setFailing), ("set_ready", setReady),
  ("set_response", setResponse), ("feed", arrangeFeed), ("fail_next", failNext), ("push", push),
  ("drop_feed", dropFeed), ("feed_state", feedState), ("hang_connect", hangConnect),
  ("calls", calls), ("connected", connected), ("advance", advance)]

end LedgerClient.Scenario
