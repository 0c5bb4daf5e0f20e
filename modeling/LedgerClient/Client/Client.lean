import LedgerClient.Client.Config

/-!
# Clients

A client makes nodes, channels, event hubs and discoveries under its configuration. A
channel is made when it is first asked for, and is the same one until the client is closed.
-/

namespace LedgerClient

/-- A client: its configuration and the channels it has made. -/
structure Client where
  config : ClientConfig := {}
  channels : SortedMap String ChannelId := ∅

namespace Client

/-- The channel of a name. -/
def channel (name : String) (c : Client) (w : World) :
    Except ServiceError ChannelId × Client × World :=
  match c.channels.get? name with
  | some id => (.ok id, c, w)
  | none =>
    match w.addChannel name with
    | .error e => (.error e, c, w)
    | .ok (id, w) => (.ok id, { c with channels := c.channels.insert name id }, w)

/-- Disconnects the nodes of all channels and forgets the channels. -/
def close (c : Client) (w : World) : Client × World :=
  ({ c with channels := ∅ }, c.channels.values.foldl (fun w id => w.closeChannel id) w)

/-- The endpoint at a url, with the limits of the client. -/
def endpoint (url : String) (c : Client) : Except ServiceError Endpoint := do
  return { ← Endpoint.parse url with options := c.config.endpoint }

/-- Makes a node and connects it. -/
def connectNode (k : NodeKind) (name url : String) (mspid : Option String) (c : Client)
    (w : World) : Except ServiceError (NodeId k) × World :=
  match c.endpoint url with
  | .error e => (.error e, w)
  | .ok endpoint =>
    let (id, w) := w.addNode k name mspid
    match w.connect id endpoint with
    | (.ok (), w) => (.ok id, w)
    | (.error e, w) => (.error e, w)

/-- A new hub for a channel. -/
def eventHub (name channel : String) (c : Client) :
    Except EventHubError (EventHub StreamSource) :=
  EventHub.new name channel c.config.eventHub

/-- A new discovery for a channel. -/
def channelDiscovery (name channel : String) (c : Client) (w : World) :
    Except ServiceError ChannelDiscovery × Client × World :=
  match c.channel channel w with
  | (.error e, c, w) => (.error e, c, w)
  | (.ok channel, c, w) => (.ok { name, channel, config := c.config.discovery }, c, w)

end Client

end LedgerClient
