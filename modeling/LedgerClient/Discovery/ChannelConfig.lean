import LedgerClient.Message.Wire
import LedgerClient.Node.Endpoint
import LedgerClient.Node.Msp

/-!
# Channel configurations

Reads the membership service providers and orderers of a channel from a discovery answer,
and derives the endpoints at which discovered nodes are reached. A provider whose
configuration cannot be read is left out.
-/

namespace LedgerClient

/-- An orderer of a channel; its name is its address. -/
structure OrdererAddress where
  name : String
  host : String
  port : UInt16
  deriving DecidableEq, Repr, Inhabited

/-- The orderer at a host and port. -/
def OrdererAddress.new (host : String) (port : UInt16) : OrdererAddress :=
  { name := s!"{host}:{port.toNat}", host, port }

/-- The provider of an id, from its encoded configuration. -/
def MspInfo.decode? (id : String) (config : MspConfig) : Option MspInfo :=
  match Wire.decode (α := FabricMspConfig) config.config with
  | .error _ => none
  | .ok c =>
    let texts (certs : List Bytes) : List String := certs.map Utf8.decodeLossy
    some
      { id
        name := c.name
        rootCerts := texts c.rootCerts
        intermediateCerts := texts c.intermediateCerts
        admins := texts c.admins
        revocationList := texts c.revocationList
        organizationalUnitIdentifiers := c.organizationalUnitIdentifiers.map
          OrganizationalUnitIdentifier.organizationalUnitIdentifier
        tlsRootCerts := texts c.tlsRootCerts
        tlsIntermediateCerts := texts c.tlsIntermediateCerts }

/-- The readable providers of a configuration. -/
def decodeMsps (result : ConfigResult) : SortedMap String MspInfo :=
  SortedMap.ofList <| result.msps.entries.filterMap fun (id, config) =>
    (MspInfo.decode? id config).map (id, ·)

/-- The orderers of a configuration by the id of their provider. -/
def decodeOrderers (result : ConfigResult) : SortedMap String (List OrdererAddress) :=
  result.orderers.mapValues fun _ endpoints =>
    endpoints.endpoint.map fun e => .new e.host e.port

/-- How a discovered node is reached: at its advertised host, or at `localhost` under the
advertised name. With TLS its provider's certificates are trusted. -/
def discoveredEndpoint (host : String) (port : UInt16) (protocol : Protocol)
    (asLocalhost : Bool) (msp : Option MspInfo) : Endpoint :=
  let bundle := (msp.map MspInfo.tlsCaBundle).getD ""
  { protocol
    host := if asLocalhost then "localhost" else host
    port
    sslTarget := if asLocalhost then some host else none
    tlsRootCerts := if protocol.isTls then Utf8.encode bundle else [] }

end LedgerClient
