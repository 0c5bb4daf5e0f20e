import LedgerClient.Codec.Basic

/-!
# Gossip and membership

Serialized identities, the configuration of membership service providers, and the gossip
messages from which a discovery service knows the peers.
-/

namespace LedgerClient

/-- An identity as it travels: the MSP that vouches for it, and its certificate or key. -/
structure SerializedIdentity where
  mspid : String := ""
  idBytes : Bytes := []
  deriving DecidableEq, Repr, Inhabited

def SerializedIdentity.codec : Codec SerializedIdentity :=
  (Codec.text.pair Codec.bytes).iso
    (fun (mspid, idBytes) => ⟨mspid, idBytes⟩)
    (fun s => (s.mspid, s.idBytes))

/-- An organizational unit and the certificate it is rooted in. -/
structure OrganizationalUnitIdentifier where
  certificate : Bytes := []
  organizationalUnitIdentifier : String := ""
  deriving DecidableEq, Repr, Inhabited

def OrganizationalUnitIdentifier.codec : Codec OrganizationalUnitIdentifier :=
  (Codec.bytes.pair Codec.text).iso
    (fun (certificate, organizationalUnitIdentifier) => ⟨certificate,
      organizationalUnitIdentifier⟩)
    (fun o => (o.certificate, o.organizationalUnitIdentifier))

/-- The certificates of a membership service provider. -/
structure FabricMspConfig where
  name : String := ""
  rootCerts : List Bytes := []
  intermediateCerts : List Bytes := []
  admins : List Bytes := []
  revocationList : List Bytes := []
  organizationalUnitIdentifiers : List OrganizationalUnitIdentifier := []
  tlsRootCerts : List Bytes := []
  tlsIntermediateCerts : List Bytes := []
  deriving DecidableEq, Repr, Inhabited

def FabricMspConfig.codec : Codec FabricMspConfig :=
  (Codec.text.pair <| (Codec.list Codec.bytes).pair <| (Codec.list Codec.bytes).pair <|
    (Codec.list Codec.bytes).pair <| (Codec.list Codec.bytes).pair <| (Codec.list
    OrganizationalUnitIdentifier.codec).pair <| (Codec.list Codec.bytes).pair (Codec.list
    Codec.bytes)).iso
    (fun (name, rootCerts, intermediateCerts, admins, revocationList,
      organizationalUnitIdentifiers, tlsRootCerts, tlsIntermediateCerts) => ⟨name, rootCerts,
      intermediateCerts, admins, revocationList, organizationalUnitIdentifiers, tlsRootCerts,
      tlsIntermediateCerts⟩)
    (fun f => (f.name, f.rootCerts, f.intermediateCerts, f.admins, f.revocationList,
      f.organizationalUnitIdentifiers, f.tlsRootCerts, f.tlsIntermediateCerts))

/-- An encoded configuration of a membership service provider. -/
structure MspConfig where
  mspType : Int32 := 0
  config : Bytes := []
  deriving DecidableEq, Repr, Inhabited

def MspConfig.codec : Codec MspConfig :=
  (Codec.i32.pair Codec.bytes).iso
    (fun (mspType, config) => ⟨mspType, config⟩)
    (fun m => (m.mspType, m.config))

/-- An encoded gossip message and the signature over it. -/
structure GossipEnvelope where
  payload : Bytes := []
  signature : Bytes := []
  deriving DecidableEq, Repr, Inhabited

def GossipEnvelope.codec : Codec GossipEnvelope :=
  (Codec.bytes.pair Codec.bytes).iso
    (fun (payload, signature) => ⟨payload, signature⟩)
    (fun g => (g.payload, g.signature))

/-- A peer as gossip addresses it. -/
structure Member where
  endpoint : String := ""
  pkiId : Bytes := []
  deriving DecidableEq, Repr, Inhabited

def Member.codec : Codec Member :=
  (Codec.text.pair Codec.bytes).iso
    (fun (endpoint, pkiId) => ⟨endpoint, pkiId⟩)
    (fun m => (m.endpoint, m.pkiId))

/-- The message by which a peer shows that it is alive. -/
structure AliveMessage where
  membership : Member := {}
  timestamp : UInt64 := 0
  deriving DecidableEq, Repr, Inhabited

def AliveMessage.codec : Codec AliveMessage :=
  (Member.codec.pair Codec.u64).iso
    (fun (membership, timestamp) => ⟨membership, timestamp⟩)
    (fun a => (a.membership, a.timestamp))

/-- A chaincode installed on a peer. -/
structure InstalledChaincode where
  name : String := ""
  version : String := ""
  deriving DecidableEq, Repr, Inhabited

def InstalledChaincode.codec : Codec InstalledChaincode :=
  (Codec.text.pair Codec.text).iso
    (fun (name, version) => ⟨name, version⟩)
    (fun i => (i.name, i.version))

/-- What a peer tells of its ledger. -/
structure Properties where
  ledgerHeight : UInt64 := 0
  leftChannel : Bool := false
  chaincodes : List InstalledChaincode := []
  deriving DecidableEq, Repr, Inhabited

def Properties.codec : Codec Properties :=
  (Codec.u64.pair <| Codec.bool.pair (Codec.list InstalledChaincode.codec)).iso
    (fun (ledgerHeight, leftChannel, chaincodes) => ⟨ledgerHeight, leftChannel, chaincodes⟩)
    (fun p => (p.ledgerHeight, p.leftChannel, p.chaincodes))

/-- The message by which a peer publishes its ledger state. -/
structure StateInfo where
  pkiId : Bytes := []
  channelMac : Bytes := []
  properties : Option Properties := none
  deriving DecidableEq, Repr, Inhabited

def StateInfo.codec : Codec StateInfo :=
  (Codec.bytes.pair <| Codec.bytes.pair (Codec.option Properties.codec)).iso
    (fun (pkiId, channelMac, properties) => ⟨pkiId, channelMac, properties⟩)
    (fun s => (s.pkiId, s.channelMac, s.properties))

/-- The content of a gossip message. -/
inductive GossipContent where
  | alive (message : AliveMessage)
  | state (info : StateInfo)
  | empty
  deriving DecidableEq, Repr, Inhabited

namespace GossipContent

def variants : List (Codec.Variant GossipContent) :=
  [⟨.alive, fun | .alive m => some m | _ => none, AliveMessage.codec⟩,
    ⟨.state, fun | .state i => some i | _ => none, StateInfo.codec⟩,
    ⟨fun () => .empty, fun | .empty => some () | _ => none, .unit⟩]

def codec : Codec GossipContent := .choice variants

end GossipContent

/-- A gossip message. -/
structure GossipMessage where
  nonce : UInt64 := 0
  channel : Bytes := []
  content : GossipContent
  deriving DecidableEq, Repr, Inhabited

def GossipMessage.codec : Codec GossipMessage :=
  (Codec.u64.pair <| Codec.bytes.pair GossipContent.codec).iso
    (fun (nonce, channel, content) => ⟨nonce, channel, content⟩)
    (fun g => (g.nonce, g.channel, g.content))

end LedgerClient
