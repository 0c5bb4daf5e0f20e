import LedgerClient.Ledger.BlockNumber
import LedgerClient.Ledger.ValidationCode
import LedgerClient.Message.Delivery
import LedgerClient.Message.Discovery
import LedgerClient.Message.Proposal
import LedgerClient.Node.ConnectionInfo

/-!
# The wire types

Every type that travels between client and network has a name, which decoding errors
show, and one codec. `WireType` lists them all, so that a law of the wire format can be
stated once for every type.
-/

namespace LedgerClient

/-- A type with a name and a codec on the wire. -/
class Wire (α : Type) where
  name : String
  codec : Codec α

/-- Bytes that are no value of the named type. -/
structure DecodeError where
  what : String
  fault : DecodeFault
  deriving DecidableEq, Repr

/-- The wording of the error. -/
def DecodeError.message (e : DecodeError) : String :=
  s!"Failed to decode {e.what}: {e.fault.message}"

namespace Wire

variable {α : Type} [Wire α]

/-- The bytes of a value. -/
def encode (a : α) : Bytes :=
  (codec (α := α)).encode a

/-- The value at the start of the bytes; what follows it is ignored. -/
def decode (bytes : Bytes) : Except DecodeError α :=
  match (codec (α := α)).decode bytes with
  | .ok (a, _) => .ok a
  | .error fault => .error ⟨name α, fault⟩

end Wire

/-! ### Names and codecs -/

instance : Wire Timestamp := ⟨"Timestamp", Timestamp.codec⟩

instance : Wire ChannelHeader := ⟨"ChannelHeader", ChannelHeader.codec⟩

instance : Wire SignatureHeader := ⟨"SignatureHeader", SignatureHeader.codec⟩

instance : Wire Header := ⟨"Header", Header.codec⟩

instance : Wire Payload := ⟨"Payload", Payload.codec⟩

instance : Wire Envelope := ⟨"Envelope", Envelope.codec⟩

instance : Wire HeaderType := ⟨"HeaderType", HeaderType.codec⟩

instance : Wire Status := ⟨"Status", Status.codec⟩

instance : Wire BlockHeader := ⟨"BlockHeader", BlockHeader.codec⟩

instance : Wire BlockData := ⟨"BlockData", BlockData.codec⟩

instance : Wire BlockMetadata := ⟨"BlockMetadata", BlockMetadata.codec⟩

instance : Wire Block := ⟨"Block", Block.codec⟩

instance : Wire ChaincodeEvent := ⟨"ChaincodeEvent", ChaincodeEvent.codec⟩

instance : Wire FilteredBlock := ⟨"FilteredBlock", FilteredBlock.codec⟩

instance : Wire FilteredTransaction := ⟨"FilteredTransaction", FilteredTransaction.codec⟩

instance : Wire FilteredTransactionActions := ⟨"FilteredTransactionActions", FilteredTransactionActions.codec⟩

instance : Wire FilteredChaincodeAction := ⟨"FilteredChaincodeAction", FilteredChaincodeAction.codec⟩

instance : Wire CollectionPvtReadWriteSet := ⟨"CollectionPvtReadWriteSet", CollectionPvtReadWriteSet.codec⟩

instance : Wire NsPvtReadWriteSet := ⟨"NsPvtReadWriteSet", NsPvtReadWriteSet.codec⟩

instance : Wire TxPvtReadWriteSet := ⟨"TxPvtReadWriteSet", TxPvtReadWriteSet.codec⟩

instance : Wire PrivateDataMap := ⟨"PrivateDataMap", PrivateDataMap.codec⟩

instance : Wire ChaincodeId := ⟨"ChaincodeId", ChaincodeId.codec⟩

instance : Wire ChaincodeInput := ⟨"ChaincodeInput", ChaincodeInput.codec⟩

instance : Wire ChaincodeSpec := ⟨"ChaincodeSpec", ChaincodeSpec.codec⟩

instance : Wire ChaincodeInvocationSpec := ⟨"ChaincodeInvocationSpec", ChaincodeInvocationSpec.codec⟩

instance : Wire ChaincodeHeaderExtension := ⟨"ChaincodeHeaderExtension", ChaincodeHeaderExtension.codec⟩

instance : Wire ChaincodeProposalPayload := ⟨"ChaincodeProposalPayload", ChaincodeProposalPayload.codec⟩

instance : Wire ChaincodeProposal := ⟨"ChaincodeProposal", ChaincodeProposal.codec⟩

instance : Wire SignedProposal := ⟨"SignedProposal", SignedProposal.codec⟩

instance : Wire Response := ⟨"Response", Response.codec⟩

instance : Wire Endorsement := ⟨"Endorsement", Endorsement.codec⟩

instance : Wire ProposalResponse := ⟨"ProposalResponse", ProposalResponse.codec⟩

instance : Wire ProposalResponsePayload := ⟨"ProposalResponsePayload", ProposalResponsePayload.codec⟩

instance : Wire ChaincodeAction := ⟨"ChaincodeAction", ChaincodeAction.codec⟩

instance : Wire ChaincodeEndorsedAction := ⟨"ChaincodeEndorsedAction", ChaincodeEndorsedAction.codec⟩

instance : Wire ChaincodeActionPayload := ⟨"ChaincodeActionPayload", ChaincodeActionPayload.codec⟩

instance : Wire TransactionAction := ⟨"TransactionAction", TransactionAction.codec⟩

instance : Wire Transaction := ⟨"Transaction", Transaction.codec⟩

instance : Wire BlockType := ⟨"BlockType", BlockType.codec⟩

instance : Wire SeekPosition := ⟨"SeekPosition", SeekPosition.codec⟩

instance : Wire SeekBehavior := ⟨"SeekBehavior", SeekBehavior.codec⟩

instance : Wire SeekInfo := ⟨"SeekInfo", SeekInfo.codec⟩

instance : Wire BroadcastResponse := ⟨"BroadcastResponse", BroadcastResponse.codec⟩

instance : Wire DeliverResponse := ⟨"DeliverResponse", DeliverResponse.codec⟩

instance : Wire SerializedIdentity := ⟨"SerializedIdentity", SerializedIdentity.codec⟩

instance : Wire OrganizationalUnitIdentifier := ⟨"OrganizationalUnitIdentifier", OrganizationalUnitIdentifier.codec⟩

instance : Wire FabricMspConfig := ⟨"FabricMspConfig", FabricMspConfig.codec⟩

instance : Wire MspConfig := ⟨"MspConfig", MspConfig.codec⟩

instance : Wire GossipEnvelope := ⟨"GossipEnvelope", GossipEnvelope.codec⟩

instance : Wire GossipMessage := ⟨"GossipMessage", GossipMessage.codec⟩

instance : Wire GossipContent := ⟨"GossipContent", GossipContent.codec⟩

instance : Wire Member := ⟨"Member", Member.codec⟩

instance : Wire AliveMessage := ⟨"AliveMessage", AliveMessage.codec⟩

instance : Wire StateInfo := ⟨"StateInfo", StateInfo.codec⟩

instance : Wire Properties := ⟨"Properties", Properties.codec⟩

instance : Wire InstalledChaincode := ⟨"InstalledChaincode", InstalledChaincode.codec⟩

instance : Wire AuthInfo := ⟨"AuthInfo", AuthInfo.codec⟩

instance : Wire ChaincodeCall := ⟨"ChaincodeCall", ChaincodeCall.codec⟩

instance : Wire ChaincodeInterest := ⟨"ChaincodeInterest", ChaincodeInterest.codec⟩

instance : Wire QueryKind := ⟨"QueryKind", QueryKind.codec⟩

instance : Wire Query := ⟨"Query", Query.codec⟩

instance : Wire DiscoveryRequest := ⟨"DiscoveryRequest", DiscoveryRequest.codec⟩

instance : Wire SignedRequest := ⟨"SignedRequest", SignedRequest.codec⟩

instance : Wire OrdererEndpoint := ⟨"OrdererEndpoint", OrdererEndpoint.codec⟩

instance : Wire Endpoints := ⟨"Endpoints", Endpoints.codec⟩

instance : Wire ConfigResult := ⟨"ConfigResult", ConfigResult.codec⟩

instance : Wire DiscoveryPeer := ⟨"DiscoveryPeer", DiscoveryPeer.codec⟩

instance : Wire Peers := ⟨"Peers", Peers.codec⟩

instance : Wire PeerMembershipResult := ⟨"PeerMembershipResult", PeerMembershipResult.codec⟩

instance : Wire Layout := ⟨"Layout", Layout.codec⟩

instance : Wire EndorsementDescriptor := ⟨"EndorsementDescriptor", EndorsementDescriptor.codec⟩

instance : Wire ChaincodeQueryResult := ⟨"ChaincodeQueryResult", ChaincodeQueryResult.codec⟩

instance : Wire QueryResult := ⟨"QueryResult", QueryResult.codec⟩

instance : Wire DiscoveryResponse := ⟨"DiscoveryResponse", DiscoveryResponse.codec⟩

instance : Wire ConnectionInfo := ⟨"ConnectionInfo", ConnectionInfo.codec⟩

instance : Wire BlockNumber := ⟨"BlockNum", BlockNumber.codec⟩

instance : Wire BlockPosition := ⟨"BlockPosition", BlockPosition.codec⟩

instance : Wire ValidationCode := ⟨"TxValidationCode", ValidationCode.codec⟩

instance : Wire String := ⟨"String", .text⟩

instance : Wire Bool := ⟨"bool", .bool⟩

instance : Wire UInt64 := ⟨"u64", .u64⟩

instance : Wire UInt16 := ⟨"u16", .u16⟩

instance : Wire Int32 := ⟨"i32", .i32⟩

/-! ### The list of all wire types -/

/-- A type of the wire format. -/
inductive WireType where
  | timestamp
  | channelHeader
  | signatureHeader
  | header
  | payload
  | envelope
  | headerType
  | status
  | blockHeader
  | blockData
  | blockMetadata
  | block
  | chaincodeEvent
  | filteredBlock
  | filteredTransaction
  | filteredTransactionActions
  | filteredChaincodeAction
  | collectionPvtReadWriteSet
  | nsPvtReadWriteSet
  | txPvtReadWriteSet
  | privateDataMap
  | chaincodeId
  | chaincodeInput
  | chaincodeSpec
  | chaincodeInvocationSpec
  | chaincodeHeaderExtension
  | chaincodeProposalPayload
  | chaincodeProposal
  | signedProposal
  | response
  | endorsement
  | proposalResponse
  | proposalResponsePayload
  | chaincodeAction
  | chaincodeEndorsedAction
  | chaincodeActionPayload
  | transactionAction
  | transaction
  | blockType
  | seekPosition
  | seekBehavior
  | seekInfo
  | broadcastResponse
  | deliverResponse
  | serializedIdentity
  | organizationalUnitIdentifier
  | fabricMspConfig
  | mspConfig
  | gossipEnvelope
  | gossipMessage
  | gossipContent
  | member
  | aliveMessage
  | stateInfo
  | properties
  | installedChaincode
  | authInfo
  | chaincodeCall
  | chaincodeInterest
  | queryKind
  | query
  | discoveryRequest
  | signedRequest
  | ordererEndpoint
  | endpoints
  | configResult
  | discoveryPeer
  | peers
  | peerMembershipResult
  | layout
  | endorsementDescriptor
  | chaincodeQueryResult
  | queryResult
  | discoveryResponse
  | connectionInfo
  | blockNumber
  | blockPosition
  | validationCode
  | text
  | bool
  | u64
  | u16
  | i32
  deriving DecidableEq, Repr

namespace WireType

/-- The values of a wire type. -/
abbrev Carrier : WireType → Type
  | .timestamp => Timestamp
  | .channelHeader => ChannelHeader
  | .signatureHeader => SignatureHeader
  | .header => Header
  | .payload => Payload
  | .envelope => Envelope
  | .headerType => HeaderType
  | .status => Status
  | .blockHeader => BlockHeader
  | .blockData => BlockData
  | .blockMetadata => BlockMetadata
  | .block => Block
  | .chaincodeEvent => ChaincodeEvent
  | .filteredBlock => FilteredBlock
  | .filteredTransaction => FilteredTransaction
  | .filteredTransactionActions => FilteredTransactionActions
  | .filteredChaincodeAction => FilteredChaincodeAction
  | .collectionPvtReadWriteSet => CollectionPvtReadWriteSet
  | .nsPvtReadWriteSet => NsPvtReadWriteSet
  | .txPvtReadWriteSet => TxPvtReadWriteSet
  | .privateDataMap => PrivateDataMap
  | .chaincodeId => ChaincodeId
  | .chaincodeInput => ChaincodeInput
  | .chaincodeSpec => ChaincodeSpec
  | .chaincodeInvocationSpec => ChaincodeInvocationSpec
  | .chaincodeHeaderExtension => ChaincodeHeaderExtension
  | .chaincodeProposalPayload => ChaincodeProposalPayload
  | .chaincodeProposal => ChaincodeProposal
  | .signedProposal => SignedProposal
  | .response => Response
  | .endorsement => Endorsement
  | .proposalResponse => ProposalResponse
  | .proposalResponsePayload => ProposalResponsePayload
  | .chaincodeAction => ChaincodeAction
  | .chaincodeEndorsedAction => ChaincodeEndorsedAction
  | .chaincodeActionPayload => ChaincodeActionPayload
  | .transactionAction => TransactionAction
  | .transaction => Transaction
  | .blockType => BlockType
  | .seekPosition => SeekPosition
  | .seekBehavior => SeekBehavior
  | .seekInfo => SeekInfo
  | .broadcastResponse => BroadcastResponse
  | .deliverResponse => DeliverResponse
  | .serializedIdentity => SerializedIdentity
  | .organizationalUnitIdentifier => OrganizationalUnitIdentifier
  | .fabricMspConfig => FabricMspConfig
  | .mspConfig => MspConfig
  | .gossipEnvelope => GossipEnvelope
  | .gossipMessage => GossipMessage
  | .gossipContent => GossipContent
  | .member => Member
  | .aliveMessage => AliveMessage
  | .stateInfo => StateInfo
  | .properties => Properties
  | .installedChaincode => InstalledChaincode
  | .authInfo => AuthInfo
  | .chaincodeCall => ChaincodeCall
  | .chaincodeInterest => ChaincodeInterest
  | .queryKind => QueryKind
  | .query => Query
  | .discoveryRequest => DiscoveryRequest
  | .signedRequest => SignedRequest
  | .ordererEndpoint => OrdererEndpoint
  | .endpoints => Endpoints
  | .configResult => ConfigResult
  | .discoveryPeer => DiscoveryPeer
  | .peers => Peers
  | .peerMembershipResult => PeerMembershipResult
  | .layout => Layout
  | .endorsementDescriptor => EndorsementDescriptor
  | .chaincodeQueryResult => ChaincodeQueryResult
  | .queryResult => QueryResult
  | .discoveryResponse => DiscoveryResponse
  | .connectionInfo => ConnectionInfo
  | .blockNumber => BlockNumber
  | .blockPosition => BlockPosition
  | .validationCode => ValidationCode
  | .text => String
  | .bool => Bool
  | .u64 => UInt64
  | .u16 => UInt16
  | .i32 => Int32

instance wire : (t : WireType) → Wire t.Carrier
  | .timestamp => inferInstanceAs (Wire Timestamp)
  | .channelHeader => inferInstanceAs (Wire ChannelHeader)
  | .signatureHeader => inferInstanceAs (Wire SignatureHeader)
  | .header => inferInstanceAs (Wire Header)
  | .payload => inferInstanceAs (Wire Payload)
  | .envelope => inferInstanceAs (Wire Envelope)
  | .headerType => inferInstanceAs (Wire HeaderType)
  | .status => inferInstanceAs (Wire Status)
  | .blockHeader => inferInstanceAs (Wire BlockHeader)
  | .blockData => inferInstanceAs (Wire BlockData)
  | .blockMetadata => inferInstanceAs (Wire BlockMetadata)
  | .block => inferInstanceAs (Wire Block)
  | .chaincodeEvent => inferInstanceAs (Wire ChaincodeEvent)
  | .filteredBlock => inferInstanceAs (Wire FilteredBlock)
  | .filteredTransaction => inferInstanceAs (Wire FilteredTransaction)
  | .filteredTransactionActions => inferInstanceAs (Wire FilteredTransactionActions)
  | .filteredChaincodeAction => inferInstanceAs (Wire FilteredChaincodeAction)
  | .collectionPvtReadWriteSet => inferInstanceAs (Wire CollectionPvtReadWriteSet)
  | .nsPvtReadWriteSet => inferInstanceAs (Wire NsPvtReadWriteSet)
  | .txPvtReadWriteSet => inferInstanceAs (Wire TxPvtReadWriteSet)
  | .privateDataMap => inferInstanceAs (Wire PrivateDataMap)
  | .chaincodeId => inferInstanceAs (Wire ChaincodeId)
  | .chaincodeInput => inferInstanceAs (Wire ChaincodeInput)
  | .chaincodeSpec => inferInstanceAs (Wire ChaincodeSpec)
  | .chaincodeInvocationSpec => inferInstanceAs (Wire ChaincodeInvocationSpec)
  | .chaincodeHeaderExtension => inferInstanceAs (Wire ChaincodeHeaderExtension)
  | .chaincodeProposalPayload => inferInstanceAs (Wire ChaincodeProposalPayload)
  | .chaincodeProposal => inferInstanceAs (Wire ChaincodeProposal)
  | .signedProposal => inferInstanceAs (Wire SignedProposal)
  | .response => inferInstanceAs (Wire Response)
  | .endorsement => inferInstanceAs (Wire Endorsement)
  | .proposalResponse => inferInstanceAs (Wire ProposalResponse)
  | .proposalResponsePayload => inferInstanceAs (Wire ProposalResponsePayload)
  | .chaincodeAction => inferInstanceAs (Wire ChaincodeAction)
  | .chaincodeEndorsedAction => inferInstanceAs (Wire ChaincodeEndorsedAction)
  | .chaincodeActionPayload => inferInstanceAs (Wire ChaincodeActionPayload)
  | .transactionAction => inferInstanceAs (Wire TransactionAction)
  | .transaction => inferInstanceAs (Wire Transaction)
  | .blockType => inferInstanceAs (Wire BlockType)
  | .seekPosition => inferInstanceAs (Wire SeekPosition)
  | .seekBehavior => inferInstanceAs (Wire SeekBehavior)
  | .seekInfo => inferInstanceAs (Wire SeekInfo)
  | .broadcastResponse => inferInstanceAs (Wire BroadcastResponse)
  | .deliverResponse => inferInstanceAs (Wire DeliverResponse)
  | .serializedIdentity => inferInstanceAs (Wire SerializedIdentity)
  | .organizationalUnitIdentifier => inferInstanceAs (Wire OrganizationalUnitIdentifier)
  | .fabricMspConfig => inferInstanceAs (Wire FabricMspConfig)
  | .mspConfig => inferInstanceAs (Wire MspConfig)
  | .gossipEnvelope => inferInstanceAs (Wire GossipEnvelope)
  | .gossipMessage => inferInstanceAs (Wire GossipMessage)
  | .gossipContent => inferInstanceAs (Wire GossipContent)
  | .member => inferInstanceAs (Wire Member)
  | .aliveMessage => inferInstanceAs (Wire AliveMessage)
  | .stateInfo => inferInstanceAs (Wire StateInfo)
  | .properties => inferInstanceAs (Wire Properties)
  | .installedChaincode => inferInstanceAs (Wire InstalledChaincode)
  | .authInfo => inferInstanceAs (Wire AuthInfo)
  | .chaincodeCall => inferInstanceAs (Wire ChaincodeCall)
  | .chaincodeInterest => inferInstanceAs (Wire ChaincodeInterest)
  | .queryKind => inferInstanceAs (Wire QueryKind)
  | .query => inferInstanceAs (Wire Query)
  | .discoveryRequest => inferInstanceAs (Wire DiscoveryRequest)
  | .signedRequest => inferInstanceAs (Wire SignedRequest)
  | .ordererEndpoint => inferInstanceAs (Wire OrdererEndpoint)
  | .endpoints => inferInstanceAs (Wire Endpoints)
  | .configResult => inferInstanceAs (Wire ConfigResult)
  | .discoveryPeer => inferInstanceAs (Wire DiscoveryPeer)
  | .peers => inferInstanceAs (Wire Peers)
  | .peerMembershipResult => inferInstanceAs (Wire PeerMembershipResult)
  | .layout => inferInstanceAs (Wire Layout)
  | .endorsementDescriptor => inferInstanceAs (Wire EndorsementDescriptor)
  | .chaincodeQueryResult => inferInstanceAs (Wire ChaincodeQueryResult)
  | .queryResult => inferInstanceAs (Wire QueryResult)
  | .discoveryResponse => inferInstanceAs (Wire DiscoveryResponse)
  | .connectionInfo => inferInstanceAs (Wire ConnectionInfo)
  | .blockNumber => inferInstanceAs (Wire BlockNumber)
  | .blockPosition => inferInstanceAs (Wire BlockPosition)
  | .validationCode => inferInstanceAs (Wire ValidationCode)
  | .text => inferInstanceAs (Wire String)
  | .bool => inferInstanceAs (Wire Bool)
  | .u64 => inferInstanceAs (Wire UInt64)
  | .u16 => inferInstanceAs (Wire UInt16)
  | .i32 => inferInstanceAs (Wire Int32)

/-- The name of a wire type. -/
def name (t : WireType) : String := Wire.name t.Carrier

/-- All wire types. -/
def all : List WireType :=
  [.timestamp, .channelHeader, .signatureHeader, .header, .payload, .envelope, .headerType,
    .status, .blockHeader, .blockData, .blockMetadata, .block, .chaincodeEvent,
    .filteredBlock, .filteredTransaction, .filteredTransactionActions,
    .filteredChaincodeAction, .collectionPvtReadWriteSet, .nsPvtReadWriteSet,
    .txPvtReadWriteSet, .privateDataMap, .chaincodeId, .chaincodeInput, .chaincodeSpec,
    .chaincodeInvocationSpec, .chaincodeHeaderExtension, .chaincodeProposalPayload,
    .chaincodeProposal, .signedProposal, .response, .endorsement, .proposalResponse,
    .proposalResponsePayload, .chaincodeAction, .chaincodeEndorsedAction,
    .chaincodeActionPayload, .transactionAction, .transaction, .blockType, .seekPosition,
    .seekBehavior, .seekInfo, .broadcastResponse, .deliverResponse, .serializedIdentity,
    .organizationalUnitIdentifier, .fabricMspConfig, .mspConfig, .gossipEnvelope,
    .gossipMessage, .gossipContent, .member, .aliveMessage, .stateInfo, .properties,
    .installedChaincode, .authInfo, .chaincodeCall, .chaincodeInterest, .queryKind, .query,
    .discoveryRequest, .signedRequest, .ordererEndpoint, .endpoints, .configResult,
    .discoveryPeer, .peers, .peerMembershipResult, .layout, .endorsementDescriptor,
    .chaincodeQueryResult, .queryResult, .discoveryResponse, .connectionInfo, .blockNumber,
    .blockPosition, .validationCode, .text, .bool, .u64, .u16, .i32]

/-- Every wire type is in the list. -/
theorem mem_all (t : WireType) : t ∈ all := by
  cases t <;> decide

/-- The wire type with a given name. -/
def ofName? (s : String) : Option WireType :=
  all.find? fun t => t.name == s

end WireType

end LedgerClient
