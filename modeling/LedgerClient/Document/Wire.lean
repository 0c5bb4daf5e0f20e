import LedgerClient.Document.Delivery
import LedgerClient.Document.Discovery
import LedgerClient.Document.Node
import LedgerClient.Document.Proposal
import LedgerClient.Message.Wire

/-!
# Documents of wire types

Every type that travels between client and network can be shown and read.
-/

namespace LedgerClient

namespace WireType

/-- The form of a wire type. -/
instance form : (t : WireType) → Form t.Carrier
  | .timestamp => inferInstanceAs (Form Timestamp)
  | .channelHeader => inferInstanceAs (Form ChannelHeader)
  | .signatureHeader => inferInstanceAs (Form SignatureHeader)
  | .header => inferInstanceAs (Form Header)
  | .payload => inferInstanceAs (Form Payload)
  | .envelope => inferInstanceAs (Form Envelope)
  | .headerType => inferInstanceAs (Form HeaderType)
  | .status => inferInstanceAs (Form Status)
  | .blockHeader => inferInstanceAs (Form BlockHeader)
  | .blockData => inferInstanceAs (Form BlockData)
  | .blockMetadata => inferInstanceAs (Form BlockMetadata)
  | .block => inferInstanceAs (Form Block)
  | .chaincodeEvent => inferInstanceAs (Form ChaincodeEvent)
  | .filteredBlock => inferInstanceAs (Form FilteredBlock)
  | .filteredTransaction => inferInstanceAs (Form FilteredTransaction)
  | .filteredTransactionActions => inferInstanceAs (Form FilteredTransactionActions)
  | .filteredChaincodeAction => inferInstanceAs (Form FilteredChaincodeAction)
  | .collectionPvtReadWriteSet => inferInstanceAs (Form CollectionPvtReadWriteSet)
  | .nsPvtReadWriteSet => inferInstanceAs (Form NsPvtReadWriteSet)
  | .txPvtReadWriteSet => inferInstanceAs (Form TxPvtReadWriteSet)
  | .privateDataMap => inferInstanceAs (Form PrivateDataMap)
  | .chaincodeId => inferInstanceAs (Form ChaincodeId)
  | .chaincodeInput => inferInstanceAs (Form ChaincodeInput)
  | .chaincodeSpec => inferInstanceAs (Form ChaincodeSpec)
  | .chaincodeInvocationSpec => inferInstanceAs (Form ChaincodeInvocationSpec)
  | .chaincodeHeaderExtension => inferInstanceAs (Form ChaincodeHeaderExtension)
  | .chaincodeProposalPayload => inferInstanceAs (Form ChaincodeProposalPayload)
  | .chaincodeProposal => inferInstanceAs (Form ChaincodeProposal)
  | .signedProposal => inferInstanceAs (Form SignedProposal)
  | .response => inferInstanceAs (Form Response)
  | .endorsement => inferInstanceAs (Form Endorsement)
  | .proposalResponse => inferInstanceAs (Form ProposalResponse)
  | .proposalResponsePayload => inferInstanceAs (Form ProposalResponsePayload)
  | .chaincodeAction => inferInstanceAs (Form ChaincodeAction)
  | .chaincodeEndorsedAction => inferInstanceAs (Form ChaincodeEndorsedAction)
  | .chaincodeActionPayload => inferInstanceAs (Form ChaincodeActionPayload)
  | .transactionAction => inferInstanceAs (Form TransactionAction)
  | .transaction => inferInstanceAs (Form Transaction)
  | .blockType => inferInstanceAs (Form BlockType)
  | .seekPosition => inferInstanceAs (Form SeekPosition)
  | .seekBehavior => inferInstanceAs (Form SeekBehavior)
  | .seekInfo => inferInstanceAs (Form SeekInfo)
  | .broadcastResponse => inferInstanceAs (Form BroadcastResponse)
  | .deliverResponse => inferInstanceAs (Form DeliverResponse)
  | .serializedIdentity => inferInstanceAs (Form SerializedIdentity)
  | .organizationalUnitIdentifier => inferInstanceAs (Form OrganizationalUnitIdentifier)
  | .fabricMspConfig => inferInstanceAs (Form FabricMspConfig)
  | .mspConfig => inferInstanceAs (Form MspConfig)
  | .gossipEnvelope => inferInstanceAs (Form GossipEnvelope)
  | .gossipMessage => inferInstanceAs (Form GossipMessage)
  | .gossipContent => inferInstanceAs (Form GossipContent)
  | .member => inferInstanceAs (Form Member)
  | .aliveMessage => inferInstanceAs (Form AliveMessage)
  | .stateInfo => inferInstanceAs (Form StateInfo)
  | .properties => inferInstanceAs (Form Properties)
  | .installedChaincode => inferInstanceAs (Form InstalledChaincode)
  | .authInfo => inferInstanceAs (Form AuthInfo)
  | .chaincodeCall => inferInstanceAs (Form ChaincodeCall)
  | .chaincodeInterest => inferInstanceAs (Form ChaincodeInterest)
  | .queryKind => inferInstanceAs (Form QueryKind)
  | .query => inferInstanceAs (Form Query)
  | .discoveryRequest => inferInstanceAs (Form DiscoveryRequest)
  | .signedRequest => inferInstanceAs (Form SignedRequest)
  | .ordererEndpoint => inferInstanceAs (Form OrdererEndpoint)
  | .endpoints => inferInstanceAs (Form Endpoints)
  | .configResult => inferInstanceAs (Form ConfigResult)
  | .discoveryPeer => inferInstanceAs (Form DiscoveryPeer)
  | .peers => inferInstanceAs (Form Peers)
  | .peerMembershipResult => inferInstanceAs (Form PeerMembershipResult)
  | .layout => inferInstanceAs (Form Layout)
  | .endorsementDescriptor => inferInstanceAs (Form EndorsementDescriptor)
  | .chaincodeQueryResult => inferInstanceAs (Form ChaincodeQueryResult)
  | .queryResult => inferInstanceAs (Form QueryResult)
  | .discoveryResponse => inferInstanceAs (Form DiscoveryResponse)
  | .connectionInfo => inferInstanceAs (Form ConnectionInfo)
  | .blockNumber => inferInstanceAs (Form BlockNumber)
  | .blockPosition => inferInstanceAs (Form BlockPosition)
  | .validationCode => inferInstanceAs (Form ValidationCode)
  | .text => inferInstanceAs (Form String)
  | .bool => inferInstanceAs (Form Bool)
  | .u64 => inferInstanceAs (Form UInt64)
  | .u16 => inferInstanceAs (Form UInt16)
  | .i32 => inferInstanceAs (Form Int32)

end WireType

end LedgerClient
