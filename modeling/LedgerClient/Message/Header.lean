import LedgerClient.Codec.Basic

/-!
# Headers and envelopes

The frame around every message that is signed: a channel header says what is sent and to
which channel, a signature header says who signs, a payload joins both to the data, and an
envelope adds the signature. Header and payload travel as encoded bytes inside the next
layer.
-/

namespace LedgerClient

/-- What the data of a payload is. -/
inductive HeaderType where
  | message
  | config
  | configUpdate
  | endorserTransaction
  | ordererTransaction
  | deliverSeekInfo
  | chaincodePackage
  deriving DecidableEq, Repr, Inhabited

namespace HeaderType

/-- All header types, in the order of their codes. -/
def all : List HeaderType :=
  [.message, .config, .configUpdate, .endorserTransaction, .ordererTransaction,
    .deliverSeekInfo, .chaincodePackage]

/-- The number a channel header carries for the type. -/
def code : HeaderType → Int32
  | .message => 0
  | .config => 1
  | .configUpdate => 2
  | .endorserTransaction => 3
  | .ordererTransaction => 4
  | .deliverSeekInfo => 5
  | .chaincodePackage => 6

/-- The type with a given number. -/
def ofCode? (n : Int32) : Option HeaderType :=
  all.find? fun t => t.code == n

/-- The name of the type in messages and answers. -/
def label : HeaderType → String
  | .message => "MESSAGE"
  | .config => "CONFIG"
  | .configUpdate => "CONFIG_UPDATE"
  | .endorserTransaction => "ENDORSER_TRANSACTION"
  | .ordererTransaction => "ORDERER_TRANSACTION"
  | .deliverSeekInfo => "DELIVER_SEEK_INFO"
  | .chaincodePackage => "CHAINCODE_PACKAGE"

def codec : Codec HeaderType := .enumeration all

end HeaderType

/-- The outcome a service reports for a request. -/
inductive Status where
  | unknown
  | success
  | badRequest
  | forbidden
  | notFound
  | requestEntityTooLarge
  | internalServerError
  | notImplemented
  | serviceUnavailable
  deriving DecidableEq, Repr, Inhabited

namespace Status

/-- All statuses, in the order of the wire format. -/
def all : List Status :=
  [.unknown, .success, .badRequest, .forbidden, .notFound, .requestEntityTooLarge,
    .internalServerError, .notImplemented, .serviceUnavailable]

/-- The number of the status. -/
def code : Status → Int32
  | .unknown => 0
  | .success => 200
  | .badRequest => 400
  | .forbidden => 403
  | .notFound => 404
  | .requestEntityTooLarge => 413
  | .internalServerError => 500
  | .notImplemented => 501
  | .serviceUnavailable => 503

/-- The name of the status in messages. -/
def label : Status → String
  | .unknown => "UNKNOWN"
  | .success => "SUCCESS"
  | .badRequest => "BAD_REQUEST"
  | .forbidden => "FORBIDDEN"
  | .notFound => "NOT_FOUND"
  | .requestEntityTooLarge => "REQUEST_ENTITY_TOO_LARGE"
  | .internalServerError => "INTERNAL_SERVER_ERROR"
  | .notImplemented => "NOT_IMPLEMENTED"
  | .serviceUnavailable => "SERVICE_UNAVAILABLE"

/-- Only `success` is a success. -/
def isSuccess (s : Status) : Bool := s == .success

def codec : Codec Status := .enumeration all

end Status

/-- A point in time: seconds and nanoseconds since the epoch. -/
structure Timestamp where
  seconds : Int64 := 0
  nanos : Int32 := 0
  deriving DecidableEq, Repr, Inhabited

def Timestamp.codec : Codec Timestamp :=
  (Codec.i64.pair .i32).iso (fun (seconds, nanos) => ⟨seconds, nanos⟩)
    (fun t => (t.seconds, t.nanos))

/-- What a payload is and which channel and transaction it belongs to. -/
structure ChannelHeader where
  headerType : Int32 := 0
  version : Int32 := 0
  timestamp : Option Timestamp := none
  channelId : String := ""
  txId : String := ""
  epoch : UInt64 := 0
  extension : Bytes := []
  tlsCertHash : Bytes := []
  deriving DecidableEq, Repr, Inhabited

namespace ChannelHeader

/-- The header type, if its number is known. -/
def kind? (h : ChannelHeader) : Option HeaderType :=
  HeaderType.ofCode? h.headerType

def codec : Codec ChannelHeader :=
  (Codec.i32.pair <| Codec.i32.pair <| (Codec.option Timestamp.codec).pair <|
    Codec.text.pair <| Codec.text.pair <| Codec.u64.pair <| Codec.bytes.pair .bytes).iso
    (fun (headerType, version, timestamp, channelId, txId, epoch, extension, tlsCertHash) =>
      ⟨headerType, version, timestamp, channelId, txId, epoch, extension, tlsCertHash⟩)
    (fun h => (h.headerType, h.version, h.timestamp, h.channelId, h.txId, h.epoch,
      h.extension, h.tlsCertHash))

end ChannelHeader

/-- Who signs a payload, and the random bytes that make it unique. -/
structure SignatureHeader where
  creator : Bytes := []
  nonce : Bytes := []
  deriving DecidableEq, Repr, Inhabited

def SignatureHeader.codec : Codec SignatureHeader :=
  (Codec.bytes.pair .bytes).iso (fun (creator, nonce) => ⟨creator, nonce⟩)
    (fun h => (h.creator, h.nonce))

/-- An encoded channel header and an encoded signature header. -/
structure Header where
  channelHeader : Bytes := []
  signatureHeader : Bytes := []
  deriving DecidableEq, Repr, Inhabited

def Header.codec : Codec Header :=
  (Codec.bytes.pair .bytes).iso (fun (channel, signature) => ⟨channel, signature⟩)
    (fun h => (h.channelHeader, h.signatureHeader))

/-- What gets signed: a header and data of the header's type. -/
structure Payload where
  header : Header := {}
  data : Bytes := []
  deriving DecidableEq, Repr, Inhabited

def Payload.codec : Codec Payload :=
  (Header.codec.pair .bytes).iso (fun (header, data) => ⟨header, data⟩)
    (fun p => (p.header, p.data))

/-- An encoded payload and its signature. -/
structure Envelope where
  payload : Bytes := []
  signature : Bytes := []
  deriving DecidableEq, Repr, Inhabited

def Envelope.codec : Codec Envelope :=
  (Codec.bytes.pair .bytes).iso (fun (payload, signature) => ⟨payload, signature⟩)
    (fun e => (e.payload, e.signature))

end LedgerClient
