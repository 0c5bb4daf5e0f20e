import LedgerClient.Client.Config
import LedgerClient.Document.Node
import LedgerClient.Event.Error
import LedgerClient.Discovery.Error

/-!
# Answers and faults

An answer is an object: `ok` with a value, or `error` with the kind of the fault. A fault
has a wording, unless the wording is not meant to be relied on, and whatever else belongs
to its kind. The kind of a fault that another one caused has the names of both.
-/

namespace LedgerClient

/-- A fault as answers show it. -/
structure Fault where
  kind : String
  message : Option String
  more : List (String × Document) := []

namespace Fault

/-- A fault that was the cause of another one. -/
def under (word : String) (f : Fault) : Fault :=
  { f with kind := s!"{word}/{f.kind}" }

/-- The names of the faults in the way of keys and signatures. -/
def cryptoKind : CryptoError → String
  | .invalidKeyLength _ _ => "InvalidKeyLength"
  | .verificationFailed => "SignatureVerificationFailed"
  | .invalidPublicKey => "InvalidPublicKey"
  | .invalidPrivateKey => "InvalidPrivateKey"
  | .invalidSignature => "InvalidSignature"
  | .invalidIdentity _ => "InvalidIdentity"
  | .missingMspId => "MissingMspId"

/-- The names of the faults in the way of nodes. -/
def serviceKind : ServiceError → String
  | .missingParameter _ => "MissingParameter"
  | .invalidUrl _ => "InvalidUrl"
  | .alreadyConnected _ => "AlreadyConnected"
  | .notConnected _ => "NotConnected"
  | .connectFailed _ _ => "ConnectFailed"
  | .timeout _ _ _ => "Timeout"
  | .transport _ _ _ => "Transport"
  | .remote _ _ _ => "Remote"
  | .duplicate _ _ => "Duplicate"

end Fault

instance : Shown Fault where
  document f := .object <|
    [("error", shown f.kind)] ++ (f.message.toList.map fun m => ("message", shown m)) ++ f.more

/-- A type of errors that answers can show. -/
class Faulty (ε : Type) where
  fault : ε → Fault

/-- The document of an error. -/
def shownFault {ε : Type} [Faulty ε] (e : ε) : Document :=
  shown (Faulty.fault e)

instance : Faulty Fault := ⟨id⟩

instance : Faulty String := ⟨fun s => ⟨"String", some s, []⟩⟩

instance : Faulty BlockNumberError := ⟨fun e => ⟨"ParseBlockError", some e.message, []⟩⟩

instance : Faulty DecodeError := ⟨fun e => ⟨"Decode", some e.message, []⟩⟩

instance : Faulty CryptoError := ⟨fun e => ⟨Fault.cryptoKind e, some e.message, []⟩⟩

instance : Faulty ServiceError where
  fault e := ⟨Fault.serviceKind e, some e.message,
    [("connection", shown e.connection?), ("is_timeout", shown e.isTimeout)]⟩

instance : Shown PeerFailure where
  document f := .object [("peer", shown f.peer), ("error", shownFault f.error)]

instance : Faulty ActionError where
  fault e :=
    let message := some e.message
    match e with
    | .service e => (Faulty.fault e).under "Service"
    | .wire e => (Faulty.fault e).under "Wire"
    | .crypto e => (Faulty.fault e).under "Crypto"
    | .missingParameter _ => ⟨"MissingParameter", message, []⟩
    | .notBuilt _ => ⟨"NotBuilt", message, []⟩
    | .notSigned _ => ⟨"NotSigned", message, []⟩
    | .noEndorsements => ⟨"NoEndorsements", message, []⟩
    | .endorsementFailed _ failures => ⟨"EndorsementFailed", message, [("failures", shown failures)]⟩
    | .discovery _ => ⟨"Discovery", message, []⟩

instance : Faulty DiscoveryError where
  fault e :=
    let message := some e.message
    match e with
    | .action e => (Faulty.fault e).under "Action"
    | .service e => (Faulty.fault e).under "Service"
    | .wire e => (Faulty.fault e).under "Wire"
    | .missingParameter _ => ⟨"MissingParameter", message, []⟩
    | .noResults => ⟨"NoResults", message, []⟩
    | .remote _ => ⟨"Remote", message, []⟩
    | .invalidLayouts => ⟨"InvalidLayouts", message, []⟩
    | .invalidPeer _ _ => ⟨"InvalidPeer", message, []⟩

instance : Faulty EventHubError where
  fault e :=
    let message := some e.message
    match e with
    | .action e => (Faulty.fault e).under "Action"
    | .service e => (Faulty.fault e).under "Service"
    | .wire e => (Faulty.fault e).under "Wire"
    | .missingParameter _ => ⟨"MissingParameter", message, []⟩
    | .invalidRange _ _ => ⟨"InvalidRange", message, []⟩
    | .invalidPattern _ => ⟨"InvalidPattern", none, []⟩

instance : Faulty ConfigError where
  fault e :=
    match e with
    | .io _ _ => ⟨"Io", some e.message, []⟩
    | .parse => ⟨"Parse", none, []⟩
    | .invalidValue _ _ => ⟨"InvalidValue", some e.message, []⟩

namespace Document

/-- The answer that holds a value. -/
def ok (d : Document) : Document :=
  .object [("ok", d)]

/-- The answer to what cannot be understood. -/
def badInput : Document :=
  .object [("error", .text "BadInput")]

/-- The answer for a result. -/
def answer {ε : Type} [Faulty ε] : Except ε Document → Document
  | .ok d => .ok d
  | .error e => shownFault e

/-- A value, or the fault in its place. -/
def inPlace {ε : Type} [Faulty ε] : Except ε Document → Document
  | .ok d => d
  | .error e => shownFault e

/-- That something was done, or the fault in its way. -/
def done {ε : Type} [Faulty ε] : Except ε Unit → Document
  | .ok () => .bool true
  | .error e => shownFault e

end Document

end LedgerClient
