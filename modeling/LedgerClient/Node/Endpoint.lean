import LedgerClient.Node.ServiceError
import LedgerClient.Text.Blank
import LedgerClient.Text.Decimal

/-!
# Endpoints

Where a service listens and how to reach it. An endpoint is written as
`protocol://host:port`. The first `://` ends the protocol and the last colon starts the
port, so a host may hold colons and slashes; it must not be empty.

The same split at the last colon reads the addresses that discovery advertises.
-/

namespace LedgerClient

/-- How a connection is made: in clear or with TLS. -/
inductive Protocol where
  | grpc
  | grpcs
  deriving DecidableEq, Repr

namespace Protocol

instance : Inhabited Protocol := ⟨.grpcs⟩

/-- The protocol as urls spell it. -/
def label : Protocol → String
  | .grpc => "grpc"
  | .grpcs => "grpcs"

/-- Whether the protocol encrypts. -/
def isTls : Protocol → Bool
  | .grpc => false
  | .grpcs => true

/-- The protocol with exactly the given name. -/
def ofLabel? : String → Option Protocol
  | "grpc" => some .grpc
  | "grpcs" => some .grpcs
  | _ => none

/-- The protocol a text spells, whatever its case and the white space around it. -/
def parse (s : String) : Except ServiceError Protocol :=
  match ofLabel? (Text.keyword s) with
  | some protocol => .ok protocol
  | none => .error (.invalidUrl s!"unknown protocol {Text.keyword s}")

end Protocol

/-- Limits in milliseconds. -/
structure EndpointOptions where
  /-- For connecting, and again for becoming ready. -/
  connectTimeout : Nat := 3000
  /-- For a request that brings no limit of its own. -/
  requestTimeout : Nat := 45000
  deriving DecidableEq, Repr, Inhabited

/-- Where a service listens, and how to trust and reach it. -/
structure Endpoint where
  protocol : Protocol
  host : String
  port : UInt16
  tlsRootCerts : Bytes := []
  /-- The host name to expect in the service's certificate, if not `host`. -/
  sslTarget : Option String := none
  options : EndpointOptions := {}
  deriving DecidableEq, Repr, Inhabited

/-- Splits a list at the last element that satisfies a condition, leaving it out. -/
def splitLast? {α : Type} (p : α → Bool) : List α → Option (List α × List α)
  | [] => none
  | a :: rest =>
    match splitLast? p rest with
    | some (before, after) => some (a :: before, after)
    | none => if p a then some ([], rest) else none

/-- Splits a text at the first occurrence of a separator, leaving it out. -/
def splitFirst? (separator : List Char) : List Char → Option (List Char × List Char)
  | [] => if separator.isEmpty then some ([], []) else none
  | c :: rest =>
    if separator.isPrefixOf (c :: rest) then
      some ([], (c :: rest).drop separator.length)
    else (splitFirst? separator rest).map fun (before, after) => (c :: before, after)

/-- The host and port of an address `host:port`, split at the last colon. -/
def splitAddress? (cs : List Char) : Option (String × UInt16) := do
  let (host, port) ← splitLast? (· == ':') cs
  if host.isEmpty then none
  else return (String.ofList host, ← Decimal.parseU16? (String.ofList port))

namespace Endpoint

/-- The endpoint as a url. -/
def url (e : Endpoint) : String :=
  s!"{e.protocol.label}://{e.host}:{e.port.toNat}"

/-- Host and port. -/
def address (e : Endpoint) : String :=
  s!"{e.host}:{e.port.toNat}"

/-- Whether connections are encrypted. -/
def isTls (e : Endpoint) : Bool := e.protocol.isTls

/-- Reads a url. A protocol that is not known is reported by its own name, every other
fault by the whole url. -/
def parse (url : String) : Except ServiceError Endpoint :=
  match splitFirst? [':', '/', '/'] url.toList with
  | none => .error (.invalidUrl url)
  | some (scheme, rest) => do
    let protocol ← Protocol.parse (String.ofList scheme)
    match splitAddress? rest with
    | some (host, port) => .ok { protocol, host, port }
    | none => .error (.invalidUrl url)

end Endpoint

end LedgerClient
