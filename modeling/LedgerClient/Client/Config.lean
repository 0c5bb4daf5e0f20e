import LedgerClient.Discovery.ChannelDiscovery
import LedgerClient.Event.Hub
import LedgerClient.Text.Toml.Document
import LedgerClient.Text.Utf8

/-!
# Client configuration

Limits and defaults for everything a client makes, read from a TOML document and then
overridden by environment variables. What is not given keeps its default, and unknown keys
are passed over. A section may also be written as a list of its values in order.

Overrides are applied one after the other. One that cannot be read stops the rest; those
before it stay applied.
-/

namespace LedgerClient

/-- What to log. -/
structure LoggingConfig where
  level : String := "info"
  json : Bool := false
  deriving DecidableEq, Repr, Inhabited

/-- The configuration of a client. -/
structure ClientConfig where
  endpoint : EndpointOptions := {}
  eventHub : EventHubConfig := {}
  discovery : DiscoveryConfig := {}
  logging : LoggingConfig := {}
  deriving DecidableEq, Repr, Inhabited

/-- Why a configuration could not be read. -/
inductive ConfigError where
  | io (path reason : String)
  | parse
  | invalidValue (key value : String)
  deriving DecidableEq, Repr

/-- The wording of an error. -/
def ConfigError.message : ConfigError → String
  | .io path reason => s!"Failed to read {path}: {reason}"
  | .parse => "Failed to parse config"
  | .invalidValue key value => s!"Invalid value for {key}: {value}"

/-! ### Reading sections -/

namespace Toml

/-- Reads an unsigned number. -/
def Value.nat? : Value → Option Nat
  | .integer (.ofNat n) => some n
  | _ => none

/-- Reads a truth value. -/
def Value.boolean? : Value → Option Bool
  | .boolean b => some b
  | _ => none

/-- Reads a text. -/
def Value.text? : Value → Option String
  | .text s => some s
  | _ => none

/-- Whether there is nothing in a list or table. -/
def Value.isVoid : Value → Bool
  | .list items => items.isEmpty
  | .table _ entries => entries.isEmpty
  | .tables elements => elements.isEmpty
  | _ => false

/-- Reads one of a set of words: as a text, or as the only key of a table, with nothing under
it. -/
def Value.word? {α : Type} (ofLabel? : String → Option α) : Value → Option α
  | .text s => ofLabel? s
  | .table _ [(key, v)] => if v.isVoid then ofLabel? key else none
  | _ => none

/-- What a section says about each of its keys, given in order. -/
def Value.section? (keys : List String) : Value → Option (String → Option Value)
  | .table _ entries => some fun key => Entries.get? key entries
  | .list items => some fun key => Entries.get? key (keys.zip items)
  | .tables elements => some fun key =>
    Entries.get? key (keys.zip (elements.map (.table .header)))
  | .moment => some fun _ => none
  | _ => none

/-- Reads the value under a key, if there is one. -/
def setting {α : Type} (look : String → Option Value) (key : String) (read : Value → Option α)
    (default : α) : Option α :=
  match look key with
  | none => some default
  | some v => read v

end Toml

namespace ClientConfig

open Toml

/-- Reads the limits of endpoints. -/
def readEndpoint (v : Value) : Option EndpointOptions := do
  let look ← v.section? ["connect_timeout", "request_timeout"]
  let base : EndpointOptions := {}
  return {
    connectTimeout := ← setting look "connect_timeout" Value.nat? base.connectTimeout
    requestTimeout := ← setting look "request_timeout" Value.nat? base.requestTimeout }

/-- Reads the defaults of event hubs. -/
def readEventHub (v : Value) : Option EventHubConfig := do
  let look ← v.section? ["default_block_type", "setup_timeout_ms"]
  let base : EventHubConfig := {}
  return {
    defaultBlockType :=
      ← setting look "default_block_type" (Value.word? BlockType.ofLabel?) base.defaultBlockType
    setupTimeout :=
      ← setting look "setup_timeout_ms" (fun v => v.nat?.map some) base.setupTimeout }

/-- Reads the defaults of discoveries. -/
def readDiscovery (v : Value) : Option DiscoveryConfig := do
  let look ← v.section? ["request_timeout_ms", "refresh_age_ms", "as_localhost", "protocol"]
  let base : DiscoveryConfig := {}
  return {
    requestTimeout :=
      ← setting look "request_timeout_ms" (fun v => v.nat?.map some) base.requestTimeout
    refreshAge := ← setting look "refresh_age_ms" Value.nat? base.refreshAge
    asLocalhost := ← setting look "as_localhost" Value.boolean? base.asLocalhost
    protocol :=
      ← setting look "protocol" (fun v => (v.word? Protocol.ofLabel?).map some) base.protocol }

/-- Reads what to log. -/
def readLogging (v : Value) : Option LoggingConfig := do
  let look ← v.section? ["level", "json"]
  let base : LoggingConfig := {}
  return {
    level := ← setting look "level" Value.text? base.level
    json := ← setting look "json" Value.boolean? base.json }

/-- Reads a configuration. -/
def read (v : Value) : Option ClientConfig := do
  let look ← v.section? ["endpoint", "event_hub", "discovery", "logging"]
  return {
    endpoint := ← setting look "endpoint" readEndpoint {}
    eventHub := ← setting look "event_hub" readEventHub {}
    discovery := ← setting look "discovery" readDiscovery {}
    logging := ← setting look "logging" readLogging {} }

/-- Reads a configuration document. -/
def parse (s : String) : Except ConfigError ClientConfig :=
  match (Toml.parse? s).bind read with
  | some config => .ok config
  | none => .error .parse

/-! ### Overriding -/

/-- The variable for the limit of requests. -/
def requestTimeoutKey : String := "FC_REQUEST_TIMEOUT_MS"

/-- The variable for reaching discovered nodes at `localhost`. -/
def asLocalhostKey : String := "FC_DISCOVERY_AS_LOCALHOST"

/-- The variable for the age at which discovery results are renewed. -/
def refreshAgeKey : String := "FC_DISCOVERY_REFRESH_AGE_MS"

/-- The variable for what to log. -/
def logKey : String := "FC_LOG"

/-- Reads a number for a variable. -/
def readNumber (key value : String) : Except ConfigError Nat :=
  match Decimal.parseU64? (Text.trim value) with
  | some n => .ok n.toNat
  | none => .error (.invalidValue key value)

/-- Reads a truth value for a variable. -/
def readSwitch (key value : String) : Except ConfigError Bool :=
  let word := Text.keyword value
  if word ∈ ["1", "true", "yes"] then .ok true
  else if word ∈ ["0", "false", "no"] then .ok false
  else .error (.invalidValue key value)

/-- The configuration with the value of a variable taken in. -/
abbrev Override := String → ClientConfig → Except ConfigError ClientConfig

/-- The variables in the order they are looked up, and what they change. -/
def overrides : List (String × Override) :=
  [(requestTimeoutKey, fun value c => do
      let requestTimeout ← readNumber requestTimeoutKey value
      return { c with endpoint := { c.endpoint with requestTimeout } }),
    (asLocalhostKey, fun value c => do
      let asLocalhost ← readSwitch asLocalhostKey value
      return { c with discovery := { c.discovery with asLocalhost } }),
    (refreshAgeKey, fun value c => do
      let refreshAge ← readNumber refreshAgeKey value
      return { c with discovery := { c.discovery with refreshAge } }),
    (logKey, fun value c =>
      if (Text.trim value).isEmpty then .ok c
      else .ok { c with logging := { c.logging with level := value } })]

/-- Applies overrides in order, up to the first that cannot be read. -/
def applyAll (lookup : String → Option String) :
    List (String × Override) → ClientConfig → Except ConfigError Unit × ClientConfig
  | [], c => (.ok (), c)
  | (key, change) :: rest, c =>
    match lookup key with
    | none => applyAll lookup rest c
    | some value =>
      match change value c with
      | .ok c => applyAll lookup rest c
      | .error e => (.error e, c)

/-- Applies the overrides of an environment. -/
def applyOverrides (lookup : String → Option String) (c : ClientConfig) :
    Except ConfigError Unit × ClientConfig :=
  applyAll lookup overrides c

/-- Reads the configuration in a file, of which `content` is what it holds if it exists, and
applies the overrides of an environment. -/
def load (path : String) (content : Option Bytes) (lookup : String → Option String) :
    Except ConfigError ClientConfig := do
  match content with
  | none => .error (.io path "No such file or directory (os error 2)")
  | some bytes =>
    match Utf8.decode bytes with
    | .error _ => .error (.io path "stream did not contain valid UTF-8")
    | .ok s => do
      let (applied, config) := (← parse s).applyOverrides lookup
      applied
      return config

end ClientConfig

end LedgerClient
