import LedgerClient.Node.Endpoint

/-!
# Links to services

A link is the client's side of one remote service: a name that never changes, the endpoint
it was last connected to, and the service client while it is connected. What the other
side does is given by a `Transport`, which tells for any state of the outside world what a
connection attempt, a readiness probe or a request brings, and what the world is like
afterwards. A side that never answers costs the time limit.

Connecting either installs the new client together with its endpoint, or leaves the link as
it was and closes a client that was handed out in vain.

## Main results

* `Link.connect_error`: a failed connect leaves the link as it was.
* `Link.connectionInfo_disconnect`: a disconnected link still shows its last url.
-/

namespace LedgerClient

/-- The kind of service at the other end of a link. -/
inductive ServiceKind where
  | endorser
  | broadcast
  | eventer
  | discovery
  deriving DecidableEq, Repr

/-- The word for the kind in answers. -/
def ServiceKind.label : ServiceKind → String
  | .endorser => "Endorser"
  | .broadcast => "Broadcast"
  | .eventer => "Eventer"
  | .discovery => "Discovery"

/-- What becomes of something that the other side is asked for. -/
inductive Reply (α : Type) where
  | ok (value : α)
  | fail (reason : String)
  /-- The other side never answers. -/
  | hang
  deriving DecidableEq, Repr

/-- What the outside world does for one kind of service: `σ` is the state of the world and
`γ` a client of such a service. -/
structure Transport (σ γ : Type) where
  dial : Endpoint → σ → Reply γ × σ
  ready : γ → σ → Reply Unit
  close : γ → σ → σ
  /-- Lets time pass, in milliseconds. -/
  elapse : Nat → σ → σ

/-- The client's side of one remote service. -/
structure Link (γ : Type) where
  name : String
  kind : ServiceKind
  mspid : Option String
  endpoint : Option Endpoint := none
  client : Option γ := none

namespace Link

variable {σ γ : Type}

/-- Whether a client is installed. -/
def isConnected (l : Link γ) : Bool := l.client.isSome

/-- Whether the last connection was encrypted. -/
def isTls (l : Link γ) : Bool :=
  l.endpoint.any Endpoint.isTls

/-- The details of the link as they would be at a given url. -/
def infoAt (l : Link γ) (url : String) : ConnectionInfo :=
  { name := l.name, url, mspid := l.mspid }

/-- The details of the link. -/
def connectionInfo (l : Link γ) : ConnectionInfo :=
  l.infoAt ((l.endpoint.map Endpoint.url).getD "")

/-- The limit for connecting and for readiness probes. -/
def connectTimeout (l : Link γ) : Nat :=
  ((l.endpoint.map Endpoint.options).getD {}).connectTimeout

/-- The limit for a request: its own, or else the endpoint's. -/
def requestTimeout (l : Link γ) (timeout : Option Nat) : Nat :=
  timeout.getD ((l.endpoint.map Endpoint.options).getD {}).requestTimeout

/-- Connects to an endpoint: dials, and waits until the service is ready. -/
def connect (t : Transport σ γ) (e : Endpoint) (l : Link γ) (s : σ) :
    Except ServiceError Unit × Link γ × σ :=
  let info := l.infoAt e.url
  let limit := e.options.connectTimeout
  if l.isConnected then (.error (.alreadyConnected info), l, s)
  else
    match t.dial e s with
    | (.fail reason, s) => (.error (.connectFailed info reason), l, s)
    | (.hang, s) => (.error (.timeout info .connect limit), l, t.elapse limit s)
    | (.ok client, s) =>
      match t.ready client s with
      | .ok () => (.ok (), { l with endpoint := some e, client := some client }, s)
      | .fail reason => (.error (.connectFailed info reason), l, t.close client s)
      | .hang =>
        (.error (.timeout info .waitForReady limit), l, t.close client (t.elapse limit s))

/-- A failed connect leaves the link as it was. -/
theorem connect_error {t : Transport σ γ} {e : Endpoint} {l l' : Link γ} {s s' : σ}
    {error : ServiceError} (h : l.connect t e s = (.error error, l', s')) : l' = l := by
  simp only [connect] at h
  split at h
  · simp_all
  · split at h
    · simp_all
    · simp_all
    · split at h <;> simp_all

/-- Closes the client, if there is one; the endpoint stays known. -/
def disconnect (t : Transport σ γ) (l : Link γ) (s : σ) : Link γ × σ :=
  match l.client with
  | some client => ({ l with client := none }, t.close client s)
  | none => (l, s)

/-- A disconnected link still shows its last url. -/
theorem connectionInfo_disconnect (t : Transport σ γ) (l : Link γ) (s : σ) :
    (l.disconnect t s).1.connectionInfo = l.connectionInfo := by
  unfold disconnect
  split <;> rfl

/-- Whether the service is connected and ready in time. -/
def check (t : Transport σ γ) (l : Link γ) (s : σ) : Bool × σ :=
  match l.client with
  | none => (false, s)
  | some client =>
    match t.ready client s with
    | .ok () => (true, s)
    | .fail _ => (false, s)
    | .hang => (false, t.elapse l.connectTimeout s)

/-- The client, or the error that there is none. -/
def service (l : Link γ) : Except ServiceError γ :=
  match l.client with
  | some client => .ok client
  | none => .error (.notConnected l.connectionInfo)

/-- Makes a request: the result, the time it took, and the world afterwards. Time has not
yet passed in that world, so that requests made at once can be made one by one. -/
def call {α : Type} (operation : Operation) (timeout : Option Nat)
    (request : γ → σ → Reply α × σ) (l : Link γ) (s : σ) :
    (Except ServiceError α × Nat) × σ :=
  match l.service with
  | .error e => ((.error e, 0), s)
  | .ok client =>
    match request client s with
    | (.ok value, s) => ((.ok value, 0), s)
    | (.fail reason, s) => ((.error (.transport l.connectionInfo operation reason), 0), s)
    | (.hang, s) =>
      let limit := l.requestTimeout timeout
      ((.error (.timeout l.connectionInfo operation limit), limit), s)

end Link

end LedgerClient
