import LedgerClient.Event.Listener

/-!
# The listener registry

The registered listeners in the order of their handles. For each kind a flag tells whether
any listener of that kind is registered, so that dispatching a block can skip a kind that
nobody waits for. Registering sets the flag; every removal computes the flags anew.
-/

namespace LedgerClient

/-- Registered listeners. -/
structure Registry where
  /-- The number of the last handle that was given out. It is unbounded, where a counter of one
  word would run out after 2^64 registrations. -/
  lastId : Nat := 0
  entries : List (ListenerHandle × EventListener) := []
  hasBlock : Bool := false
  hasTx : Bool := false
  hasChaincode : Bool := false
  deriving DecidableEq, Repr, Inhabited

namespace Registry

/-- Whether the flag of a kind is set. -/
def has (r : Registry) : ListenerKind → Bool
  | .block => r.hasBlock
  | .tx => r.hasTx
  | .chaincode => r.hasChaincode

/-- Sets the flag of a kind. -/
def setFlag (r : Registry) : ListenerKind → Registry
  | .block => { r with hasBlock := true }
  | .tx => { r with hasTx := true }
  | .chaincode => { r with hasChaincode := true }

/-- Whether a listener of a kind is registered. -/
def anyOf (entries : List (ListenerHandle × EventListener)) (kind : ListenerKind) : Bool :=
  entries.any fun e => e.2.kind == kind

/-- The registry with other entries and the flags that belong to them. -/
def withEntries (r : Registry) (entries : List (ListenerHandle × EventListener)) : Registry :=
  { r with
    entries
    hasBlock := anyOf entries .block
    hasTx := anyOf entries .tx
    hasChaincode := anyOf entries .chaincode }

/-- Registers a listener under a fresh handle. -/
def insert (r : Registry) (l : EventListener) : ListenerHandle × Registry :=
  let handle : ListenerHandle := ⟨r.lastId + 1⟩
  (handle, { r with lastId := handle.id, entries := r.entries ++ [(handle, l)] }.setFlag l.kind)

/-- The listener under a handle. -/
def find? (r : Registry) (h : ListenerHandle) : Option EventListener :=
  (r.entries.find? fun e => e.1 == h).map Prod.snd

/-- Whether a handle is registered. -/
def contains (r : Registry) (h : ListenerHandle) : Bool :=
  (r.find? h).isSome

/-- Removes the listener under a handle, and tells whether there was one. -/
def remove (r : Registry) (h : ListenerHandle) : Bool × Registry :=
  if r.contains h then (true, r.withEntries (r.entries.filter fun e => e.1 != h))
  else (false, r)

/-- Removes the listeners under some handles. -/
def removeAll (r : Registry) (hs : List ListenerHandle) : Registry :=
  if hs.isEmpty then r else r.withEntries (r.entries.filter fun e => !hs.contains e.1)

/-- Removes all listeners, and returns their handles in order. -/
def drain (r : Registry) : List ListenerHandle × Registry :=
  (r.entries.map Prod.fst,
    { r with entries := [], hasBlock := false, hasTx := false, hasChaincode := false })

/-- The listeners of a kind. -/
def ofKind (r : Registry) (kind : ListenerKind) : List (ListenerHandle × EventListener) :=
  r.entries.filter fun e => e.2.kind == kind

/-- The number of listeners. -/
def size (r : Registry) : Nat := r.entries.length

end Registry

end LedgerClient
