import LedgerClient.Codec.Basic

/-!
# Connection details

The name, address and organization of a node, as errors and results show them.
-/

namespace LedgerClient

/-- A node as errors and results show it; the url is empty before the first connection. -/
structure ConnectionInfo where
  name : String := ""
  url : String := ""
  mspid : Option String := none
  deriving DecidableEq, Repr, Inhabited

namespace ConnectionInfo

/-- The name, followed by the url in parentheses if there is one. -/
def label (c : ConnectionInfo) : String :=
  if c.url.isEmpty then c.name else s!"{c.name} ({c.url})"

def codec : Codec ConnectionInfo :=
  (Codec.text.pair <| Codec.text.pair <| .option .text).iso
    (fun (name, url, mspid) => ⟨name, url, mspid⟩)
    (fun c => (c.name, c.url, c.mspid))

end ConnectionInfo

end LedgerClient
