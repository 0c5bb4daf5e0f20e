import LedgerClient.Text.Blank

/-!
# Membership service providers

The certificates that identify the members of an organization. Their TLS roots and
intermediates together make the bundle that connections to the organization's nodes trust.
-/

namespace LedgerClient

/-- The certificates of an organization, as text. -/
structure MspInfo where
  id : String := ""
  name : String := ""
  rootCerts : List String := []
  intermediateCerts : List String := []
  admins : List String := []
  revocationList : List String := []
  organizationalUnitIdentifiers : List String := []
  tlsRootCerts : List String := []
  tlsIntermediateCerts : List String := []
  deriving DecidableEq, Repr, Inhabited

/-- The TLS roots and intermediates, one behind the other, without trailing blanks. -/
def MspInfo.tlsCaBundle (m : MspInfo) : String :=
  "\n".intercalate ((m.tlsRootCerts ++ m.tlsIntermediateCerts).map Text.trimEnd)

end LedgerClient
