import LedgerClient.Document.Basic
import LedgerClient.Node.Endpoint
import LedgerClient.Node.Msp

/-!
# Documents of nodes

Where nodes are and whom they belong to.
-/

namespace LedgerClient

instance : Form ConnectionInfo := .record <|
  ConnectionInfo.mk <$> field "name" (·.name) <*> field "url" (·.url) <*> field "mspid" (·.mspid)

instance : Form Protocol := .words [.grpc, .grpcs] Protocol.label (some .grpcs)

instance : Shown EndpointOptions where
  document o := .object [("connect_timeout_ms", shown o.connectTimeout),
    ("request_timeout_ms", shown o.requestTimeout)]

instance : Shown Endpoint where
  document e := .object [("protocol", shown e.protocol), ("host", shown e.host),
    ("port", shown e.port), ("url", shown e.url), ("addr", shown e.address),
    ("display", shown e.url), ("tls", shown e.isTls), ("tls_root_certs", shown e.tlsRootCerts),
    ("ssl_target", shown e.sslTarget), ("options", shown e.options)]

instance : Shown MspInfo where
  document m := .object [("id", shown m.id), ("name", shown m.name),
    ("root_certs", shown m.rootCerts), ("intermediate_certs", shown m.intermediateCerts),
    ("admins", shown m.admins), ("revocation_list", shown m.revocationList),
    ("organizational_unit_identifiers", shown m.organizationalUnitIdentifiers),
    ("tls_root_certs", shown m.tlsRootCerts),
    ("tls_intermediate_certs", shown m.tlsIntermediateCerts)]

end LedgerClient
