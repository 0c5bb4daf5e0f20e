import LedgerClient.Document.Basic
import LedgerClient.Message.Header

/-!
# Documents of headers

Kinds of messages and outcomes are shown by their labels, with the words run together.
-/

namespace LedgerClient

instance : Form HeaderType := .words HeaderType.all (Form.camel ·.label) none

instance : Form Status := .words Status.all (Form.camel ·.label) none

instance : Form Timestamp := .record <|
  Timestamp.mk <$> field "seconds" (·.seconds) <*> field "nanos" (·.nanos)

instance : Form ChannelHeader := .record <|
  ChannelHeader.mk <$> field "header_type" (·.headerType) <*> field "version" (·.version)
    <*> field "timestamp" (·.timestamp) <*> field "channel_id" (·.channelId)
    <*> field "tx_id" (·.txId) <*> field "epoch" (·.epoch) <*> field "extension" (·.extension)
    <*> field "tls_cert_hash" (·.tlsCertHash)

instance : Form SignatureHeader := .record <|
  SignatureHeader.mk <$> field "creator" (·.creator) <*> field "nonce" (·.nonce)

instance : Form Header := .record <|
  Header.mk <$> field "channel_header" (·.channelHeader)
    <*> field "signature_header" (·.signatureHeader)

instance : Form Payload := .record <|
  Payload.mk <$> field "header" (·.header) <*> field "data" (·.data)

instance : Form Envelope := .record <|
  Envelope.mk <$> field "payload" (·.payload) <*> field "signature" (·.signature)

end LedgerClient
