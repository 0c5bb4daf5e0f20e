import LedgerClient.Document.Wire
import LedgerClient.Proofs.Discovery.Commit
import LedgerClient.Proofs.Discovery.Duplicates
import LedgerClient.Proofs.Discovery.Endpoints
import LedgerClient.Proofs.Discovery.InStep
import LedgerClient.Proofs.Discovery.Preparation
import LedgerClient.Proofs.Discovery.Query
import LedgerClient.Proofs.Discovery.Reported
import LedgerClient.Proofs.Discovery.Spellings
import LedgerClient.Proofs.Discovery.Transaction
import LedgerClient.Proofs.Discovery.Turns
import LedgerClient.Proofs.Event.Callers
import LedgerClient.Proofs.Event.Filtered
import LedgerClient.Proofs.Event.Leaving
import LedgerClient.Proofs.Event.OpenStreams
import LedgerClient.Proofs.Event.Owed
import LedgerClient.Proofs.Event.Requested
import LedgerClient.Proofs.Event.Scan
import LedgerClient.Proofs.Ledger.Entries
import LedgerClient.Proofs.Ledger.Placed
import LedgerClient.Proofs.Message.Truncated
import LedgerClient.Proofs.Node.Reconnect
import LedgerClient.Proofs.Node.Url
import LedgerClient.Proofs.Request.Identified
import LedgerClient.Proofs.Request.Paired
import LedgerClient.Proofs.Request.Transient
import LedgerClient.Scenario.Run
