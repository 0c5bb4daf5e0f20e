import LedgerClient.Codec.Basic

/-!
# Validation codes

The verdict of the committing peers on a transaction. Blocks carry it as a number; the
label is its name in events.
-/

namespace LedgerClient

/-- Why a transaction counts or does not count. -/
inductive ValidationCode where
  | valid
  | nilEnvelope
  | badPayload
  | badCommonHeader
  | badCreatorSignature
  | invalidEndorserTransaction
  | invalidConfigTransaction
  | unsupportedTxPayload
  | badProposalTxid
  | duplicateTxid
  | endorsementPolicyFailure
  | mvccReadConflict
  | phantomReadConflict
  | unknownTxType
  | targetChainNotFound
  | marshalTxError
  | nilTxaction
  | expiredChaincode
  | chaincodeVersionConflict
  | badHeaderExtension
  | badChannelHeader
  | badResponsePayload
  | badRwset
  | illegalWriteset
  | invalidWriteset
  | invalidChaincode
  | notValidated
  | invalidOtherReason
  deriving DecidableEq, Repr, Inhabited

namespace ValidationCode

/-- Every verdict with its number and label, in ascending order of the numbers. -/
def table : List (ValidationCode × Int32 × String) :=
  [(.valid, 0, "VALID"),
    (.nilEnvelope, 1, "NIL_ENVELOPE"),
    (.badPayload, 2, "BAD_PAYLOAD"),
    (.badCommonHeader, 3, "BAD_COMMON_HEADER"),
    (.badCreatorSignature, 4, "BAD_CREATOR_SIGNATURE"),
    (.invalidEndorserTransaction, 5, "INVALID_ENDORSER_TRANSACTION"),
    (.invalidConfigTransaction, 6, "INVALID_CONFIG_TRANSACTION"),
    (.unsupportedTxPayload, 7, "UNSUPPORTED_TX_PAYLOAD"),
    (.badProposalTxid, 8, "BAD_PROPOSAL_TXID"),
    (.duplicateTxid, 9, "DUPLICATE_TXID"),
    (.endorsementPolicyFailure, 10, "ENDORSEMENT_POLICY_FAILURE"),
    (.mvccReadConflict, 11, "MVCC_READ_CONFLICT"),
    (.phantomReadConflict, 12, "PHANTOM_READ_CONFLICT"),
    (.unknownTxType, 13, "UNKNOWN_TX_TYPE"),
    (.targetChainNotFound, 14, "TARGET_CHAIN_NOT_FOUND"),
    (.marshalTxError, 15, "MARSHAL_TX_ERROR"),
    (.nilTxaction, 16, "NIL_TXACTION"),
    (.expiredChaincode, 17, "EXPIRED_CHAINCODE"),
    (.chaincodeVersionConflict, 18, "CHAINCODE_VERSION_CONFLICT"),
    (.badHeaderExtension, 19, "BAD_HEADER_EXTENSION"),
    (.badChannelHeader, 20, "BAD_CHANNEL_HEADER"),
    (.badResponsePayload, 21, "BAD_RESPONSE_PAYLOAD"),
    (.badRwset, 22, "BAD_RWSET"),
    (.illegalWriteset, 23, "ILLEGAL_WRITESET"),
    (.invalidWriteset, 24, "INVALID_WRITESET"),
    (.invalidChaincode, 25, "INVALID_CHAINCODE"),
    (.notValidated, 254, "NOT_VALIDATED"),
    (.invalidOtherReason, 255, "INVALID_OTHER_REASON")]

/-- All verdicts, in the order of the wire format. -/
def all : List ValidationCode :=
  table.map Prod.fst

/-- The number and label of a verdict. -/
def row (v : ValidationCode) : Int32 × String :=
  ((table.find? fun r => r.1 == v).map Prod.snd).getD (0, "")

/-- Every verdict has a row of its own in the table. -/
theorem row_mem_table (v : ValidationCode) : (v, v.row) ∈ table := by
  cases v <;> decide

/-- The number blocks carry for the verdict. -/
def code (v : ValidationCode) : Int32 := v.row.1

/-- The name of the verdict. -/
def label (v : ValidationCode) : String := v.row.2

/-- The verdict with a given number. -/
def ofCode? (n : Int32) : Option ValidationCode :=
  (table.find? fun r => r.2.1 == n).map Prod.fst

/-- The verdict with a given label, which must match to the letter. -/
def ofLabel? (s : String) : Option ValidationCode :=
  (table.find? fun r => r.2.2 == s).map Prod.fst

/-- The label for any number, known or not. -/
def labelOf (n : Int32) : String :=
  match ofCode? n with
  | some v => v.label
  | none => s!"UNKNOWN_CODE_{n.toInt}"

/-- Only `valid` lets a transaction count. -/
def isValid (v : ValidationCode) : Bool := v == .valid

def codec : Codec ValidationCode := .enumeration all

end ValidationCode

end LedgerClient
