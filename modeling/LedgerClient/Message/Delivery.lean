import LedgerClient.Message.Ledger
import LedgerClient.Text.Blank

/-!
# Broadcast and delivery

What a client sends to and receives from the ordering and the delivery service: the answer
to a broadcast transaction, the range of blocks a stream is asked for, and the messages of
the stream.
-/

namespace LedgerClient

/-- How much of each block a stream carries. -/
inductive BlockType where
  | full
  | filtered
  /-- Full blocks with their private data. -/
  | withPrivateData
  deriving DecidableEq, Repr

namespace BlockType

instance : Inhabited BlockType := ⟨.filtered⟩

/-- All block types, in the order of the wire format. -/
def all : List BlockType := [.full, .filtered, .withPrivateData]

/-- The name of the block type in configurations and answers. -/
def label : BlockType → String
  | .full => "full"
  | .filtered => "filtered"
  | .withPrivateData => "private"

/-- The block type with exactly the given name. -/
def ofLabel? (s : String) : Option BlockType :=
  all.find? fun t => t.label == s

/-- The block type a text spells, whatever its case and the white space around it; or the
keyword that is none. -/
def parse (s : String) : Except String BlockType :=
  match ofLabel? (Text.keyword s) with
  | some t => .ok t
  | none => .error s!"Invalid blockType: {Text.keyword s}"

def codec : Codec BlockType := .enumeration all

end BlockType

/-- Where a stream starts or stops, as the delivery service understands it. -/
inductive SeekPosition where
  | newest
  | oldest
  | specified (number : UInt64)
  deriving DecidableEq, Repr, Inhabited

namespace SeekPosition

def variants : List (Codec.Variant SeekPosition) :=
  [⟨fun () => .newest, fun | .newest => some () | _ => none, .unit⟩,
    ⟨fun () => .oldest, fun | .oldest => some () | _ => none, .unit⟩,
    ⟨.specified, fun | .specified n => some n | _ => none, .u64⟩]

def codec : Codec SeekPosition := .choice variants

end SeekPosition

/-- What the delivery service does when a block is not there yet. -/
inductive SeekBehavior where
  | blockUntilReady
  | failIfNotReady
  deriving DecidableEq, Repr, Inhabited

namespace SeekBehavior

def all : List SeekBehavior := [.blockUntilReady, .failIfNotReady]

def codec : Codec SeekBehavior := .enumeration all

end SeekBehavior

/-- The range of blocks a stream is asked for. -/
structure SeekInfo where
  start : SeekPosition
  stop : SeekPosition
  behavior : SeekBehavior
  deriving DecidableEq, Repr, Inhabited

def SeekInfo.codec : Codec SeekInfo :=
  (SeekPosition.codec.pair <| SeekPosition.codec.pair SeekBehavior.codec).iso
    (fun (start, stop, behavior) => ⟨start, stop, behavior⟩)
    (fun s => (s.start, s.stop, s.behavior))

/-- An orderer's answer to a broadcast transaction. -/
structure BroadcastResponse where
  status : Status
  info : String := ""
  deriving DecidableEq, Repr, Inhabited

def BroadcastResponse.codec : Codec BroadcastResponse :=
  (Status.codec.pair .text).iso (fun (status, info) => ⟨status, info⟩)
    (fun r => (r.status, r.info))

/-- One message of a stream of blocks. -/
inductive DeliverResponse where
  | status (status : Status)
  | block (block : Block)
  | filteredBlock (block : FilteredBlock)
  | blockAndPrivateData (block : Block) (privateData : PrivateDataMap)
  deriving DecidableEq, Repr, Inhabited

namespace DeliverResponse

def variants : List (Codec.Variant DeliverResponse) :=
  [⟨.status, fun | .status s => some s | _ => none, Status.codec⟩,
    ⟨.block, fun | .block b => some b | _ => none, Block.codec⟩,
    ⟨.filteredBlock, fun | .filteredBlock b => some b | _ => none, FilteredBlock.codec⟩,
    ⟨fun (b, d) => .blockAndPrivateData b d,
      fun | .blockAndPrivateData b d => some (b, d) | _ => none,
      Block.codec.pair PrivateDataMap.codec⟩]

def codec : Codec DeliverResponse := .choice variants

/-- The number of the block the message carries. -/
def blockNumber? : DeliverResponse → Option UInt64
  | .status _ => none
  | .block b => some b.header.number
  | .filteredBlock b => some b.number
  | .blockAndPrivateData b _ => some b.header.number

/-- What the message carries, as a word. -/
def label : DeliverResponse → String
  | .status _ => "status"
  | .block _ => "block"
  | .filteredBlock _ => "filtered_block"
  | .blockAndPrivateData _ _ => "private_data"

end DeliverResponse

end LedgerClient
