import Snakeskin.Protos.Common

/-! # Messages of `ab.proto`

The seek request that opens a block stream, the responses of the stream, and the orderer's answer to
a broadcast. -/

namespace Snakeskin

open Wire

/-- `orderer.BroadcastResponse`; the status is one of `common.Status`, or a number yet
undeclared. -/
structure BroadcastResponse where
  status : Int32 := 0
  info : String := ""
  deriving DecidableEq, Repr

/-- `orderer.SeekSpecified`. -/
structure SeekSpecified where
  number : UInt64 := 0
  deriving DecidableEq

instance : MessageCodec SeekSpecified where
  toFields m := varintField 1 m.number.toNat
  ofFields fs := some ⟨UInt64.ofNat (getVarint 1 fs)⟩
  ofFields_toFields m := by simp [getVarint]

/-- `orderer.SeekPosition`, a `oneof`; `newest` and `oldest` are empty messages. -/
inductive SeekPosition where
  | unset
  | newest
  | oldest
  | specified (s : SeekSpecified)
  deriving DecidableEq

instance : MessageCodec SeekPosition where
  toFields
    | .unset => []
    | .newest => messageField 1 (some [])
    | .oldest => messageField 2 (some [])
    | .specified s => messageField 3 (some (encode s))
  ofFields fs := do
    match ← decodeOptional SeekSpecified (getMessage 3 fs) with
    | some s => return .specified s
    | none =>
        match getMessage 1 fs, getMessage 2 fs with
        | some _, _ => return .newest
        | none, some _ => return .oldest
        | none, none => return .unset
  ofFields_toFields m := by
    cases m <;> simp [getMessage, decodeOptional, merged]

/-- The number of `SeekInfo.SeekBehavior.BLOCK_UNTIL_READY`. -/
def SeekInfo.BLOCK_UNTIL_READY : Int32 := 0

/-- The number of `SeekInfo.SeekBehavior.FAIL_IF_NOT_READY`. -/
def SeekInfo.FAIL_IF_NOT_READY : Int32 := 1

/-- `orderer.SeekInfo`. -/
structure SeekInfo where
  start : Option SeekPosition := none
  stop : Option SeekPosition := none
  behavior : Int32 := 0
  deriving DecidableEq

instance : MessageCodec SeekInfo where
  toFields m :=
    messageField 1 (m.start.map encode) ++ messageField 2 (m.stop.map encode) ++
    varintField 3 (encodeInt32 m.behavior)
  ofFields fs := do
    let start ← decodeOptional SeekPosition (getMessage 1 fs)
    let stop ← decodeOptional SeekPosition (getMessage 2 fs)
    return ⟨start, stop, decodeInt32 (getVarint 3 fs)⟩
  ofFields_toFields m := by simp [getMessage, getVarint]

/-- `orderer.DeliverResponse`, a `oneof`. The peer's message of that name numbers the two members
alike, and a reader of whole blocks sees its third as neither. -/
inductive BlockDeliverResponse where
  | unset
  | status (s : Int32)
  | block (b : BlockProto)
  deriving DecidableEq

/-- `resp.status`: zero when another member is set. -/
def BlockDeliverResponse.getStatus : BlockDeliverResponse → Int32
  | .status s => s
  | _ => 0

/-- `resp.block`: the empty block when another member is set. -/
def BlockDeliverResponse.getBlock : BlockDeliverResponse → BlockProto
  | .block b => b
  | _ => {}

end Snakeskin
