import Snakeskin.Library.WireFormat

/-! # Messages of `common.proto` and `configtx.proto`

The message types of the `common` package that the client builds or reads, with their field numbers.
A singular sub-message is an `Option`: it may be unset. Blocks have no codec: the gRPC stubs hand
them over parsed. -/

namespace Snakeskin

open Wire

/-- `google.protobuf.Timestamp`. -/
structure Timestamp where
  seconds : Int64 := 0
  nanos : Int32 := 0
  deriving DecidableEq

instance : MessageCodec Timestamp where
  toFields m := varintField 1 (encodeInt64 m.seconds) ++ varintField 2 (encodeInt32 m.nanos)
  ofFields fs := some ⟨decodeInt64 (getVarint 1 fs), decodeInt32 (getVarint 2 fs)⟩
  ofFields_toFields m := by simp [getVarint]

/-- `common.ChannelHeader`; `type` is one of the `HeaderType`s, or a number yet undeclared. -/
structure ChannelHeader where
  type : Int32 := 0
  version : Int32 := 0
  timestamp : Option Timestamp := none
  channelId : String := ""
  txId : String := ""
  epoch : UInt64 := 0
  extension : Bytes := []
  tlsCertHash : Bytes := []
  deriving DecidableEq

instance : MessageCodec ChannelHeader where
  toFields m :=
    varintField 1 (encodeInt32 m.type) ++ varintField 2 (encodeInt32 m.version) ++
    messageField 3 (m.timestamp.map encode) ++ bytesField 4 (encodeString m.channelId) ++
    bytesField 5 (encodeString m.txId) ++ varintField 6 m.epoch.toNat ++
    bytesField 7 m.extension ++ bytesField 8 m.tlsCertHash
  ofFields fs := do
    let timestamp ← decodeOptional Timestamp (getMessage 3 fs)
    let channelId ← decodeString (getBytes 4 fs)
    let txId ← decodeString (getBytes 5 fs)
    return {
      type := decodeInt32 (getVarint 1 fs), version := decodeInt32 (getVarint 2 fs), timestamp,
      channelId, txId, epoch := UInt64.ofNat (getVarint 6 fs), extension := getBytes 7 fs,
      tlsCertHash := getBytes 8 fs }
  ofFields_toFields m := by simp [getVarint, getBytes, getMessage]

/-- `common.SignatureHeader`. -/
structure SignatureHeader where
  creator : Bytes := []
  nonce : Bytes := []
  deriving DecidableEq, Repr

instance : MessageCodec SignatureHeader where
  toFields m := bytesField 1 m.creator ++ bytesField 2 m.nonce
  ofFields fs := some ⟨getBytes 1 fs, getBytes 2 fs⟩
  ofFields_toFields m := by simp [getBytes]

/-- `common.Header`: the two headers, serialised. -/
structure Header where
  channelHeader : Bytes := []
  signatureHeader : Bytes := []
  deriving DecidableEq, Repr

instance : MessageCodec Header where
  toFields m := bytesField 1 m.channelHeader ++ bytesField 2 m.signatureHeader
  ofFields fs := some ⟨getBytes 1 fs, getBytes 2 fs⟩
  ofFields_toFields m := by simp [getBytes]

/-- `common.Payload`. -/
structure Payload where
  header : Option Header := none
  data : Bytes := []
  deriving DecidableEq, Repr

instance : MessageCodec Payload where
  toFields m := messageField 1 (m.header.map encode) ++ bytesField 2 m.data
  ofFields fs := do
    let header ← decodeOptional Header (getMessage 1 fs)
    return ⟨header, getBytes 2 fs⟩
  ofFields_toFields m := by simp [getBytes, getMessage]

/-- `common.Envelope`. -/
structure Envelope where
  payload : Bytes := []
  signature : Bytes := []
  deriving DecidableEq, Repr

instance : MessageCodec Envelope where
  toFields m := bytesField 1 m.payload ++ bytesField 2 m.signature
  ofFields fs := some ⟨getBytes 1 fs, getBytes 2 fs⟩
  ofFields_toFields m := by simp [getBytes]

/-! ## Blocks -/

/-- `common.LastConfig`. -/
structure LastConfig where
  index : UInt64 := 0
  deriving DecidableEq

instance : MessageCodec LastConfig where
  toFields m := varintField 1 m.index.toNat
  ofFields fs := some ⟨UInt64.ofNat (getVarint 1 fs)⟩
  ofFields_toFields m := by simp [getVarint]

/-- `common.MetadataSignature`. -/
structure MetadataSignature where
  signatureHeader : Bytes := []
  signature : Bytes := []
  deriving DecidableEq, Repr

instance : MessageCodec MetadataSignature where
  toFields m := bytesField 1 m.signatureHeader ++ bytesField 2 m.signature
  ofFields fs := some ⟨getBytes 1 fs, getBytes 2 fs⟩
  ofFields_toFields m := by simp [getBytes]

/-- `common.Metadata`: what a slot of the block metadata encodes. -/
structure Metadata where
  value : Bytes := []
  signatures : List MetadataSignature := []
  deriving DecidableEq, Repr

instance : MessageCodec Metadata where
  toFields m := bytesField 1 m.value ++ repeatedField 2 (m.signatures.map encode)
  ofFields fs := do
    let signatures ← decodeAll MetadataSignature (allLen 2 fs)
    return ⟨getBytes 1 fs, signatures⟩
  ofFields_toFields m := by simp [getBytes]

/-- The slot `BlockMetadataIndex.SIGNATURES`. -/
def SIGNATURES : Nat := 0

/-- The slot `BlockMetadataIndex.LAST_CONFIG`. -/
def LAST_CONFIG : Nat := 1

/-- The slot `BlockMetadataIndex.TRANSACTIONS_FILTER`. -/
def TRANSACTIONS_FILTER : Nat := 2

/-- `common.BlockHeader`. -/
structure BlockHeader where
  number : UInt64 := 0
  previousHash : Bytes := []
  dataHash : Bytes := []
  deriving DecidableEq

instance : MessageCodec BlockHeader where
  toFields m :=
    varintField 1 m.number.toNat ++ bytesField 2 m.previousHash ++ bytesField 3 m.dataHash
  ofFields fs := some ⟨UInt64.ofNat (getVarint 1 fs), getBytes 2 fs, getBytes 3 fs⟩
  ofFields_toFields m := by simp [getVarint, getBytes]

/-- `common.BlockData`: the transactions, each a serialised envelope. -/
structure BlockData where
  data : List Bytes := []
  deriving DecidableEq, Repr

instance : MessageCodec BlockData where
  toFields m := repeatedField 1 m.data
  ofFields fs := some ⟨allLen 1 fs⟩
  ofFields_toFields m := by simp

/-- `common.BlockMetadata`: the slots. -/
structure BlockMetadata where
  metadata : List Bytes := []
  deriving DecidableEq, Repr

instance : MessageCodec BlockMetadata where
  toFields m := repeatedField 1 m.metadata
  ofFields fs := some ⟨allLen 1 fs⟩
  ofFields_toFields m := by simp

/-- `common.Block`; an unset sub-message reads as its default, so none is an `Option`. -/
structure BlockProto where
  header : BlockHeader := {}
  data : BlockData := {}
  metadata : BlockMetadata := {}
  deriving DecidableEq

instance : MessageCodec BlockProto where
  toFields m :=
    messageField 1 (some (encode m.header)) ++ messageField 2 (some (encode m.data)) ++
    messageField 3 (some (encode m.metadata))
  ofFields fs := do
    let header ← decodeOptional BlockHeader (getMessage 1 fs)
    let data ← decodeOptional BlockData (getMessage 2 fs)
    let metadata ← decodeOptional BlockMetadata (getMessage 3 fs)
    return ⟨header.getD {}, data.getD {}, metadata.getD {}⟩
  ofFields_toFields m := by
    have hmerged : ∀ bs, merged [bs] = some bs := fun bs => merged_toList (some bs)
    simp [getMessage, decodeOptional, hmerged]

/-! ## Config updates -/

/-- `common.ConfigSignature`. -/
structure ConfigSignature where
  signatureHeader : Bytes := []
  signature : Bytes := []
  deriving DecidableEq, Repr

instance : MessageCodec ConfigSignature where
  toFields m := bytesField 1 m.signatureHeader ++ bytesField 2 m.signature
  ofFields fs := some ⟨getBytes 1 fs, getBytes 2 fs⟩
  ofFields_toFields m := by simp [getBytes]

/-- `common.ConfigUpdateEnvelope`. -/
structure ConfigUpdateEnvelope where
  configUpdate : Bytes := []
  signatures : List ConfigSignature := []
  deriving DecidableEq, Repr

instance : MessageCodec ConfigUpdateEnvelope where
  toFields m := bytesField 1 m.configUpdate ++ repeatedField 2 (m.signatures.map encode)
  ofFields fs := do
    let signatures ← decodeAll ConfigSignature (allLen 2 fs)
    return ⟨getBytes 1 fs, signatures⟩
  ofFields_toFields m := by simp [getBytes]

end Snakeskin
