import Snakeskin.Block
import Snakeskin.Protos.Configtx
import Snakeskin.Runtime

/-! # Decoded blocks

The model classes of `models/_decoded.py`, which store a block with everything in it deserialised,
and their decoders. A message that is unset in its parent reads as its default. -/

namespace Snakeskin

open Wire

variable (rt : Runtime)

/-- `Message.FromString(data)`: data that do not parse raise. -/
def Runtime.parse (α : Type) [MessageCodec α] (data : Bytes) : Except Exc α :=
  match rt.fromString α data with
  | some m => .ok m
  | none => .error .decodeError

/-- `sequence[index]`. -/
def itemAt {α : Type} (items : List α) (index : Nat) : Except Exc α :=
  match items[index]? with
  | some item => .ok item
  | none => .error (.indexError "list index out of range")

/-! ## Headers -/

/-- Decoded signature header. -/
structure DecodedSignatureHeader where
  creator : SerializedIdentity
  nonce : Bytes
  deriving DecidableEq

/-- Decodes from bytes. -/
def DecodedSignatureHeader.decode (headerBytes : Bytes) : Except Exc DecodedSignatureHeader := do
  let signatureHeader ← rt.parse SignatureHeader headerBytes
  let creator ← rt.parse SerializedIdentity signatureHeader.creator
  return { creator, nonce := signatureHeader.nonce }

/-- Decoded header. -/
structure DecodedHeader where
  channelHeader : ChannelHeader
  signatureHeader : DecodedSignatureHeader
  deriving DecidableEq

/-- Decodes from the protobuf. -/
def DecodedHeader.decode (header : Header) : Except Exc DecodedHeader := do
  let channelHeader ← rt.parse ChannelHeader header.channelHeader
  let signatureHeader ← DecodedSignatureHeader.decode rt header.signatureHeader
  return { channelHeader, signatureHeader }

/-! ## Config updates -/

/-- Decoded config signature. -/
structure DecodedConfigUpdateSignature where
  signatureHeader : DecodedSignatureHeader
  signature : Bytes
  deriving DecidableEq

/-- The decoding of one signature of a config update. -/
def DecodedConfigUpdateSignature.decode (s : ConfigSignature) :
    Except Exc DecodedConfigUpdateSignature := do
  let signatureHeader ← DecodedSignatureHeader.decode rt s.signatureHeader
  return { signatureHeader, signature := s.signature }

/-- Decoded config update envelope. -/
structure DecodedConfigUpdateEnvelope where
  configUpdate : ConfigUpdate
  signatures : List DecodedConfigUpdateSignature

/-- Decodes from bytes. -/
def DecodedConfigUpdateEnvelope.decode (configUpdateBytes : Bytes) :
    Except Exc DecodedConfigUpdateEnvelope := do
  let envelope ← rt.parse ConfigUpdateEnvelope configUpdateBytes
  let configUpdate ← rt.parse ConfigUpdate envelope.configUpdate
  let signatures ← envelope.signatures.mapM (DecodedConfigUpdateSignature.decode rt)
  return { configUpdate, signatures }

/-! ## Configs -/

/-- Decoded payload of the last update of a config. -/
structure DecodedConfigLastUpdate where
  header : DecodedHeader
  data : DecodedConfigUpdateEnvelope

/-- Decoded envelope of the last update of a config. -/
structure DecodedConfigLastUpdateEnvelope where
  payload : DecodedConfigLastUpdate
  signature : Bytes

/-- Decoded config. -/
structure DecodedConfig where
  config : Config
  lastUpdate : DecodedConfigLastUpdateEnvelope

/-- Decodes from bytes. -/
def DecodedConfig.decode (configBytes : Bytes) : Except Exc DecodedConfig := do
  let configEnv ← rt.parse ConfigEnvelope configBytes
  let lastUpdate := configEnv.lastUpdate.getD {}
  let lastUpdatePayload ← rt.parse Payload lastUpdate.payload
  let header ← DecodedHeader.decode rt (lastUpdatePayload.header.getD {})
  let data ← DecodedConfigUpdateEnvelope.decode rt lastUpdatePayload.data
  return {
    config := configEnv.config.getD {}
    lastUpdate := { payload := { header, data }, signature := lastUpdate.signature } }

/-! ## Transaction bodies -/

/-- Decoded endorsement. -/
structure DecodedEndorsement where
  endorser : SerializedIdentity
  signature : Bytes
  deriving DecidableEq

/-- The decoding of one endorsement of an action. -/
def DecodedEndorsement.decode (e : Endorsement) : Except Exc DecodedEndorsement := do
  let endorser ← rt.parse SerializedIdentity e.endorser
  return { endorser, signature := e.signature }

/-- Decoded endorsed action. -/
structure DecodedChaincodeEndorsedAction where
  proposalResponsePayload : ProposalResponsePayload
  endorsements : List DecodedEndorsement
  deriving DecidableEq

/-- Decoded action payload. -/
structure DecodedChaincodeActionPayload where
  action : DecodedChaincodeEndorsedAction
  chaincodeProposalPayload : ChaincodeProposalPayload
  deriving DecidableEq

/-- Decoded transaction action. -/
structure DecodedTransactionAction where
  header : DecodedSignatureHeader
  payload : DecodedChaincodeActionPayload
  deriving DecidableEq

/-- Decodes from the protobuf of an action. -/
def DecodedTransactionAction.decode (action : TransactionAction) :
    Except Exc DecodedTransactionAction := do
  let payload ← rt.parse ChaincodeActionPayload action.payload
  let header ← DecodedSignatureHeader.decode rt action.header
  let endorsedAction := payload.action.getD {}
  let proposalResponsePayload ←
    rt.parse ProposalResponsePayload endorsedAction.proposalResponsePayload
  let endorsements ← endorsedAction.endorsements.mapM (DecodedEndorsement.decode rt)
  let chaincodeProposalPayload ← rt.parse ChaincodeProposalPayload payload.chaincodeProposalPayload
  return {
    header
    payload := { action := { proposalResponsePayload, endorsements }, chaincodeProposalPayload } }

/-- Decoded transaction. -/
structure DecodedTransactionBody where
  actions : List DecodedTransactionAction
  deriving DecidableEq

/-- Decodes from bytes. -/
def DecodedTransactionBody.decode (txBytes : Bytes) : Except Exc DecodedTransactionBody := do
  let transaction ← rt.parse Transaction txBytes
  let actions ← transaction.actions.mapM (DecodedTransactionAction.decode rt)
  return { actions }

/-! ## Transactions -/

/-- Decoded payload data: its kind goes by the type in the channel header. -/
inductive DecodedPayloadData where
  | config (config : DecodedConfig)
  | configUpdate (envelope : DecodedConfigUpdateEnvelope)
  | transaction (body : DecodedTransactionBody)
  | bytes (data : Bytes)

/-- Decoded payload. -/
structure DecodedPayload where
  header : DecodedHeader
  data : DecodedPayloadData

/-- Decoded envelope of the block data. -/
structure DecodedTX where
  signature : Bytes
  payload : DecodedPayload

/-- The unique identifier for this transaction. -/
def DecodedTX.txId (tx : DecodedTX) : String := tx.payload.header.channelHeader.txId

/-- The decoding of payload data by the type of the transaction. -/
def DecodedPayloadData.decode (payloadType : TransactionType) (data : Bytes) :
    Except Exc DecodedPayloadData :=
  match payloadType with
  | .config => do return .config (← DecodedConfig.decode rt data)
  | .configUpdate => do return .configUpdate (← DecodedConfigUpdateEnvelope.decode rt data)
  | .endorserTransaction => do return .transaction (← DecodedTransactionBody.decode rt data)
  | _ => return .bytes data

/-- `TransactionType(value)`: a number that is not declared raises. -/
def TransactionType.ofValue (n : Int32) : Except Exc TransactionType :=
  match ofValue? n with
  | some type => .ok type
  | none => .error (notValid n)

/-- The number of a type is that of the type. -/
@[simp] theorem TransactionType.ofValue_value (t : TransactionType) : ofValue t.value = .ok t := by
  rw [ofValue, ofValue?_value]

/-- Decode from envelope bytes. -/
def DecodedTX.decode (envelopeBytes : Bytes) : Except Exc DecodedTX := do
  let envelope ← rt.parse Envelope envelopeBytes
  let payload ← rt.parse Payload envelope.payload
  let header ← DecodedHeader.decode rt (payload.header.getD {})
  let payloadType ← TransactionType.ofValue header.channelHeader.type
  let data ← DecodedPayloadData.decode rt payloadType payload.data
  return { signature := envelope.signature, payload := { header, data } }

/-! ## Blocks -/

/-- Decoded signature of the block metadata. -/
structure DecodedMetadataSignature where
  signatures : Bytes
  signatureHeader : DecodedSignatureHeader
  deriving DecidableEq

/-- The decoding of one signature of the block metadata. -/
def DecodedMetadataSignature.decode (s : MetadataSignature) : Except Exc DecodedMetadataSignature := do
  let signatureHeader ← DecodedSignatureHeader.decode rt s.signatureHeader
  return { signatures := s.signature, signatureHeader }

/-- Decoded metadata. -/
structure DecodedMetadata where
  signatures : List DecodedMetadataSignature
  value : Bytes
  deriving DecidableEq

/-- Decoded last config metadata. -/
structure DecodedLastConfigMetadata where
  signatures : List DecodedMetadataSignature
  value : LastConfig
  deriving DecidableEq

/-- Decoded block metadata: the signatures, the last config, and the transactions filter, which is a
list of numbers below 256. -/
structure DecodedBlockMetadata where
  signatures : DecodedMetadata
  lastConfig : DecodedLastConfigMetadata
  transactionsFilter : List UInt8
  deriving DecidableEq

/-- Decodes the slots of the block metadata. -/
def DecodedBlockMetadata.decode (metadataList : List Bytes) : Except Exc DecodedBlockMetadata := do
  let lastConfigMeta ← rt.parse Metadata (← itemAt metadataList LAST_CONFIG)
  let lastConfig ← rt.parse LastConfig lastConfigMeta.value
  let sigMetadata ← rt.parse Metadata (← itemAt metadataList SIGNATURES)
  let signatures ← sigMetadata.signatures.mapM (DecodedMetadataSignature.decode rt)
  let lastConfigSignatures ← lastConfigMeta.signatures.mapM (DecodedMetadataSignature.decode rt)
  let transactionsFilter ← itemAt metadataList TRANSACTIONS_FILTER
  return {
    signatures := { value := sigMetadata.value, signatures }
    lastConfig := { value := lastConfig, signatures := lastConfigSignatures }
    transactionsFilter }

/-- A block, decoded into a normalised data structure. -/
structure DecodedBlock where
  header : BlockHeader
  data : List DecodedTX
  metadata : DecodedBlockMetadata

/-- A list of transactions in this block. -/
def DecodedBlock.transactions (block : DecodedBlock) : List DecodedTX := block.data

/-- Decodes from a raw block. -/
def DecodedBlock.decode (rawBlock : RawBlock) : Except Exc DecodedBlock := do
  let data ← rawBlock.data.data.mapM (DecodedTX.decode rt)
  let metadata ← DecodedBlockMetadata.decode rt rawBlock.metadata.metadata
  return { header := rawBlock.header, data, metadata }

end Snakeskin
