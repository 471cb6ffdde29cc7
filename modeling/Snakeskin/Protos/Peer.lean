import Snakeskin.Protos.Common

/-! # Messages of the `peer` protos

The messages a transaction is made of, from the proposal to the endorsed action (`chaincode.proto`,
`proposal.proto`, `proposal_response.proto`, `transaction.proto`), and the filtered blocks that a
peer's event service streams (`events.proto`). Messages that the client only receives have no codec:
the gRPC stubs hand them over parsed. -/

namespace Snakeskin

open Wire

/-! ## Chaincode -/

/-- `protos.ChaincodeID`. -/
structure ChaincodeID where
  path : String := ""
  name : String := ""
  version : String := ""
  deriving DecidableEq

instance : MessageCodec ChaincodeID where
  toFields m :=
    bytesField 1 (encodeString m.path) ++ bytesField 2 (encodeString m.name) ++
    bytesField 3 (encodeString m.version)
  ofFields fs := do
    let path ← decodeString (getBytes 1 fs)
    let name ← decodeString (getBytes 2 fs)
    let version ← decodeString (getBytes 3 fs)
    return ⟨path, name, version⟩
  ofFields_toFields m := by simp [getBytes]

/-- `protos.ChaincodeInput`, without the decorations, which the client never sets. -/
structure ChaincodeInput where
  args : List Bytes := []
  deriving DecidableEq

instance : MessageCodec ChaincodeInput where
  toFields m := repeatedField 1 m.args
  ofFields fs := some ⟨allLen 1 fs⟩
  ofFields_toFields m := by simp

/-- The number of `ChaincodeSpec.Type.GOLANG`. -/
def ChaincodeSpecProto.GOLANG : Int32 := 1

/-- The number of `ChaincodeSpec.Type.NODE`. -/
def ChaincodeSpecProto.NODE : Int32 := 2

/-- The number of `ChaincodeSpec.Type.JAVA`. -/
def ChaincodeSpecProto.JAVA : Int32 := 4

/-- `protos.ChaincodeSpec`. -/
structure ChaincodeSpecProto where
  type : Int32 := 0
  chaincodeId : Option ChaincodeID := none
  input : Option ChaincodeInput := none
  timeout : Int32 := 0
  deriving DecidableEq

instance : MessageCodec ChaincodeSpecProto where
  toFields m :=
    varintField 1 (encodeInt32 m.type) ++ messageField 2 (m.chaincodeId.map encode) ++
    messageField 3 (m.input.map encode) ++ varintField 4 (encodeInt32 m.timeout)
  ofFields fs := do
    let chaincodeId ← decodeOptional ChaincodeID (getMessage 2 fs)
    let input ← decodeOptional ChaincodeInput (getMessage 3 fs)
    return ⟨decodeInt32 (getVarint 1 fs), chaincodeId, input, decodeInt32 (getVarint 4 fs)⟩
  ofFields_toFields m := by simp [getVarint, getMessage]

/-- `protos.ChaincodeInvocationSpec`. -/
structure ChaincodeInvocationSpec where
  chaincodeSpec : Option ChaincodeSpecProto := none
  deriving DecidableEq

instance : MessageCodec ChaincodeInvocationSpec where
  toFields m := messageField 1 (m.chaincodeSpec.map encode)
  ofFields fs := do
    let chaincodeSpec ← decodeOptional ChaincodeSpecProto (getMessage 1 fs)
    return ⟨chaincodeSpec⟩
  ofFields_toFields m := by simp [getMessage]

/-- `protos.ChaincodeDeploymentSpec`. -/
structure ChaincodeDeploymentSpec where
  chaincodeSpec : Option ChaincodeSpecProto := none
  codePackage : Bytes := []
  execEnv : Int32 := 0
  deriving DecidableEq

instance : MessageCodec ChaincodeDeploymentSpec where
  toFields m :=
    messageField 1 (m.chaincodeSpec.map encode) ++ bytesField 3 m.codePackage ++
    varintField 4 (encodeInt32 m.execEnv)
  ofFields fs := do
    let chaincodeSpec ← decodeOptional ChaincodeSpecProto (getMessage 1 fs)
    return ⟨chaincodeSpec, getBytes 3 fs, decodeInt32 (getVarint 4 fs)⟩
  ofFields_toFields m := by simp [getBytes, getVarint, getMessage]

/-! ## Queries -/

/-- `protos.ChaincodeInfo`. -/
structure ChaincodeInfo where
  name : String := ""
  version : String := ""
  path : String := ""
  input : String := ""
  escc : String := ""
  vscc : String := ""
  id : Bytes := []
  deriving DecidableEq

instance : MessageCodec ChaincodeInfo where
  toFields m :=
    bytesField 1 (encodeString m.name) ++ bytesField 2 (encodeString m.version) ++
    bytesField 3 (encodeString m.path) ++ bytesField 4 (encodeString m.input) ++
    bytesField 5 (encodeString m.escc) ++ bytesField 6 (encodeString m.vscc) ++ bytesField 7 m.id
  ofFields fs := do
    let name ← decodeString (getBytes 1 fs)
    let version ← decodeString (getBytes 2 fs)
    let path ← decodeString (getBytes 3 fs)
    let input ← decodeString (getBytes 4 fs)
    let escc ← decodeString (getBytes 5 fs)
    let vscc ← decodeString (getBytes 6 fs)
    return ⟨name, version, path, input, escc, vscc, getBytes 7 fs⟩
  ofFields_toFields m := by simp [getBytes]

/-- `protos.ChaincodeQueryResponse`. -/
structure ChaincodeQueryResponse where
  chaincodes : List ChaincodeInfo := []
  deriving DecidableEq

instance : MessageCodec ChaincodeQueryResponse where
  toFields m := repeatedField 1 (m.chaincodes.map encode)
  ofFields fs := do
    let chaincodes ← decodeAll ChaincodeInfo (allLen 1 fs)
    return ⟨chaincodes⟩
  ofFields_toFields m := by simp

/-! ## Proposals -/

/-- `protos.ChaincodeHeaderExtension`. -/
structure ChaincodeHeaderExtension where
  payloadVisibility : Bytes := []
  chaincodeId : Option ChaincodeID := none
  deriving DecidableEq

instance : MessageCodec ChaincodeHeaderExtension where
  toFields m := bytesField 1 m.payloadVisibility ++ messageField 2 (m.chaincodeId.map encode)
  ofFields fs := do
    let chaincodeId ← decodeOptional ChaincodeID (getMessage 2 fs)
    return ⟨getBytes 1 fs, chaincodeId⟩
  ofFields_toFields m := by simp [getBytes, getMessage]

/-- `protos.ChaincodeProposalPayload`. The contents of `transientMap` are supposed to be omitted
from the transaction and excluded from the ledger. -/
structure ChaincodeProposalPayload where
  input : Bytes := []
  transientMap : BytesMap := ∅
  deriving DecidableEq

instance : MessageCodec ChaincodeProposalPayload where
  toFields m := bytesField 1 m.input ++ repeatedField 2 (mapEntries m.transientMap)
  ofFields fs := do
    let transientMap ← decodeMap (allLen 2 fs)
    return ⟨getBytes 1 fs, transientMap⟩
  ofFields_toFields m := by simp [getBytes]

/-- `protos.Proposal`. -/
structure Proposal where
  header : Bytes := []
  payload : Bytes := []
  extension : Bytes := []
  deriving DecidableEq, Repr

instance : MessageCodec Proposal where
  toFields m := bytesField 1 m.header ++ bytesField 2 m.payload ++ bytesField 3 m.extension
  ofFields fs := some ⟨getBytes 1 fs, getBytes 2 fs, getBytes 3 fs⟩
  ofFields_toFields m := by simp [getBytes]

/-- `protos.SignedProposal`. -/
structure SignedProposal where
  proposalBytes : Bytes := []
  signature : Bytes := []
  deriving DecidableEq, Repr

/-! ## Proposal responses -/

/-- `protos.Response`; the status follows the HTTP status codes. -/
structure Response where
  status : Int32 := 0
  message : String := ""
  payload : Bytes := []
  deriving DecidableEq, Repr

/-- `protos.Endorsement`: an endorser and its signature over the response payload followed by the
endorser. -/
structure Endorsement where
  endorser : Bytes := []
  signature : Bytes := []
  deriving DecidableEq, Repr

instance : MessageCodec Endorsement where
  toFields m := bytesField 1 m.endorser ++ bytesField 2 m.signature
  ofFields fs := some ⟨getBytes 1 fs, getBytes 2 fs⟩
  ofFields_toFields m := by simp [getBytes]

/-- `protos.ProposalResponsePayload`: what an endorser signs. -/
structure ProposalResponsePayload where
  proposalHash : Bytes := []
  extension : Bytes := []
  deriving DecidableEq, Repr

instance : MessageCodec ProposalResponsePayload where
  toFields m := bytesField 1 m.proposalHash ++ bytesField 2 m.extension
  ofFields fs := some ⟨getBytes 1 fs, getBytes 2 fs⟩
  ofFields_toFields m := by simp [getBytes]

/-- `protos.ProposalResponse`; an unset sub-message reads as its default, so none is an `Option`. -/
structure ProposalResponse where
  version : Int32 := 0
  timestamp : Timestamp := {}
  response : Response := {}
  payload : Bytes := []
  endorsement : Endorsement := {}
  deriving DecidableEq

/-! ## Transactions -/

/-- `protos.ChaincodeEndorsedAction`: the response payload signed by the endorsers, and their
signatures over it. -/
structure ChaincodeEndorsedAction where
  proposalResponsePayload : Bytes := []
  endorsements : List Endorsement := []
  deriving DecidableEq, Repr

instance : MessageCodec ChaincodeEndorsedAction where
  toFields m :=
    bytesField 1 m.proposalResponsePayload ++ repeatedField 2 (m.endorsements.map encode)
  ofFields fs := do
    let endorsements ← decodeAll Endorsement (allLen 2 fs)
    return ⟨getBytes 1 fs, endorsements⟩
  ofFields_toFields m := by simp [getBytes]

/-- `protos.ChaincodeActionPayload`. -/
structure ChaincodeActionPayload where
  chaincodeProposalPayload : Bytes := []
  action : Option ChaincodeEndorsedAction := none
  deriving DecidableEq, Repr

instance : MessageCodec ChaincodeActionPayload where
  toFields m :=
    bytesField 1 m.chaincodeProposalPayload ++ messageField 2 (m.action.map encode)
  ofFields fs := do
    let action ← decodeOptional ChaincodeEndorsedAction (getMessage 2 fs)
    return ⟨getBytes 1 fs, action⟩
  ofFields_toFields m := by simp [getBytes, getMessage]

/-- `protos.TransactionAction`. -/
structure TransactionAction where
  header : Bytes := []
  payload : Bytes := []
  deriving DecidableEq, Repr

instance : MessageCodec TransactionAction where
  toFields m := bytesField 1 m.header ++ bytesField 2 m.payload
  ofFields fs := some ⟨getBytes 1 fs, getBytes 2 fs⟩
  ofFields_toFields m := by simp [getBytes]

/-- `protos.Transaction`. -/
structure Transaction where
  actions : List TransactionAction := []
  deriving DecidableEq, Repr

instance : MessageCodec Transaction where
  toFields m := repeatedField 1 (m.actions.map encode)
  ofFields fs := do
    let actions ← decodeAll TransactionAction (allLen 1 fs)
    return ⟨actions⟩
  ofFields_toFields m := by simp

/-! ## Filtered blocks -/

/-- `protos.ChaincodeEvent`. -/
structure ChaincodeEvent where
  chaincodeId : String := ""
  txId : String := ""
  eventName : String := ""
  payload : Bytes := []
  deriving DecidableEq, Repr

/-- `protos.FilteredTransactionActions`, each action being its chaincode event. -/
structure FilteredTransactionActions where
  chaincodeActions : List ChaincodeEvent := []
  deriving DecidableEq, Repr

/-- `protos.FilteredTransaction`; enumerations are open, so `type` and `txValidationCode` are any
numbers. -/
structure FilteredTXProto where
  txid : String := ""
  type : Int32 := 0
  txValidationCode : Int32 := 0
  transactionActions : FilteredTransactionActions := {}
  deriving DecidableEq, Repr

/-- `protos.FilteredBlock`. -/
structure FilteredBlockProto where
  channelId : String := ""
  number : UInt64 := 0
  filteredTransactions : List FilteredTXProto := []
  deriving DecidableEq

/-- `protos.DeliverResponse` of the filtered stream, a `oneof`. -/
inductive DeliverResponse where
  | unset
  | status (s : Int32)
  | filteredBlock (b : FilteredBlockProto)
  deriving DecidableEq

/-- `resp.status`: zero when another member is set. -/
def DeliverResponse.getStatus : DeliverResponse → Int32
  | .status s => s
  | _ => 0

/-- `resp.filtered_block`: the empty block when another member is set. -/
def DeliverResponse.getFilteredBlock : DeliverResponse → FilteredBlockProto
  | .filteredBlock b => b
  | _ => {}

end Snakeskin
