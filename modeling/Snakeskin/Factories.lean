import Snakeskin.Encoding
import Snakeskin.Runtime

/-! # Protobuf factory functions

The builders of `factories.py`: headers, envelopes, seek requests, generated transactions and the
envelopes in which endorsed transactions and config updates go to the orderer. What a builder draws
from outside — a nonce, the current time — is an argument; what it may raise is in its result. -/

namespace Snakeskin

open Wire

/-- An optional byte string that Python takes as false when it is missing or empty. -/
def given (b : Option Bytes) : Option Bytes := b.filter (· ≠ [])

/-- Encodes a proto string into latin1 bytes. -/
def encodeProtoBytes (val : String) : Except Exc Bytes := encodeLatin1 val

/-- Ensures a proto string is in utf-8 encoding. -/
def encodeProtoStr (val : String) : Except Exc String := do
  let bytes ← encodeProtoBytes val
  decodeUtf8 bytes

/-- Pulls the base64 decoded DER from a PEM file: the lines but the first and the last two. -/
def pemToDer (pem : Bytes) : Except Exc Bytes :=
  let arr := splitLines pem
  let der := ((arr.take (arr.length - 2)).drop 1).flatten
  b64decode der

variable (rt : Runtime)

/-- Creates a transaction context from a user, with the nonce that was drawn for it. -/
def txContextFromUser (user : User) (nonce : Bytes) : TXContext :=
  let identity : SerializedIdentity := { mspid := user.mspId, idBytes := user.cert }
  { identity, nonce,
    txId := hexdigest (user.cryptoSuite.hash (nonce ++ rt.serializeToString identity)) }

/-- Signs a payload using the user's private key. -/
def sign (user : User) (payload : Bytes) : Bytes := user.cryptoSuite.sign user.privateKey payload

/-- Wraps a transaction payload in an envelope. -/
def wrapTransaction (user : User) (payload : Payload) : Envelope :=
  let payloadBytes := rt.serializeToString payload
  { signature := sign user payloadBytes, payload := payloadBytes }

/-- The hash of a TLS certificate, for the channel header; the field keeps its default without
one. -/
def buildTlsCertHash (tlsCert : Option Bytes) : Except Exc Bytes :=
  match given tlsCert with
  | none => .ok []
  | some cert => do
      let b64der ← pemToDer cert
      return rt.sha256 b64der

/-- Builds a transaction header at the given time. -/
def buildHeader (txContext : TXContext) (channel : Option Channel) (extension : Option Bytes)
    (txType : TransactionType) (tlsCert : Option Bytes) (timestamp : Timestamp) :
    Except Exc Header := do
  let channelId ← encodeProtoStr ((channel.map (·.name)).getD "")
  let tlsCertHash ← buildTlsCertHash rt tlsCert
  let channelHeader : ChannelHeader := {
    type := txType.value, version := 1, txId := txContext.txId, channelId
    epoch := txContext.epoch, timestamp := some timestamp, tlsCertHash
    extension := (given extension).getD [] }
  let signatureHeader : SignatureHeader := {
    creator := rt.serializeToString txContext.identity, nonce := txContext.nonce }
  return {
    channelHeader := rt.serializeToString channelHeader
    signatureHeader := rt.serializeToString signatureHeader }

/-- Builds an envelope for sending to a peer or an orderer. -/
def buildEnvelope (requestor : User) (txContext : TXContext) (data : Bytes)
    (channel : Option Channel) (tlsCert extension : Option Bytes) (txType : TransactionType)
    (timestamp : Timestamp) : Except Exc Envelope := do
  let header ← buildHeader rt txContext channel extension txType tlsCert timestamp
  let payload : Payload := { header := some header, data }
  return wrapTransaction rt requestor payload

/-- Setting a `uint64` field of a message: a number out of range is refused. -/
def uint64Field (n : Int) : Except Exc UInt64 :=
  if 0 ≤ n ∧ n < 2 ^ 64 then .ok (UInt64.ofNat n.toNat)
  else .error (.valueError "Value out of range")

/-- One end of a seek request: the newest block when there is no number. -/
def buildSeekPosition (number : Option Int) : Except Exc SeekPosition :=
  match number with
  | none => .ok .newest
  | some n => do return .specified { number := ← uint64Field n }

/-- `SeekInfo.SeekBehavior.Value(behavior.value)`. -/
def SeekBehavior.number : SeekBehavior → Int32
  | .blockUntilReady => SeekInfo.BLOCK_UNTIL_READY
  | .failIfNotReady => SeekInfo.FAIL_IF_NOT_READY

/-- For block streaming, builds the request that will indicate when to start and stop streaming. -/
def buildSeekInfo (start stop : Option Int) (behavior : SeekBehavior) : Except Exc SeekInfo := do
  let seekStart ← buildSeekPosition start
  let seekStop ← buildSeekPosition stop
  return { start := some seekStart, stop := some seekStop, behavior := behavior.number }

/-- Builds an envelope that contains an endorsed transaction payload for sending to the orderer. The
proposal response payload is that of the first response; the endorsements are those of all. -/
def buildEndorsedTxEnvelope (endorsedTx : EndorsedTX) (requestor : User) : Except Exc Envelope := do
  let response ← match endorsedTx.peerResponses with
    | [] => throw (.indexError "list index out of range")
    | response :: _ => pure response
  let actionPayload : ChaincodeActionPayload := {
    action := some {
      proposalResponsePayload := response.payload
      endorsements := endorsedTx.peerResponses.map (·.endorsement) }
    chaincodeProposalPayload := endorsedTx.proposal.payload }
  let transaction : Transaction := {
    actions := [{
      header := endorsedTx.header.signatureHeader
      payload := rt.serializeToString actionPayload }] }
  let payload : Payload := {
    header := some endorsedTx.header
    data := rt.serializeToString transaction }
  return wrapTransaction rt requestor payload

/-- Prepares a channel transaction for sending to the orderer. -/
def buildConfigUpdateEnvelope (channel : Channel) (txContext : TXContext) (requestor : User)
    (configUpdate : Bytes) (timestamp : Timestamp) : Except Exc Envelope :=
  let header : SignatureHeader := {
    creator := rt.serializeToString txContext.identity, nonce := txContext.nonce }
  let headerBytes := rt.serializeToString header
  let signature : ConfigSignature := {
    signatureHeader := headerBytes
    signature := sign requestor (headerBytes ++ configUpdate) }
  let configUpdateEnvelope : ConfigUpdateEnvelope := { configUpdate, signatures := [signature] }
  buildEnvelope rt requestor txContext (rt.serializeToString configUpdateEnvelope) (some channel)
    none none .configUpdate timestamp

/-! ## Generated transactions -/

/-- A transient map as the caller gives it: a dictionary, in the order of insertion. -/
abbrev TransientMap := AList fun _ : String => Bytes

/-- `payload.TransientMap[name] = bytes_value` for every item of a dictionary, in place. -/
def setTransientMap (payload : ChaincodeProposalPayload) (transientMap : TransientMap) :
    ChaincodeProposalPayload :=
  transientMap.entries.foldl
    (fun payload item =>
      { payload with transientMap := payload.transientMap.insert item.1 item.2 })
    payload

/-- Generically generates a transaction that can be sent to peers for endorsement, with the nonce
and the header timestamp drawn for it. -/
def buildGeneratedTx (requestor : User) (ccName : String) (args : List Bytes)
    (channel : Option Channel) (transientMap : Option TransientMap) (nonce : Bytes)
    (timestamp : Timestamp) : Except Exc GeneratedTX := do
  let chaincodeId : ChaincodeID := { name := ccName }
  let txContext := txContextFromUser rt requestor nonce
  let extension : ChaincodeHeaderExtension := { chaincodeId := some chaincodeId }
  let header ← buildHeader rt txContext channel (some (rt.serializeToString extension))
    .endorserTransaction none timestamp
  let headerBytes := rt.serializeToString header
  let ccSpec : ChaincodeSpecProto := {
    type := ChaincodeSpecProto.GOLANG
    chaincodeId := some chaincodeId
    input := some { args } }
  let ccInvokeSpec := rt.serializeToString ({ chaincodeSpec := some ccSpec } : ChaincodeInvocationSpec)
  let ccPayload : ChaincodeProposalPayload := { input := ccInvokeSpec }
  let proposal : Proposal := { header := headerBytes, payload := rt.serializeToString ccPayload }
  -- With a transient map, another proposal with that data is signed and sent to the peers; without
  -- one there is no distinction between the two proposals.
  let transientProposal : Proposal := match transientMap.filter (·.entries ≠ []) with
    | some transientMap =>
        let ccPayload := setTransientMap ccPayload transientMap
        { header := headerBytes, payload := rt.serializeToString ccPayload }
    | none => proposal
  let transientProposalBytes := rt.serializeToString transientProposal
  let signedProposal : SignedProposal := {
    signature := sign requestor transientProposalBytes
    proposalBytes := transientProposalBytes }
  return { txContext, signedProposal, proposal, header }

end Snakeskin
