import Snakeskin.BlockRoundTrip
import Snakeskin.TransientData

/-! # What a block reader sees of an invocation

The envelope that goes to the orderer ends up in a block, where it is decoded. This file composes
the builders of `factories.py` with the decoder of `models/_decoded.py`: what the client asked for
is what a reader of the block gets. -/

namespace Snakeskin

open Wire

variable {rt : Runtime}

/-- The signature header of a context of a user, decoded. -/
def User.decodedHeader (user : User) (nonce : Bytes) : DecodedSignatureHeader where
  creator := { mspid := user.mspId, idBytes := user.cert }
  nonce := nonce

/-- The signature header made of a context is decoded to the identity and the nonce. -/
theorem decode_signatureHeader (hrt : rt.RoundTrip) (user : User) (nonce : Bytes) :
    DecodedSignatureHeader.decode rt
      (rt.serializeToString ((txContextFromUser rt user nonce).signatureHeader rt)) =
    .ok (user.decodedHeader nonce) :=
  DecodedSignatureHeader.decode_encode hrt (user.decodedHeader nonce)

/-- The header built for a context is decoded to a channel header of the type it was built for, and
to the identity and the nonce of the context. -/
theorem decode_buildHeader (hrt : rt.RoundTrip) {txContext : TXContext} {channel : Option Channel}
    {extension tlsCert : Option Bytes} {txType : TransactionType} {timestamp : Timestamp}
    {header : Header}
    (h : buildHeader rt txContext channel extension txType tlsCert timestamp = .ok header) :
    ∃ decoded, DecodedHeader.decode rt header = .ok decoded ∧
      decoded.channelHeader.type = txType.value := by
  obtain ⟨channelHeader, htype, -, -, -, -, -, rfl⟩ := buildHeader_cases h
  refine ⟨⟨channelHeader, ⟨txContext.identity, txContext.nonce⟩⟩, ?_, htype⟩
  exact DecodedHeader.decode_encode hrt ⟨channelHeader, ⟨txContext.identity, txContext.nonce⟩⟩

/-- A wrapped payload is decoded by the branch that the type in its header selects. -/
theorem decode_wrapTransaction (hrt : rt.RoundTrip) (user : User) {header : Header}
    {decoded : DecodedHeader} {txType : TransactionType}
    (hheader : DecodedHeader.decode rt header = .ok decoded)
    (htype : decoded.channelHeader.type = txType.value) (data : Bytes) :
    DecodedTX.decode rt (rt.serializeToString
        (wrapTransaction rt user { header := some header, data })) =
      (DecodedPayloadData.decode rt txType data).map fun payloadData =>
        ⟨(wrapTransaction rt user { header := some header, data }).signature,
          ⟨decoded, payloadData⟩⟩ := by
  rw [DecodedTX.decode, parse_serializeToString hrt, ok_bind]
  show (rt.parse Payload (rt.serializeToString _) >>= _) = _
  rw [parse_serializeToString hrt, ok_bind]
  dsimp only [Option.getD_some]
  rw [hheader, ok_bind, htype, TransactionType.ofValue_value, ok_bind]
  cases DecodedPayloadData.decode rt txType data <;> rfl

/-- The endorsement of a response, decoded: its endorser parsed, its signature as it is. -/
def DecodedEndorsement.Reads (rt : Runtime) (r : ProposalResponse) (e : DecodedEndorsement) : Prop :=
  rt.fromString SerializedIdentity r.endorsement.endorser = some e.endorser ∧
    e.signature = r.endorsement.signature

/-- The endorsements of responses whose endorsers parse are decoded one by one. -/
theorem mapM_decode_endorsements {rs : List ProposalResponse}
    (h : ∀ r ∈ rs, (rt.fromString SerializedIdentity r.endorsement.endorser).isSome = true) :
    ∃ endorsements, (rs.map (·.endorsement)).mapM (DecodedEndorsement.decode rt) = .ok endorsements ∧
      List.Forall₂ (DecodedEndorsement.Reads rt) rs endorsements := by
  induction rs with
  | nil => exact ⟨[], rfl, .nil⟩
  | cons r rs ih =>
      obtain ⟨endorser, hendorser⟩ := Option.isSome_iff_exists.mp (h r List.mem_cons_self)
      obtain ⟨endorsements, hmap, hreads⟩ := ih fun r' hmem => h r' (List.mem_cons_of_mem _ hmem)
      have hdecode : DecodedEndorsement.decode rt r.endorsement =
          .ok ⟨endorser, r.endorsement.signature⟩ := by
        rw [DecodedEndorsement.decode, Runtime.parse, hendorser, ok_bind]
        rfl
      refine ⟨⟨endorser, r.endorsement.signature⟩ :: endorsements, ?_, .cons ⟨hendorser, rfl⟩ hreads⟩
      rw [List.map_cons, List.mapM_cons, hdecode, hmap]
      rfl

/-- **The action of an endorsed transaction** is decoded to the signature header of the transaction,
the parsed payload of the first response, the endorsements of all, and the payload of the
proposal. -/
theorem decode_action (hrt : rt.RoundTrip) {tx : EndorsedTX} {first : ProposalResponse}
    {header : DecodedSignatureHeader} {payload : ProposalResponsePayload}
    {endorsements : List DecodedEndorsement} {proposalPayload : ChaincodeProposalPayload}
    (hheader : DecodedSignatureHeader.decode rt tx.header.signatureHeader = .ok header)
    (hpayload : rt.fromString ProposalResponsePayload first.payload = some payload)
    (hendorsements : (tx.peerResponses.map (·.endorsement)).mapM (DecodedEndorsement.decode rt) =
      .ok endorsements)
    (hproposal : tx.proposal.payload = rt.serializeToString proposalPayload) :
    DecodedTransactionAction.decode rt {
      header := tx.header.signatureHeader
      payload := rt.serializeToString (tx.actionPayload first) } =
    .ok ⟨header, ⟨⟨payload, endorsements⟩, proposalPayload⟩⟩ := by
  have hfirst : rt.parse ProposalResponsePayload first.payload = .ok payload := by
    rw [Runtime.parse, hpayload]
  rw [DecodedTransactionAction.decode, parse_serializeToString hrt, ok_bind, hheader, ok_bind,
    EndorsedTX.actionPayload]
  dsimp only [Option.getD_some]
  rw [hfirst, ok_bind, hendorsements, ok_bind, hproposal, parse_serializeToString hrt, ok_bind]
  rfl

/-- **What the client asked is what a block reader sees.** When the payload of the first response
and the endorsers of all responses parse, the envelope of an invocation is decoded to its
transaction id, its channel header, the identity and the nonce of the requestor at both levels, and
one action with the endorsements in order, the payload of the first response, and the proposal
without transient data, whose input names the chaincode and has the given arguments. -/
theorem decoded_invocation (hrt : rt.RoundTrip) {requestor : User} {ccName : String}
    {args : List Bytes} {channel : Option Channel} {transientMap : Option TransientMap}
    {nonce : Bytes} {timestamp : Timestamp} {tx : GeneratedTX}
    (h : buildGeneratedTx rt requestor ccName args channel transientMap nonce timestamp = .ok tx)
    {first : ProposalResponse} {rest : List ProposalResponse} {payload : ProposalResponsePayload}
    (hpayload : rt.fromString ProposalResponsePayload first.payload = some payload)
    (hendorsers : ∀ r ∈ first :: rest,
      (rt.fromString SerializedIdentity r.endorsement.endorser).isSome = true)
    (submitter : User) :
    ∃ envelope decoded action spec,
      buildEndorsedTxEnvelope rt (endorsedFrom tx (first :: rest)) submitter = .ok envelope ∧
      DecodedTX.decode rt (rt.serializeToString envelope) = .ok decoded ∧
      decoded.txId = tx.txId ∧
      rt.fromString ChannelHeader tx.header.channelHeader =
        some decoded.payload.header.channelHeader ∧
      decoded.payload.header.signatureHeader = requestor.decodedHeader nonce ∧
      decoded.payload.data = .transaction ⟨[action]⟩ ∧
      action.header = requestor.decodedHeader nonce ∧
      List.Forall₂ (DecodedEndorsement.Reads rt) (first :: rest) action.payload.action.endorsements ∧
      action.payload.action.proposalResponsePayload = payload ∧
      action.payload.chaincodeProposalPayload.transientMap = ∅ ∧
      rt.fromString ChaincodeInvocationSpec action.payload.chaincodeProposalPayload.input =
        some ⟨some spec⟩ ∧
      spec.chaincodeId.map (·.name) = some ccName ∧ spec.input.map (·.args) = some args := by
  obtain ⟨header, hheader, rfl⟩ := buildGeneratedTx_cases h
  obtain ⟨channelHeader, htype, htxId, -, -, -, -, rfl⟩ := buildHeader_cases hheader
  obtain ⟨endorsements, hendorsements, hreads⟩ := mapM_decode_endorsements hendorsers
  set generatedTx := generatedWith rt requestor ccName args transientMap nonce _ with hgenerated
  set tx := endorsedFrom generatedTx (first :: rest) with htx
  have hresponses : tx.peerResponses = first :: rest := rfl
  have hsignatureHeader := decode_signatureHeader hrt requestor nonce
  -- The payload header and the action header are made of the same context.
  have hpayloadHeader : DecodedHeader.decode rt tx.header =
      .ok ⟨channelHeader, requestor.decodedHeader nonce⟩ := by
    rw [DecodedHeader.decode]
    show (rt.parse ChannelHeader (rt.serializeToString channelHeader) >>= _) = _
    rw [parse_serializeToString hrt, ok_bind]
    show (DecodedSignatureHeader.decode rt (rt.serializeToString _) >>= _) = _
    rw [hsignatureHeader]
    rfl
  have haction : DecodedTransactionAction.decode rt {
      header := tx.header.signatureHeader
      payload := rt.serializeToString (tx.actionPayload first) } =
      .ok ⟨requestor.decodedHeader nonce,
        ⟨⟨payload, endorsements⟩, invocationPayload rt ccName args⟩⟩ :=
    decode_action hrt hsignatureHeader hpayload hendorsements rfl
  have hbody : DecodedTransactionBody.decode rt (rt.serializeToString (tx.transaction rt first)) =
      .ok ⟨[⟨requestor.decodedHeader nonce,
        ⟨⟨payload, endorsements⟩, invocationPayload rt ccName args⟩⟩]⟩ := by
    rw [DecodedTransactionBody.decode, parse_serializeToString hrt, ok_bind, EndorsedTX.transaction,
      List.mapM_cons, haction]
    rfl
  have hdecoded := decode_wrapTransaction hrt submitter hpayloadHeader htype
    (rt.serializeToString (tx.transaction rt first))
  rw [DecodedPayloadData.decode, hbody] at hdecoded
  refine ⟨_, _, _, _, buildEndorsedTxEnvelope_of_cons rt hresponses submitter, hdecoded, htxId, hrt _,
    rfl, rfl, rfl, hreads, rfl, rfl, hrt _, rfl, rfl⟩

/-- A response over the wire format, endorsed by the peer of an organization. -/
def responseOf (mspid : String) : ProposalResponse where
  payload := (wireRuntime id).serializeToString (α := ProposalResponsePayload) {
    proposalHash := [2] }
  endorsement := {
    endorser := (wireRuntime id).serializeToString (α := SerializedIdentity) { mspid }
    signature := [3] }

/-- The keyed user's transaction with two responses, read back over the wire format. -/
theorem decoded_invocation_keyedUser :
    ∃ tx envelope decoded action,
      buildGeneratedTx (wireRuntime id) keyedUser "cc" [[1], [5, 6]] (some ⟨"channel"⟩) none [9] {} =
        .ok tx ∧
      buildEndorsedTxEnvelope (wireRuntime id)
        (endorsedFrom tx [responseOf "Org1MSP", responseOf "Org2MSP"]) keyedUser = .ok envelope ∧
      DecodedTX.decode (wireRuntime id) ((wireRuntime id).serializeToString envelope) = .ok decoded ∧
      decoded.payload.data = .transaction ⟨[action]⟩ ∧
      action.payload.action.proposalResponsePayload = { proposalHash := [2] } := by
  have hrt : (wireRuntime id).RoundTrip := wireRuntime_roundTrip id
  have hendorsers : ∀ r ∈ [responseOf "Org1MSP", responseOf "Org2MSP"],
      ((wireRuntime id).fromString SerializedIdentity r.endorsement.endorser).isSome = true := by
    intro r hr
    simp only [List.mem_cons, List.not_mem_nil, or_false] at hr
    obtain rfl | rfl := hr
    all_goals exact Option.isSome_iff_exists.mpr ⟨_, hrt (α := SerializedIdentity) _⟩
  obtain ⟨envelope, decoded, action, -, henvelope, hdecoded, -, -, -, hdata, -, -, hpayload, -⟩ :=
    decoded_invocation hrt
      (show buildGeneratedTx (wireRuntime id) keyedUser "cc" [[1], [5, 6]] (some ⟨"channel"⟩) none [9]
        {} = .ok _ from rfl) (hrt _) hendorsers keyedUser
  exact ⟨_, envelope, decoded, action, rfl, henvelope, hdecoded, hdata, hpayload⟩

end Snakeskin
