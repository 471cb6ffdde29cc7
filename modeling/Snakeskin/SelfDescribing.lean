import Snakeskin.DecodedInvocation
import Snakeskin.Events

/-! # Self-describing envelopes

Three builders reach one header builder, two of them through the defaulted type argument of
`build_envelope`, and the data is built elsewhere; the reader of an envelope goes by the type in its
header alone. This file compares the two ends: the branch of the decoder that the type selects, and
the message that was serialised. -/

namespace Snakeskin

open Wire

/-! ## Messages in payloads -/

/-- A message that is serialised into the data of a payload. -/
inductive PayloadMessage where
  | transaction (transaction : Transaction)
  | configUpdate (envelope : ConfigUpdateEnvelope)
  | seekInfo (seekInfo : SeekInfo)

/-- The type that announces a message in the channel header. -/
def PayloadMessage.type : PayloadMessage → TransactionType
  | .transaction _ => .endorserTransaction
  | .configUpdate _ => .configUpdate
  | .seekInfo _ => .deliverSeekInfo

variable (rt : Runtime)

/-- The data of the payload that carries a message. -/
def PayloadMessage.data : PayloadMessage → Bytes
  | .transaction tx => rt.serializeToString tx
  | .configUpdate envelope => rt.serializeToString envelope
  | .seekInfo seek => rt.serializeToString seek

/-- What a reader should see of a message: the actions of a transaction, the update and the
signatures of a config update, and the raw bytes of a seek request. -/
def PayloadMessage.decoded : PayloadMessage → Except Exc DecodedPayloadData
  | .transaction tx => do
      let actions ← tx.actions.mapM (DecodedTransactionAction.decode rt)
      return .transaction { actions }
  | .configUpdate envelope => do
      let configUpdate ← rt.parse ConfigUpdate envelope.configUpdate
      let signatures ← envelope.signatures.mapM (DecodedConfigUpdateSignature.decode rt)
      return .configUpdate { configUpdate, signatures }
  | .seekInfo seek => return .bytes (rt.serializeToString seek)

/-- An envelope describes itself as carrying a message: its payload has the bytes of the message as
data and a header of the type of the message, and the decoder makes of the envelope what a reader
should see of the message. -/
def SelfDescribing (message : PayloadMessage) (envelope : Envelope) : Prop :=
  ∃ payload header,
    rt.fromString Payload envelope.payload = some payload ∧
    payload.data = message.data rt ∧
    DecodedHeader.decode rt (payload.header.getD {}) = .ok header ∧
    TransactionType.ofValue header.channelHeader.type = .ok message.type ∧
    DecodedTX.decode rt (rt.serializeToString envelope) =
      (message.decoded rt).map fun data => ⟨envelope.signature, ⟨header, data⟩⟩

/-- The envelopes that the builders emit, with the message that was serialised into each: that of an
endorsed transaction over a generated one, that of a config update, and that which opens the stream
of an event hub. -/
inductive Emitted : PayloadMessage → Envelope → Prop
  | endorsedTx {requestor submitter : User} {ccName : String} {args : List Bytes}
      {channel : Option Channel} {transientMap : Option TransientMap} {nonce : Bytes}
      {timestamp : Timestamp} {tx : GeneratedTX} {first : ProposalResponse}
      {rest : List ProposalResponse} {envelope : Envelope} :
      buildGeneratedTx rt requestor ccName args channel transientMap nonce timestamp = .ok tx →
      buildEndorsedTxEnvelope rt (endorsedFrom tx (first :: rest)) submitter = .ok envelope →
      Emitted (.transaction ((endorsedFrom tx (first :: rest)).transaction rt first)) envelope
  | configUpdate {channel : Channel} {txContext : TXContext} {requestor : User} {configUpdate : Bytes}
      {timestamp : Timestamp} {envelope : Envelope} :
      buildConfigUpdateEnvelope rt channel txContext requestor configUpdate timestamp = .ok envelope →
      Emitted (.configUpdate {
        configUpdate
        signatures := [{
          signatureHeader := rt.serializeToString (txContext.signatureHeader rt)
          signature := sign requestor
            (rt.serializeToString (txContext.signatureHeader rt) ++ configUpdate) }] }) envelope
  | seekInfo {hub : EventHub} {behavior : SeekBehavior} {start stop : Option Int} {nonce : Bytes}
      {timestamp : Timestamp} {seekInfo : SeekInfo} {envelope : Envelope} :
      buildSeekInfo start stop behavior = .ok seekInfo →
      hub.getConnectionEnvelope rt behavior start stop nonce timestamp = .ok envelope →
      Emitted (.seekInfo seekInfo) envelope

/-- The message is a request to stream blocks, which only an event hub sends. -/
def PayloadMessage.IsSeekInfo (message : PayloadMessage) : Prop := ∃ s, message = .seekInfo s

variable {rt}

/-! ## The dispatch of the decoder -/

/-- **The dispatch and the types agree**: the branch that the type of a message selects makes of the
data what a reader should see of the message. -/
theorem decode_data_of_type (hrt : rt.RoundTrip) (message : PayloadMessage) :
    DecodedPayloadData.decode rt message.type (message.data rt) = message.decoded rt := by
  cases message with
  | transaction tx =>
      show (DecodedTransactionBody.decode rt (rt.serializeToString tx) >>= _) = _
      rw [DecodedTransactionBody.decode, parse_serializeToString hrt, ok_bind, bind_assoc]
      rfl
  | configUpdate envelope =>
      show (DecodedConfigUpdateEnvelope.decode rt (rt.serializeToString envelope) >>= _) = _
      rw [DecodedConfigUpdateEnvelope.decode, parse_serializeToString hrt, ok_bind]
      simp only [bind_assoc]
      rfl
  | seekInfo seek => rfl

/-- **An envelope describes itself exactly when its header was built for the type of its
message.** -/
theorem selfDescribing_wrapTransaction_iff (hrt : rt.RoundTrip) {user : User} {txContext : TXContext}
    {channel : Option Channel} {extension tlsCert : Option Bytes} {txType : TransactionType}
    {timestamp : Timestamp} {header : Header}
    (h : buildHeader rt txContext channel extension txType tlsCert timestamp = .ok header)
    (message : PayloadMessage) :
    SelfDescribing rt message
        (wrapTransaction rt user { header := some header, data := message.data rt }) ↔
      txType = message.type := by
  obtain ⟨decoded, hdecoded, htype⟩ := decode_buildHeader hrt h
  constructor
  · rintro ⟨payload, header', hpayload, -, hheader', htype', -⟩
    -- The payload that is parsed is the one that was wrapped, so its header has the built type.
    have hwrapped : rt.fromString Payload (rt.serializeToString
        { header := some header, data := message.data rt : Payload }) = some payload := hpayload
    rw [hrt, Option.some.injEq] at hwrapped
    subst hwrapped
    rw [Option.getD_some, hdecoded, Except.ok.injEq] at hheader'
    rw [← hheader', htype, TransactionType.ofValue_value, Except.ok.injEq] at htype'
    exact htype'
  · rintro rfl
    refine ⟨_, decoded, hrt _, rfl, hdecoded, by rw [htype, TransactionType.ofValue_value], ?_⟩
    rw [decode_wrapTransaction hrt user hdecoded htype, decode_data_of_type hrt]

/-! ## The builders -/

/-- An emitted envelope wraps the data of its message under a header that was built for the type of
the message, or for an endorsed transaction when the message is a seek request. -/
theorem Emitted.wraps {message : PayloadMessage} {envelope : Envelope}
    (h : Emitted rt message envelope) :
    ∃ (user : User) (txContext : TXContext) (channel : Option Channel)
      (extension tlsCert : Option Bytes) (txType : TransactionType) (timestamp : Timestamp)
      (header : Header),
      buildHeader rt txContext channel extension txType tlsCert timestamp = .ok header ∧
      envelope = wrapTransaction rt user { header := some header, data := message.data rt } ∧
      (txType = message.type ↔ ¬ message.IsSeekInfo) := by
  cases h with
  | endorsedTx htx henvelope =>
      obtain ⟨header, hheader, rfl⟩ := buildGeneratedTx_cases htx
      obtain ⟨first, rest, hresponses, rfl⟩ := buildEndorsedTxEnvelope_cases henvelope
      cases hresponses
      exact ⟨_, _, _, _, _, _, _, header, hheader, rfl, by
        simp [PayloadMessage.type, PayloadMessage.IsSeekInfo]⟩
  | configUpdate henvelope =>
      obtain ⟨header, hheader, rfl⟩ := buildEnvelope_cases henvelope
      exact ⟨_, _, _, _, _, _, _, header, hheader, rfl, by
        simp [PayloadMessage.type, PayloadMessage.IsSeekInfo]⟩
  | seekInfo hseekInfo henvelope =>
      -- The hub leaves the type to the default, that of an endorsed transaction.
      obtain ⟨seekInfo', hseekInfo', henvelope⟩ := bind_eq_ok.mp henvelope
      cases hseekInfo.symm.trans hseekInfo'
      obtain ⟨header, hheader, rfl⟩ := buildEnvelope_cases henvelope
      exact ⟨_, _, _, _, _, _, _, header, hheader, rfl, by
        simp [PayloadMessage.type, PayloadMessage.IsSeekInfo]⟩

/-- **Emitted envelopes are self-describing, but for those of the event hubs**: a transaction is
decoded as a transaction body and a config update as one with the same update and signatures, while
a seek request travels under the type of an endorsed transaction. -/
theorem selfDescribing_iff (hrt : rt.RoundTrip) {message : PayloadMessage} {envelope : Envelope}
    (h : Emitted rt message envelope) :
    SelfDescribing rt message envelope ↔ ¬ message.IsSeekInfo := by
  obtain ⟨user, txContext, channel, extension, tlsCert, txType, timestamp, header, hheader, rfl,
    htype⟩ := h.wraps
  rw [selfDescribing_wrapTransaction_iff hrt hheader, htype]

/-- The envelope of a config update by the keyed user describes itself over the wire format. -/
theorem selfDescribing_iff_keyedUser :
    ∃ message envelope,
      buildConfigUpdateEnvelope (wireRuntime id) ⟨"channel"⟩
        (txContextFromUser (wireRuntime id) keyedUser [9]) keyedUser [] {} = .ok envelope ∧
      SelfDescribing (wireRuntime id) message envelope := by
  obtain ⟨envelope, henvelope⟩ : ∃ envelope, buildConfigUpdateEnvelope (wireRuntime id) ⟨"channel"⟩
      (txContextFromUser (wireRuntime id) keyedUser [9]) keyedUser [] {} = .ok envelope :=
    exists_ok_of_isSome (by decide +kernel)
  have hself := (selfDescribing_iff (wireRuntime_roundTrip id) (.configUpdate henvelope)).mpr
    (by rintro ⟨s, hs⟩; cases hs)
  exact ⟨_, envelope, henvelope, hself⟩

/-- A hub that asks for the newest blocks: its request goes out under the type of an endorsed
transaction, and the decoder takes it for a transaction with one action. -/
theorem seekInfo_decoded_as_transaction :
    ∃ seekInfo envelope tx body,
      EventHub.getConnectionEnvelope (wireRuntime id) ⟨keyedUser, some ⟨"channel"⟩, none⟩
        .blockUntilReady none none [9] {} = .ok envelope ∧
      Emitted (wireRuntime id) (.seekInfo seekInfo) envelope ∧
      DecodedTX.decode (wireRuntime id) ((wireRuntime id).serializeToString envelope) = .ok tx ∧
      tx.payload.header.channelHeader.type = TransactionType.endorserTransaction.value ∧
      tx.payload.data = .transaction body ∧ body.actions.length = 1 ∧
      ¬ SelfDescribing (wireRuntime id) (.seekInfo seekInfo) envelope := by
  have hrt : (wireRuntime id).RoundTrip := wireRuntime_roundTrip id
  obtain ⟨envelope, henvelope⟩ : ∃ envelope, EventHub.getConnectionEnvelope (wireRuntime id)
      ⟨keyedUser, some ⟨"channel"⟩, none⟩ .blockUntilReady none none [9] {} = .ok envelope :=
    exists_ok_of_isSome (by decide +kernel)
  obtain ⟨seekInfo, hseekInfo, hbuilt⟩ := bind_eq_ok.mp henvelope
  obtain ⟨header, hheader, rfl⟩ := buildEnvelope_cases hbuilt
  obtain ⟨decoded, hdecoded, htype⟩ := decode_buildHeader hrt hheader
  -- The bytes of the request also parse as a transaction: its start position is read as an action.
  have hcount : (DecodedTransactionBody.decode (wireRuntime id)
      ((wireRuntime id).serializeToString seekInfo)).toOption.map (·.actions.length) = some 1 := by
    cases hseekInfo
    decide +kernel
  obtain ⟨body, hbody⟩ := exists_ok_of_isSome (by simpa using congrArg Option.isSome hcount)
  have hdecode := decode_wrapTransaction hrt keyedUser hdecoded htype
    ((wireRuntime id).serializeToString seekInfo)
  rw [DecodedPayloadData.decode, hbody] at hdecode
  refine ⟨seekInfo, _, _, body, henvelope, .seekInfo hseekInfo henvelope, hdecode, htype, rfl, ?_, ?_⟩
  · rw [hbody] at hcount
    exact Option.some.inj hcount
  · rw [← PayloadMessage.data, selfDescribing_wrapTransaction_iff hrt hheader]
    exact TransactionType.noConfusion

end Snakeskin
