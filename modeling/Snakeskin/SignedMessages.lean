import Snakeskin.TransientData

/-! # Signed messages

Every message that the client signs binds the identity of the requestor, the nonce of the context,
and the transaction id made of the two, under a signature over the bytes carried beside it. The four
kinds are the signed proposal, the envelope of an endorsed transaction, that of a config update, and
the seek envelope of an event hub. -/

namespace Snakeskin

open Wire

variable {rt : Runtime}

/-! ## What is bound -/

/-- The serialised identity of a user. -/
def User.serializedIdentity (rt : Runtime) (user : User) : Bytes :=
  rt.serializeToString ({ mspid := user.mspId, idBytes := user.cert } : SerializedIdentity)

/-- A signature header names a user and a nonce. -/
def SignatureHeader.Names (rt : Runtime) (user : User) (nonce : Bytes)
    (signatureHeader : SignatureHeader) : Prop :=
  signatureHeader.creator = user.serializedIdentity rt ∧ signatureHeader.nonce = nonce

/-- A header is bound to a user and a nonce: its signature header names them, and its channel header
has the hex hash of the nonce followed by the creator as transaction id. -/
def Header.BoundTo (rt : Runtime) (user : User) (nonce : Bytes) (header : Header) : Prop :=
  ∃ signatureHeader channelHeader,
    rt.fromString SignatureHeader header.signatureHeader = some signatureHeader ∧
    rt.fromString ChannelHeader header.channelHeader = some channelHeader ∧
    signatureHeader.Names rt user nonce ∧
    channelHeader.txId =
      hexdigest (user.cryptoSuite.hash (signatureHeader.nonce ++ signatureHeader.creator))

/-- A signature verifies under the key of a user. -/
def User.Signed (user : User) (data signature : Bytes) : Prop :=
  user.cryptoSuite.verify (user.cryptoSuite.publicKey user.privateKey) data signature = true

/-- A signed proposal is bound: its header is, and its signature verifies over the carried bytes. -/
def SignedProposal.BoundTo (rt : Runtime) (user : User) (nonce : Bytes) (signed : SignedProposal) :
    Prop :=
  (∃ proposal header, signed.proposal rt = some proposal ∧
    rt.fromString Header proposal.header = some header ∧ header.BoundTo rt user nonce) ∧
  user.Signed signed.proposalBytes signed.signature

/-- An envelope is bound: its header is, and its signature verifies over the carried bytes. -/
def Envelope.BoundTo (rt : Runtime) (user : User) (nonce : Bytes) (envelope : Envelope) : Prop :=
  (∃ payload header, envelope.parsedPayload rt = some payload ∧
    payload.header = some header ∧ header.BoundTo rt user nonce) ∧
  user.Signed envelope.payload envelope.signature

/-- A config signature is bound: its header names the user and the nonce, and its signature verifies
over that header followed by the update. -/
def ConfigSignature.BoundTo (rt : Runtime) (user : User) (nonce configUpdate : Bytes)
    (signature : ConfigSignature) : Prop :=
  (∃ signatureHeader, rt.fromString SignatureHeader signature.signatureHeader = some signatureHeader ∧
    signatureHeader.Names rt user nonce) ∧
  user.Signed (signature.signatureHeader ++ configUpdate) signature.signature

/-! ## Each builder binds -/

/-- What a user signs verifies. -/
theorem signed_sign {user : User} (hsuite : user.cryptoSuite.Correct) (data : Bytes) :
    user.Signed data (sign user data) := hsuite user.privateKey data

/-- The signature header made of a context of the user names the user and the nonce. -/
theorem names_signatureHeader (user : User) (nonce : Bytes) :
    ((txContextFromUser rt user nonce).signatureHeader rt).Names rt user nonce := ⟨rfl, rfl⟩

/-- A header built for a context of the user is bound to the user and the nonce of the context. -/
theorem buildHeader_boundTo (hrt : rt.RoundTrip) {user : User} {nonce : Bytes}
    {channel : Option Channel} {extension tlsCert : Option Bytes} {txType : TransactionType}
    {timestamp : Timestamp} {header : Header}
    (h : buildHeader rt (txContextFromUser rt user nonce) channel extension txType tlsCert timestamp =
      .ok header) :
    header.BoundTo rt user nonce := by
  obtain ⟨channelHeader, -, htxId, -, -, -, -, rfl⟩ := buildHeader_cases h
  -- The transaction id of the context is the hash of what the signature header carries.
  exact ⟨_, channelHeader, hrt _, hrt _, names_signatureHeader user nonce, htxId⟩

/-- Wrapping a payload with a bound header makes a bound envelope. -/
theorem wrapTransaction_boundTo (hrt : rt.RoundTrip) {user : User}
    (hsuite : user.cryptoSuite.Correct) {nonce : Bytes} {header : Header}
    (h : header.BoundTo rt user nonce) (data : Bytes) :
    (wrapTransaction rt user { header := some header, data }).BoundTo rt user nonce := by
  constructor
  · exact ⟨_, header, parsedPayload_wrapTransaction hrt _ _, rfl, h⟩
  · exact signed_sign hsuite _

/-- An envelope built for a context of the user is bound. -/
theorem buildEnvelope_boundTo (hrt : rt.RoundTrip) {user : User}
    (hsuite : user.cryptoSuite.Correct) {nonce data : Bytes} {channel : Option Channel}
    {tlsCert extension : Option Bytes} {txType : TransactionType} {timestamp : Timestamp}
    {envelope : Envelope}
    (h : buildEnvelope rt user (txContextFromUser rt user nonce) data channel tlsCert extension txType
      timestamp = .ok envelope) :
    envelope.BoundTo rt user nonce := by
  obtain ⟨header, hheader, rfl⟩ := buildEnvelope_cases h
  exact wrapTransaction_boundTo hrt hsuite (buildHeader_boundTo hrt hheader) data

/-- The proposal of a generated transaction is bound. -/
theorem buildGeneratedTx_boundTo (hrt : rt.RoundTrip) {user : User}
    (hsuite : user.cryptoSuite.Correct) {ccName : String} {args : List Bytes}
    {channel : Option Channel} {transientMap : Option TransientMap} {nonce : Bytes}
    {timestamp : Timestamp} {tx : GeneratedTX}
    (h : buildGeneratedTx rt user ccName args channel transientMap nonce timestamp = .ok tx) :
    tx.signedProposal.BoundTo rt user nonce := by
  obtain ⟨header, hheader, rfl⟩ := buildGeneratedTx_cases h
  have hproposal := proposal_generatedWith hrt user ccName args transientMap nonce header
  constructor
  · exact ⟨_, header, hproposal, hrt _, buildHeader_boundTo hrt hheader⟩
  · exact signed_sign hsuite _

/-- The envelope of an endorsed transaction is bound. -/
theorem buildEndorsedTxEnvelope_boundTo (hrt : rt.RoundTrip) {user : User}
    (hsuite : user.cryptoSuite.Correct) {ccName : String} {args : List Bytes}
    {channel : Option Channel} {transientMap : Option TransientMap} {nonce : Bytes}
    {timestamp : Timestamp} {tx : GeneratedTX} {rs : List ProposalResponse} {envelope : Envelope}
    (h : buildGeneratedTx rt user ccName args channel transientMap nonce timestamp = .ok tx)
    (henvelope : buildEndorsedTxEnvelope rt (endorsedFrom tx rs) user = .ok envelope) :
    envelope.BoundTo rt user nonce := by
  obtain ⟨header, hheader, rfl⟩ := buildGeneratedTx_cases h
  obtain ⟨first, rest, -, rfl⟩ := buildEndorsedTxEnvelope_cases henvelope
  exact wrapTransaction_boundTo hrt hsuite (buildHeader_boundTo hrt hheader) _

/-- The envelope of a config update is bound, and so is the only signature of the update it
carries. -/
theorem buildConfigUpdateEnvelope_boundTo (hrt : rt.RoundTrip) {user : User}
    (hsuite : user.cryptoSuite.Correct) {channel : Channel} {nonce configUpdate : Bytes}
    {timestamp : Timestamp} {envelope : Envelope}
    (h : buildConfigUpdateEnvelope rt channel (txContextFromUser rt user nonce) user configUpdate
      timestamp = .ok envelope) :
    envelope.BoundTo rt user nonce ∧
    ∃ payload update signature,
      envelope.parsedPayload rt = some payload ∧
      rt.fromString ConfigUpdateEnvelope payload.data = some update ∧
      update.configUpdate = configUpdate ∧ update.signatures = [signature] ∧
      signature.BoundTo rt user nonce update.configUpdate := by
  refine ⟨buildEnvelope_boundTo hrt hsuite h, ?_⟩
  obtain ⟨header, -, rfl⟩ := buildEnvelope_cases h
  -- The signature inside is over the same signature header as the one outside.
  refine ⟨_, _, _, parsedPayload_wrapTransaction hrt _ _, hrt _, rfl, rfl, ?_⟩
  exact ⟨⟨_, hrt _, names_signatureHeader user nonce⟩, signed_sign hsuite _⟩

/-- The seek envelope of an event hub is bound. -/
theorem getConnectionEnvelope_boundTo (hrt : rt.RoundTrip) {hub : EventHub}
    (hsuite : hub.requestor.cryptoSuite.Correct) {behavior : SeekBehavior} {start stop : Option Int}
    {nonce : Bytes} {timestamp : Timestamp} {envelope : Envelope}
    (h : hub.getConnectionEnvelope rt behavior start stop nonce timestamp = .ok envelope) :
    envelope.BoundTo rt hub.requestor nonce := by
  obtain ⟨seekInfo, -, h⟩ := bind_eq_ok.mp h
  exact buildEnvelope_boundTo hrt hsuite h

/-! ## All of them -/

/-- **Identity, transaction id and signatures are bound together in every signed message.** -/
theorem signed_messages_bound (hrt : rt.RoundTrip) {user : User}
    (hsuite : user.cryptoSuite.Correct) :
    (∀ ccName args channel transientMap nonce timestamp tx,
      buildGeneratedTx rt user ccName args channel transientMap nonce timestamp = .ok tx →
      tx.txContext.nonce = nonce ∧ tx.signedProposal.BoundTo rt user nonce ∧
      ∀ rs envelope, buildEndorsedTxEnvelope rt (endorsedFrom tx rs) user = .ok envelope →
        envelope.BoundTo rt user nonce) ∧
    (∀ channel nonce configUpdate timestamp envelope,
      buildConfigUpdateEnvelope rt channel (txContextFromUser rt user nonce) user configUpdate
        timestamp = .ok envelope →
      envelope.BoundTo rt user nonce ∧
      ∃ payload update signature,
        envelope.parsedPayload rt = some payload ∧
        rt.fromString ConfigUpdateEnvelope payload.data = some update ∧
        update.configUpdate = configUpdate ∧ update.signatures = [signature] ∧
        signature.BoundTo rt user nonce update.configUpdate) ∧
    (∀ channel peer orderer behavior start stop nonce timestamp envelope,
      ∀ hub ∈ [peerEvents user channel peer, peerFilteredEvents user channel peer,
        ordererEvents user channel orderer],
      EventHub.getConnectionEnvelope rt hub behavior start stop nonce timestamp = .ok envelope →
      envelope.BoundTo rt user nonce) := by
  refine ⟨?_, ?_, ?_⟩
  · intro ccName args channel transientMap nonce timestamp tx h
    refine ⟨?_, buildGeneratedTx_boundTo hrt hsuite h, fun rs envelope henvelope =>
      buildEndorsedTxEnvelope_boundTo hrt hsuite h henvelope⟩
    obtain ⟨header, -, rfl⟩ := buildGeneratedTx_cases h
    rfl
  · intro channel nonce configUpdate timestamp envelope h
    exact buildConfigUpdateEnvelope_boundTo hrt hsuite h
  · intro channel peer orderer behavior start stop nonce timestamp envelope hub hhub h
    -- The three hubs differ in their certificate only.
    have hrequestor : hub.requestor = user := by
      simp only [List.mem_cons, List.not_mem_nil, or_false] at hhub
      rcases hhub with rfl | rfl | rfl <;> rfl
    subst hrequestor
    exact getConnectionEnvelope_boundTo hrt hsuite h

/-- The keyed user's config update, over the wire format. -/
theorem signed_messages_bound_keyedUser :
    ∃ envelope,
      buildConfigUpdateEnvelope (wireRuntime id) ⟨"channel"⟩
        (txContextFromUser (wireRuntime id) keyedUser [9]) keyedUser [5, 6] {} = .ok envelope ∧
      envelope.BoundTo (wireRuntime id) keyedUser [9] :=
  ⟨_, rfl, ((signed_messages_bound (wireRuntime_roundTrip id) keyedSuite_correct).2.1
    ⟨"channel"⟩ [9] [5, 6] {} _ rfl).1⟩

end Snakeskin
