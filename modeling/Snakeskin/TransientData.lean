import Snakeskin.BuiltMessages

/-! # Transient data

A transient map is sent to the endorsing peers and nowhere else. This file compares two runs of
`buildGeneratedTx` that differ in the transient map only, and the signed proposal of one run with
the envelope that carries the endorsed transaction to the orderer: all the bytes that go into the
proposal hash are the same. -/

namespace Snakeskin

open Wire

variable {rt : Runtime}

/-! ## Two runs -/

/-- What of a generated transaction goes on to the ledger. -/
def GeneratedTX.ledgerView (tx : GeneratedTX) : TXContext × Proposal × Header :=
  (tx.txContext, tx.proposal, tx.header)

/-- The ledger view does not depend on the transient map the transaction was generated with. -/
theorem ledgerView_generatedWith (requestor : User) (ccName : String) (args : List Bytes)
    (m₁ m₂ : Option TransientMap) (nonce : Bytes) (header : Header) :
    (generatedWith rt requestor ccName args m₁ nonce header).ledgerView =
      (generatedWith rt requestor ccName args m₂ nonce header).ledgerView := rfl

/-- Transactions with the same ledger view make the same endorsed transaction of the same
responses. -/
theorem endorsedFrom_congr {tx₁ tx₂ : GeneratedTX} (h : tx₁.ledgerView = tx₂.ledgerView)
    (rs : List ProposalResponse) : endorsedFrom tx₁ rs = endorsedFrom tx₂ rs := by
  obtain ⟨hcontext, hproposal, hheader⟩ : tx₁.txContext = tx₂.txContext ∧
      tx₁.proposal = tx₂.proposal ∧ tx₁.header = tx₂.header := by
    simpa [GeneratedTX.ledgerView] using h
  rw [endorsedFrom, endorsedFrom, hcontext, hproposal, hheader]

/-- **Transient data never reaches the ledger view.** Two runs with the same nonce and time and with
any two transient maps fail alike or agree on all but the signed proposal, and then the same
responses are put into the same envelope for the orderer. -/
theorem transientMap_not_in_envelope (rt : Runtime) (requestor : User) (ccName : String)
    (args : List Bytes) (channel : Option Channel) (m₁ m₂ : Option TransientMap) (nonce : Bytes)
    (timestamp : Timestamp) :
    (buildGeneratedTx rt requestor ccName args channel m₁ nonce timestamp).map
        GeneratedTX.ledgerView =
      (buildGeneratedTx rt requestor ccName args channel m₂ nonce timestamp).map
        GeneratedTX.ledgerView ∧
    ∀ tx₁ tx₂,
      buildGeneratedTx rt requestor ccName args channel m₁ nonce timestamp = .ok tx₁ →
      buildGeneratedTx rt requestor ccName args channel m₂ nonce timestamp = .ok tx₂ →
      ∀ rs ≠ [], ∀ submitter, ∃ envelope,
        buildEndorsedTxEnvelope rt (endorsedFrom tx₁ rs) submitter = .ok envelope ∧
        buildEndorsedTxEnvelope rt (endorsedFrom tx₂ rs) submitter = .ok envelope := by
  have hview : (buildGeneratedTx rt requestor ccName args channel m₁ nonce timestamp).map
      GeneratedTX.ledgerView =
      (buildGeneratedTx rt requestor ccName args channel m₂ nonce timestamp).map
        GeneratedTX.ledgerView := by
    rw [buildGeneratedTx_eq, buildGeneratedTx_eq]
    cases buildHeader rt (txContextFromUser rt requestor nonce) channel
        (some (rt.serializeToString (invocationExtension ccName))) .endorserTransaction none
        timestamp with
    | error e => rfl
    | ok header =>
        exact congrArg Except.ok (ledgerView_generatedWith requestor ccName args m₁ m₂ nonce header)
  refine ⟨hview, ?_⟩
  intro tx₁ tx₂ h₁ h₂ rs hrs submitter
  rw [h₁, h₂] at hview
  -- The signed proposal is the only part that may differ, and an endorsed transaction has none.
  have hendorsed : endorsedFrom tx₁ rs = endorsedFrom tx₂ rs :=
    endorsedFrom_congr (Except.ok.inj hview) rs
  obtain ⟨first, rest, rfl⟩ := List.exists_cons_of_ne_nil hrs
  have hresponses : (endorsedFrom tx₁ (first :: rest)).peerResponses = first :: rest := rfl
  have henvelope := buildEndorsedTxEnvelope_of_cons rt hresponses submitter
  exact ⟨_, henvelope, hendorsed ▸ henvelope⟩

/-- With a secret and without one, the peers get different proposals and the orderer the same
envelope. -/
theorem transientMap_not_in_envelope_secret :
    ∃ tx₁ tx₂,
      buildGeneratedTx (wireRuntime id) keyedUser "cc" [[1]] (some ⟨"channel"⟩)
        (some (AList.singleton "secret" [42])) [9] {} = .ok tx₁ ∧
      buildGeneratedTx (wireRuntime id) keyedUser "cc" [[1]] (some ⟨"channel"⟩) none [9] {} =
        .ok tx₂ ∧
      tx₁.signedProposal ≠ tx₂.signedProposal ∧
      ∃ envelope,
        buildEndorsedTxEnvelope (wireRuntime id) (endorsedFrom tx₁ [{}]) keyedUser = .ok envelope ∧
        buildEndorsedTxEnvelope (wireRuntime id) (endorsedFrom tx₂ [{}]) keyedUser =
          .ok envelope := by
  refine ⟨_, _, rfl, rfl, by decide +kernel, ?_⟩
  exact (transientMap_not_in_envelope (wireRuntime id) keyedUser "cc" [[1]] (some ⟨"channel"⟩)
    (some (AList.singleton "secret" [42])) none [9] {}).2 _ _ rfl rfl [{}] (by decide) keyedUser

/-! ## The proposal hash -/

/-- The proposal that a signed proposal carries. -/
def SignedProposal.proposal (rt : Runtime) (signed : SignedProposal) : Option Proposal :=
  rt.fromString Proposal signed.proposalBytes

/-- What an endorser hashes of a signed proposal: the channel header, the signature header, and the
payload without its transient map. -/
def SignedProposal.hashInput (rt : Runtime) (signed : SignedProposal) :
    Option (Bytes × Bytes × Bytes) := do
  let proposal ← signed.proposal rt
  let header ← rt.fromString Header proposal.header
  let payload ← rt.fromString ChaincodeProposalPayload proposal.payload
  return (header.channelHeader, header.signatureHeader,
    rt.serializeToString { payload with transientMap := ∅ })

/-- The payload of an envelope. -/
def Envelope.parsedPayload (rt : Runtime) (envelope : Envelope) : Option Payload :=
  rt.fromString Payload envelope.payload

/-- The actions of the transaction that an envelope carries. -/
def Envelope.actions (rt : Runtime) (envelope : Envelope) : Option (List TransactionAction) := do
  let payload ← envelope.parsedPayload rt
  let transaction ← rt.fromString Transaction payload.data
  return transaction.actions

/-- What a committer hashes of an envelope with one action: the channel header, the signature
header, and the chaincode proposal payload as it stands. -/
def Envelope.hashInput (rt : Runtime) (envelope : Envelope) : Option (Bytes × Bytes × Bytes) := do
  let payload ← envelope.parsedPayload rt
  let header ← payload.header
  let actions ← envelope.actions rt
  let action ← actions.head?
  let actionPayload ← rt.fromString ChaincodeActionPayload action.payload
  return (header.channelHeader, header.signatureHeader, actionPayload.chaincodeProposalPayload)

/-- The signed proposal of a generated transaction parses to its proposal with the transient map in
the payload. -/
theorem proposal_generatedWith (hrt : rt.RoundTrip) (requestor : User) (ccName : String)
    (args : List Bytes) (transientMap : Option TransientMap) (nonce : Bytes) (header : Header) :
    (generatedWith rt requestor ccName args transientMap nonce header).signedProposal.proposal rt =
      some (invocationProposal rt header ccName args (transientMap.getD ∅).toFinmap) :=
  hrt _

/-- The payload of an envelope that wraps it. -/
@[simp] theorem parsedPayload_wrapTransaction (hrt : rt.RoundTrip) (user : User)
    (payload : Payload) :
    (wrapTransaction rt user payload).parsedPayload rt = some payload := hrt payload

/-- The actions of an envelope that wraps an endorsed transaction: one, with the signature header of
the transaction. -/
theorem actions_wrapTransaction (hrt : rt.RoundTrip) (user : User) (tx : EndorsedTX)
    (first : ProposalResponse) :
    (wrapTransaction rt user {
      header := some tx.header, data := rt.serializeToString (tx.transaction rt first) }).actions rt =
    some [{
      header := tx.header.signatureHeader
      payload := rt.serializeToString (tx.actionPayload first) }] := by
  rw [Envelope.actions, parsedPayload_wrapTransaction hrt]
  show (rt.fromString Transaction (rt.serializeToString (tx.transaction rt first)) >>= _) = _
  rw [hrt]
  rfl

/-- An endorser hashes the header of the transaction and the payload of its unsigned proposal. -/
theorem hashInput_generatedWith (hrt : rt.RoundTrip) (requestor : User) (ccName : String)
    (args : List Bytes) (transientMap : Option TransientMap) (nonce : Bytes) (header : Header) :
    (generatedWith rt requestor ccName args transientMap nonce header).signedProposal.hashInput rt =
      some (header.channelHeader, header.signatureHeader,
        (invocationProposal rt header ccName args ∅).payload) := by
  rw [SignedProposal.hashInput, proposal_generatedWith hrt]
  show (rt.fromString Header (rt.serializeToString header) >>= _) = _
  rw [hrt]
  show (rt.fromString ChaincodeProposalPayload (rt.serializeToString _) >>= _) = _
  rw [hrt]
  rfl

/-- A committer hashes the header of the transaction and the payload of its proposal. -/
theorem hashInput_wrapTransaction (hrt : rt.RoundTrip) (user : User) (tx : EndorsedTX)
    (first : ProposalResponse) :
    (wrapTransaction rt user {
      header := some tx.header
      data := rt.serializeToString (tx.transaction rt first) }).hashInput rt =
    some (tx.header.channelHeader, tx.header.signatureHeader, tx.proposal.payload) := by
  rw [Envelope.hashInput, parsedPayload_wrapTransaction hrt, actions_wrapTransaction hrt]
  show (rt.fromString ChaincodeActionPayload (rt.serializeToString (tx.actionPayload first)) >>= _) =
    _
  rw [hrt]
  rfl

/-- **The signed proposal and the committed transaction hash alike.** The signed proposal carries
the header of the unsigned one and its payload with the given transient map; without the map the
payload is byte for byte that of the unsigned proposal; and the envelope made of any responses
carries the same headers and that payload, so that endorsers and committers hash the same bytes. -/
theorem proposal_hash_agrees (hrt : rt.RoundTrip) {requestor : User} {ccName : String}
    {args : List Bytes} {channel : Option Channel} {transientMap : Option TransientMap}
    {nonce : Bytes} {timestamp : Timestamp} {tx : GeneratedTX}
    (h : buildGeneratedTx rt requestor ccName args channel transientMap nonce timestamp = .ok tx) :
    (∃ sp payload plain,
      tx.signedProposal.proposal rt = some sp ∧
      sp.header = tx.proposal.header ∧ rt.fromString Header sp.header = some tx.header ∧
      rt.fromString ChaincodeProposalPayload sp.payload = some payload ∧
      rt.fromString ChaincodeProposalPayload tx.proposal.payload = some plain ∧
      payload.transientMap = (transientMap.getD ∅).toFinmap ∧ payload.input = plain.input ∧
      rt.serializeToString { payload with transientMap := ∅ } = tx.proposal.payload) ∧
    ∀ rs ≠ [], ∀ submitter, ∃ envelope payload action actionPayload,
      buildEndorsedTxEnvelope rt (endorsedFrom tx rs) submitter = .ok envelope ∧
      envelope.parsedPayload rt = some payload ∧ payload.header = some tx.header ∧
      envelope.actions rt = some [action] ∧ action.header = tx.header.signatureHeader ∧
      rt.fromString ChaincodeActionPayload action.payload = some actionPayload ∧
      actionPayload.chaincodeProposalPayload = tx.proposal.payload ∧
      tx.signedProposal.hashInput rt = some
        (tx.header.channelHeader, tx.header.signatureHeader, tx.proposal.payload) ∧
      envelope.hashInput rt = tx.signedProposal.hashInput rt := by
  obtain ⟨header, -, rfl⟩ := buildGeneratedTx_cases h
  constructor
  · exact ⟨_, _, _, proposal_generatedWith hrt requestor ccName args transientMap nonce header, rfl,
      hrt _, hrt _, hrt _, rfl, rfl, rfl⟩
  · intro rs hrs submitter
    obtain ⟨first, rest, rfl⟩ := List.exists_cons_of_ne_nil hrs
    set tx := generatedWith rt requestor ccName args transientMap nonce header with htx
    have hresponses : (endorsedFrom tx (first :: rest)).peerResponses = first :: rest := rfl
    have hendorser : tx.signedProposal.hashInput rt = some
        (tx.header.channelHeader, tx.header.signatureHeader, tx.proposal.payload) :=
      hashInput_generatedWith hrt requestor ccName args transientMap nonce header
    -- A committer hashes the payload as it stands, an endorser without the map: they are the same.
    refine ⟨_, _, _, _, buildEndorsedTxEnvelope_of_cons rt hresponses submitter,
      parsedPayload_wrapTransaction hrt _ _, rfl, actions_wrapTransaction hrt _ _ _, rfl, hrt _, rfl,
      hendorser, ?_⟩
    rw [hashInput_wrapTransaction hrt, hendorser]
    rfl

/-- The keyed user's transaction with a transient entry, over the wire format. -/
theorem proposal_hash_agrees_secret :
    ∃ tx sp payload,
      buildGeneratedTx (wireRuntime id) keyedUser "cc" [[1]] (some ⟨"channel"⟩)
        (some (AList.singleton "secret" [42])) [9] {} = .ok tx ∧
      tx.signedProposal.proposal (wireRuntime id) = some sp ∧
      (wireRuntime id).fromString ChaincodeProposalPayload sp.payload = some payload ∧
      payload.transientMap = (AList.singleton "secret" [42]).toFinmap := by
  obtain ⟨⟨sp, payload, plain, hsp, -, -, hpayload, -, hmap, -⟩, -⟩ :=
    proposal_hash_agrees (wireRuntime_roundTrip id)
      (show buildGeneratedTx (wireRuntime id) keyedUser "cc" [[1]] (some ⟨"channel"⟩)
        (some (AList.singleton "secret" [42])) [9] {} = .ok _ from rfl)
  exact ⟨_, sp, payload, rfl, hsp, hpayload, hmap⟩

end Snakeskin
