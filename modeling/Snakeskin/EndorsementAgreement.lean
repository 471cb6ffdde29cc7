import Snakeskin.SignedMessages

/-! # Agreement of the endorsements

An endorser signs the payload of its own response. The envelope for the orderer carries one payload,
that of the first response, and the endorsements of all the responses. This file says when every
endorsement it carries is over the payload it carries. -/

namespace Snakeskin

open Wire

variable {rt : Runtime}

/-- The endorsed action of an envelope with one action. -/
def Envelope.endorsedAction (rt : Runtime) (envelope : Envelope) : Option ChaincodeEndorsedAction := do
  let actions ← envelope.actions rt
  let action ← actions.head?
  let actionPayload ← rt.fromString ChaincodeActionPayload action.payload
  actionPayload.action

/-- An endorsement comes from a response, and signs the payload of an action. -/
def Endorsement.SignsFor (payload : Bytes) (endorsement : Endorsement) (response : ProposalResponse) :
    Prop :=
  endorsement = response.endorsement ∧ response.payload = payload

/-- What a committer needs of an envelope: its endorsements are those of the responses, one by one,
and each response is one over the payload that the envelope carries. -/
def Envelope.EndorsementsSign (rt : Runtime) (rs : List ProposalResponse) (envelope : Envelope) :
    Prop :=
  ∃ action, envelope.endorsedAction rt = some action ∧
    List.Forall₂ (Endorsement.SignsFor action.proposalResponsePayload) action.endorsements rs

/-- Every envelope that a commit of the transaction would broadcast has its endorsements over its
payload; a commit that refuses to build one is fine. -/
def EndorsedTX.SubmitsSignedResult (rt : Runtime) (requestor : User) (tx : EndorsedTX) : Prop :=
  ∀ envelope, buildEndorsedTxEnvelope rt tx requestor = .ok envelope →
    envelope.EndorsementsSign rt tx.peerResponses

/-- The endorsed action of the envelope made of responses: the payload of the first, the
endorsements of all. -/
theorem endorsedAction_wrapTransaction (hrt : rt.RoundTrip) (user : User) (tx : EndorsedTX)
    (first : ProposalResponse) :
    (wrapTransaction rt user {
      header := some tx.header
      data := rt.serializeToString (tx.transaction rt first) }).endorsedAction rt =
    some {
      proposalResponsePayload := first.payload
      endorsements := tx.peerResponses.map (·.endorsement) } := by
  rw [Envelope.endorsedAction, actions_wrapTransaction hrt]
  show (rt.fromString ChaincodeActionPayload (rt.serializeToString (tx.actionPayload first)) >>= _) =
    _
  rw [hrt]
  rfl

/-- The endorsements of some responses sign a payload when it is that of each response. -/
theorem forall₂_signsFor_iff (payload : Bytes) (rs : List ProposalResponse) :
    List.Forall₂ (Endorsement.SignsFor payload) (rs.map (·.endorsement)) rs ↔
      ∀ r ∈ rs, r.payload = payload := by
  -- The endorsements are taken from the responses one by one, so only the payloads are compared.
  rw [List.forall₂_map_left_iff, List.forall₂_same]
  exact ⟨fun h r hr => (h r hr).2, fun h r hr => ⟨rfl, h r hr⟩⟩

/-- **When every submitted endorsement signs the submitted result**: exactly when all the responses
carry the payload of the first. Neither the status check nor the commit compares the payloads. -/
theorem submitsSignedResult_iff (hrt : rt.RoundTrip) (requestor : User) {tx : EndorsedTX}
    {first : ProposalResponse} {rest : List ProposalResponse}
    (h : tx.peerResponses = first :: rest) :
    tx.SubmitsSignedResult rt requestor ↔ ∀ r ∈ rest, r.payload = first.payload := by
  -- There is a first response, so a commit builds one envelope, with the payload of that response.
  have hbuild := buildEndorsedTxEnvelope_of_cons rt h requestor
  have haction := endorsedAction_wrapTransaction hrt requestor tx first
  have hall : (∀ r ∈ tx.peerResponses, r.payload = first.payload) ↔
      ∀ r ∈ rest, r.payload = first.payload := by
    rw [h]
    simp
  rw [← hall, ← forall₂_signsFor_iff]
  constructor
  · intro hsubmits
    obtain ⟨action, haction', hsigns⟩ := hsubmits _ hbuild
    rw [haction] at haction'
    cases haction'
    exact hsigns
  · intro hsigns envelope henvelope
    rw [hbuild] at henvelope
    cases henvelope
    exact ⟨_, haction, hsigns⟩

/-- A transaction whose two peers both answered with status 200, with different results. -/
def splitEndorsedTx : EndorsedTX where
  peerResponses := [
    { response := { status := 200 }, payload := [1], endorsement := { endorser := [10] } },
    { response := { status := 200 }, payload := [2], endorsement := { endorser := [20] } }]
  proposal := {}
  header := {}
  txContext := txContextFromUser (wireRuntime id) keyedUser [9]

/-- Different results under status 200 pass the status check, and are submitted with an endorsement
that does not sign the submitted one. -/
theorem splitEndorsedTx_submitted :
    raiseTxProposalError splitEndorsedTx "" = .ok () ∧
    (∃ envelope, buildEndorsedTxEnvelope (wireRuntime id) splitEndorsedTx keyedUser = .ok envelope) ∧
    ¬ splitEndorsedTx.SubmitsSignedResult (wireRuntime id) keyedUser := by
  refine ⟨rfl, ⟨_, rfl⟩, fun hsubmits => ?_⟩
  obtain ⟨action, haction, hsigns⟩ := hsubmits _ rfl
  have hdefault := endorsedAction_wrapTransaction (wireRuntime_roundTrip id) keyedUser splitEndorsedTx
    { response := { status := 200 }, payload := [1], endorsement := { endorser := [10] } }
  cases haction.symm.trans hdefault
  exact absurd ((forall₂_signsFor_iff [1] splitEndorsedTx.peerResponses).mp hsigns) (by decide)

/-- Two peers that agree on the result make an envelope whose endorsements both sign it. -/
theorem submitsSignedResult_iff_agreeing :
    EndorsedTX.SubmitsSignedResult (wireRuntime id) keyedUser {
      splitEndorsedTx with peerResponses := [
        { response := { status := 200 }, payload := [1], endorsement := { endorser := [10] } },
        { response := { status := 200 }, payload := [1], endorsement := { endorser := [20] } }] } :=
  (submitsSignedResult_iff (wireRuntime_roundTrip id) keyedUser rfl).mpr (by decide)

end Snakeskin
