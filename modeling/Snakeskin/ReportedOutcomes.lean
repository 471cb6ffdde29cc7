import Snakeskin.OperationOutcomes

/-! # What outcomes report

A transaction that was proposed has the responses of the peers, and so has the error that is raised
when a peer refuses it. This file gives what a caller reads off them: the payload of the response,
and the status, the message and the text of the error.

* `EndorsedTX.responsePayload` — the payload of the first response that endorses;
* `EndorsedTX.errorStatus`, `EndorsedTX.errorMessage` — what a proposal error says. -/

namespace Snakeskin

open Wire

/-! ## The model -/

namespace EndorsedTX

variable (tx : EndorsedTX)

/-- All peer responses with successful endorsement. -/
def successResponses : List ProposalResponse := tx.peerResponses.filter (·.response.status = 200)

/-- The response payload of the first valid peer response; raises when there is none. -/
def responsePayload : Except Exc Bytes :=
  match tx.successResponses.head? with
  | some resp => .ok resp.response.payload
  | none =>
      .error (.valueError "Could not find a response payload in any of the peer responses")

/-- `TransactionProposalError.status`. -/
def errorStatus : Int32 := (tx.errorResponses.head?.map (·.response.status)).getD 0

/-- `TransactionProposalError.response_message`. -/
def errorMessage : String :=
  ((tx.errorResponses.find? (·.response.message ≠ "")).map (·.response.message)).getD
    "<no error message>"

end EndorsedTX

/-- The text of a `TransactionError`. -/
def transactionErrorText (msg txId : String) (status : Int32) (responseMessage : String) : String :=
  s!"{msg} for tx {txId} (status: {status}): {responseMessage}"

/-- The text of an exception, if it is a `TransactionError`. -/
def Exc.transactionText : Exc → Option String
  | .trasactionCommitError msg txId response =>
      some (transactionErrorText msg txId response.status response.info)
  | .transactionProposalError msg tx =>
      some (transactionErrorText msg tx.txId tx.errorStatus tx.errorMessage)
  | _ => none

/-! ## What the responses say -/

/-- A response is the first that refuses. -/
def FirstRefusal (responses : List ProposalResponse) (refused : ProposalResponse) : Prop :=
  refused.response.status ≠ 200 ∧ ∃ before after, responses = before ++ refused :: after ∧
    ∀ resp ∈ before, resp.response.status = 200

/-- A message is that of the first response that refuses and gives one, or it says that there is
none. -/
def ReportedMessage (responses : List ProposalResponse) (message : String) : Prop :=
  (∃ before resp after, responses = before ++ resp :: after ∧ resp.response.status ≠ 200 ∧
      resp.response.message ≠ "" ∧ message = resp.response.message ∧
      ∀ resp ∈ before, resp.response.status = 200 ∨ resp.response.message = "") ∨
    (∀ resp ∈ responses, resp.response.status = 200 ∨ resp.response.message = "") ∧
      message = "<no error message>"

/-- A transaction that is not fully endorsed was refused first by some response. -/
theorem exists_firstRefusal {tx : EndorsedTX} (h : ¬ tx.fullyEndorsed = true) :
    ∃ refused, FirstRefusal tx.peerResponses refused := by
  have hsome : ∃ resp ∈ tx.peerResponses, resp.response.status ≠ 200 := by
    by_contra hnone
    push Not at hnone
    exact h ((EndorsedTX.fullyEndorsed_iff tx).mpr hnone)
  obtain ⟨resp, hresp, hrefuses⟩ := hsome
  cases hfind : tx.peerResponses.find? fun resp => resp.response.status ≠ 200 with
  | none => exact absurd (decide_eq_true hrefuses) (List.find?_eq_none.mp hfind resp hresp)
  | some refused =>
      obtain ⟨hrefused, before, after, hresponses, hbefore⟩ :=
        List.find?_eq_some_iff_append.mp hfind
      exact ⟨refused, of_decide_eq_true hrefused, before, after, hresponses, fun resp hresp => by
        simpa using hbefore resp hresp⟩

/-- The status of an error is that of the first refusal. -/
theorem FirstRefusal.errorStatus {tx : EndorsedTX} {refused : ProposalResponse}
    (h : FirstRefusal tx.peerResponses refused) : tx.errorStatus = refused.response.status := by
  obtain ⟨hrefused, before, after, hresponses, hbefore⟩ := h
  have hfind : tx.errorResponses.head? = some refused := by
    rw [EndorsedTX.errorResponses, List.head?_filter, List.find?_eq_some_iff_append]
    exact ⟨decide_eq_true hrefused, before, after, hresponses, fun resp hresp => by
      simp [hbefore resp hresp]⟩
  rw [EndorsedTX.errorStatus, hfind]
  rfl

/-- The message of an error is reported. -/
theorem reportedMessage_errorMessage (tx : EndorsedTX) :
    ReportedMessage tx.peerResponses tx.errorMessage := by
  unfold EndorsedTX.errorMessage EndorsedTX.errorResponses
  rw [List.find?_filter]
  generalize hfind : tx.peerResponses.find? _ = found
  cases found with
  | some resp =>
      obtain ⟨hresp, before, after, hresponses, hbefore⟩ := List.find?_eq_some_iff_append.mp hfind
      obtain ⟨hrefuses, hmessage⟩ : resp.response.status ≠ 200 ∧ resp.response.message ≠ "" := by
        simpa using hresp
      refine .inl ⟨before, resp, after, hresponses, hrefuses, hmessage, rfl, fun resp hresp => ?_⟩
      simpa using hbefore resp hresp
  | none =>
      refine .inr ⟨fun resp hresp => ?_, rfl⟩
      exact or_iff_not_imp_left.mpr (by simpa using List.find?_eq_none.mp hfind resp hresp)

/-- The payload of a transaction that is fully endorsed is that of its first response. -/
theorem responsePayload_of_fullyEndorsed {tx : EndorsedTX} (h : tx.fullyEndorsed = true)
    {first : ProposalResponse} {rest : List ProposalResponse}
    (hresponses : tx.peerResponses = first :: rest) :
    tx.responsePayload = .ok first.response.payload := by
  have hfirst : first.response.status = 200 :=
    (EndorsedTX.fullyEndorsed_iff tx).mp h first (by rw [hresponses]; exact List.mem_cons_self)
  have hsuccess : tx.successResponses.head? = some first := by
    rw [EndorsedTX.successResponses, hresponses, List.head?_filter]
    exact List.find?_cons_of_pos (decide_eq_true hfirst)
  rw [EndorsedTX.responsePayload, hsuccess]

/-! ## What is observed to be raised -/

variable (rt : Runtime) (network : Network)

/-- A sequence is observed to raise where its first part does, or where that returns and its second
part raises. -/
theorem observe_bind_eq_error {ε α β : Type} {c : Coro Unit Request Answer Note ε α}
    {f : α → Coro Unit Request Answer Note ε β} {e : ε} {sends : List Request} :
    (Coro.observe network (c.bind f) () sends).1 = .error e ↔
      (Coro.observe network c () sends).1 = .error e ∨
        ∃ a between, Coro.observe network c () sends = (.ok a, (), between) ∧
          (Coro.observe network (f a) () between).1 = .error e := by
  rw [Coro.observe_bind]
  rcases Coro.observe network c () sends with ⟨e' | a, ⟨⟩, between⟩
  · simp
  · simp

/-- Encoding a list of texts raises no exception of `errors.py`, by induction on the list. -/
theorem raisesBuiltin_mapM_encodeLatin1 (texts : List String) :
    RaisesBuiltin (texts.mapM encodeLatin1) := by
  induction texts with
  | nil => exact raisesBuiltin_ok _
  | cons text texts ih =>
      rw [List.mapM_cons]
      exact (raisesBuiltin_encodeLatin1 text).bind fun _ => ih.bind fun _ => raisesBuiltin_ok _

/-- Building a transaction raises no exception of `errors.py`. -/
theorem raisesBuiltin_buildGeneratedTx (requestor : User) (ccName : String) (args : List Bytes)
    (channel : Option Channel) (transientMap : Option TransientMap) (nonce : Bytes)
    (timestamp : Timestamp) : RaisesBuiltin
      (buildGeneratedTx rt requestor ccName args channel transientMap nonce timestamp) :=
  (raisesBuiltin_buildHeader rt _ _ _ _ _ _).bind fun _ => raisesBuiltin_ok _

/-- Generating a transaction raises no exception of `errors.py`. -/
theorem isBuiltin_of_generateCcTx {requestor : User} {ccName : String} {channel : Channel}
    {fcn : String} {args : Option (List String)} {transientMap : Option TransientMap}
    {sends : List Request} {e : Exc}
    (h : (Coro.observe network (generateCcTx rt requestor ccName channel fcn args transientMap) ()
      sends).1 = .error e) : e.isBuiltin = true := by
  obtain h | ⟨fullArgs, between, -, h⟩ := (observe_bind_eq_error network).mp h
  · rw [Coro.observe_ofExcept] at h
    exact raisesBuiltin_mapM_encodeLatin1 _ e h
  · obtain h | ⟨drawn, between, -, h⟩ := (observe_bind_eq_error network).mp h
    · cases h
    · rw [Coro.observe_ofExcept] at h
      exact raisesBuiltin_buildGeneratedTx rt _ _ _ _ _ _ _ e h

/-! ## Queries -/

/-- A proposal that is not returned was not refused: it was not made, or it did not reach a peer. -/
theorem ne_proposalError_of_proposeTx {peers : List Peer} {generatedTx : GeneratedTX}
    {sends : List Request} {msg : String} {tx : EndorsedTX} :
    (Coro.observe network (proposeTx peers generatedTx) () sends).1 ≠
      .error (.transactionProposalError msg tx) := by
  intro h
  by_cases hpeers : peers = []
  · rw [proposeTx, if_pos hpeers] at h
    cases h
  · rw [observe_proposeTx network hpeers] at h
    obtain ⟨i, hfailed, -⟩ := gather_ofFn_eq_error.mp (map_eq_error.mp h)
    obtain ⟨error, -, hexc⟩ := processProposalOnPeer_eq_error.mp hfailed
    cases hexc

/-- The check raises the error of the transaction that is not fully endorsed. -/
theorem raiseTxProposalError_eq_error {endorsedTx : EndorsedTX} {msg : String} {e : Exc} :
    raiseTxProposalError endorsedTx msg = .error e ↔
      ¬ endorsedTx.fullyEndorsed = true ∧ e = .transactionProposalError msg endorsedTx := by
  unfold raiseTxProposalError
  by_cases hendorsed : endorsedTx.fullyEndorsed = true
  · rw [if_pos hendorsed]
    exact iff_of_false (fun h => by cases h) fun h => h.1 hendorsed
  · rw [if_neg hendorsed, Except.error.injEq, and_iff_right hendorsed, eq_comm]

/-- A transaction is generated for a call and proposed, and each of the peers answers: with its
responses the transaction is as endorsed. -/
def AnsweredCall (requestor : User) (peers : List Peer) (channel : Channel) (ccName fcn : String)
    (args : Option (List String)) (transientMap : Option TransientMap) (sends : List Request)
    (generatedTx : GeneratedTX) (tx : EndorsedTX) : Prop :=
  ∃ between, Coro.observe network (generateCcTx rt requestor ccName channel fcn args transientMap) ()
      sends = (.ok generatedTx, (), between) ∧
    AnsweredByAll network peers generatedTx between tx

/-- A query returns when every peer endorses what is generated. -/
theorem observe_query_eq_ok {requestor : User} {peers : List Peer} {channel : Channel}
    {ccName fcn : String} {args : Option (List String)} {transientMap : Option TransientMap}
    {sends : List Request} {tx : EndorsedTX} :
    (Coro.observe network (query rt requestor peers channel ccName fcn args transientMap) ()
        sends).1 = .ok tx ↔
      peers ≠ [] ∧ tx.fullyEndorsed = true ∧ ∃ generatedTx, AnsweredCall rt network requestor peers
        channel ccName fcn args transientMap sends generatedTx tx := by
  constructor
  · intro h
    have hall : Coro.observe network (query rt requestor peers channel ccName fcn args
        transientMap) () sends = (.ok tx, (), _) := Prod.ext h rfl
    obtain ⟨generatedTx, between, hgenerated, hrest⟩ := (observe_bind_eq_ok network).mp hall
    obtain ⟨endorsed, between', hproposed, hrest⟩ := (observe_bind_eq_ok network).mp hrest
    obtain ⟨⟨⟩, _, hchecked, hret⟩ := (observe_bind_eq_ok network).mp hrest
    cases hret
    obtain ⟨hraise, -⟩ := (observe_ofExcept_eq_ok network).mp hchecked
    obtain ⟨hpeers, hanswered, -⟩ := (observe_proposeTx_eq_ok network).mp hproposed
    exact ⟨hpeers, raiseTxProposalError_eq_ok.mp hraise, generatedTx, between, hgenerated,
      hanswered⟩
  · rintro ⟨hpeers, hendorsed, generatedTx, between, hgenerated, hanswered⟩
    have hproposed := (observe_proposeTx_eq_ok network).mpr ⟨hpeers, hanswered, rfl⟩
    have hraise : raiseTxProposalError tx
        s!"Failed to query chaincode {ccName} with function {fcn}" = .ok () :=
      raiseTxProposalError_eq_ok.mpr hendorsed
    exact congrArg Prod.fst ((observe_bind_eq_ok network).mpr ⟨generatedTx, between, hgenerated,
      (observe_bind_eq_ok network).mpr ⟨tx, _, hproposed, (observe_bind_eq_ok network).mpr
        ⟨(), _, (observe_ofExcept_eq_ok network).mpr ⟨hraise, rfl⟩, rfl⟩⟩⟩)

/-- A query raises a proposal error when every peer answers and one of them refuses. -/
theorem observe_query_eq_proposalError {requestor : User} {peers : List Peer} {channel : Channel}
    {ccName fcn msg : String} {args : Option (List String)} {transientMap : Option TransientMap}
    {sends : List Request} {tx : EndorsedTX} :
    (Coro.observe network (query rt requestor peers channel ccName fcn args transientMap) ()
        sends).1 = .error (.transactionProposalError msg tx) ↔
      peers ≠ [] ∧ ¬ tx.fullyEndorsed = true ∧
        msg = s!"Failed to query chaincode {ccName} with function {fcn}" ∧ ∃ generatedTx,
          AnsweredCall rt network requestor peers channel ccName fcn args transientMap sends
            generatedTx tx := by
  constructor
  · intro h
    obtain h | ⟨generatedTx, between, hgenerated, h⟩ := (observe_bind_eq_error network).mp h
    · cases isBuiltin_of_generateCcTx rt network h
    obtain h | ⟨endorsed, between', hproposed, h⟩ := (observe_bind_eq_error network).mp h
    · exact absurd h (ne_proposalError_of_proposeTx network)
    obtain h | ⟨⟨⟩, _, -, h⟩ := (observe_bind_eq_error network).mp h
    · rw [Coro.observe_ofExcept] at h
      obtain ⟨hrefused, he⟩ := raiseTxProposalError_eq_error.mp h
      cases he
      obtain ⟨hpeers, hanswered, -⟩ := (observe_proposeTx_eq_ok network).mp hproposed
      exact ⟨hpeers, hrefused, rfl, generatedTx, between, hgenerated, hanswered⟩
    · cases h
  · rintro ⟨hpeers, hrefused, rfl, generatedTx, between, hgenerated, hanswered⟩
    refine (observe_bind_eq_error network).mpr (.inr ⟨generatedTx, between, hgenerated,
      (observe_bind_eq_error network).mpr (.inr ⟨tx, _, (observe_proposeTx_eq_ok network).mpr
        ⟨hpeers, hanswered, rfl⟩, (observe_bind_eq_error network).mpr (.inl ?_)⟩)⟩)
    rw [Coro.observe_ofExcept]
    exact raiseTxProposalError_eq_error.mpr ⟨hrefused, rfl⟩

/-- **What a query reports**, for every network. When it returns, every peer has answered, and the
payload that is read off the transaction is that of the first peer. When it raises a proposal error,
every peer has answered as well; the text of the error names the transaction that was generated, the
status of the first peer that refused it, and the first message that was given by a peer that
refused. -/
theorem query_reports (requestor : User) (peers : List Peer) (channel : Channel)
    (ccName fcn : String) (args : Option (List String)) (transientMap : Option TransientMap)
    (sends : List Request) :
    let outcome := Coro.observe network
      (query rt requestor peers channel ccName fcn args transientMap) () sends
    (∀ tx, outcome.1 = .ok tx → ∃ generatedTx first rest,
      AnsweredCall rt network requestor peers channel ccName fcn args transientMap sends generatedTx
        tx ∧
      tx.peerResponses = first :: rest ∧ tx.responsePayload = .ok first.response.payload) ∧
    ∀ msg tx, outcome.1 = .error (.transactionProposalError msg tx) →
      ∃ generatedTx refused message,
        AnsweredCall rt network requestor peers channel ccName fcn args transientMap sends generatedTx
          tx ∧
        FirstRefusal tx.peerResponses refused ∧ ReportedMessage tx.peerResponses message ∧
        (Exc.transactionProposalError msg tx).transactionText = some (transactionErrorText
          s!"Failed to query chaincode {ccName} with function {fcn}" generatedTx.txId
          refused.response.status message) := by
  intro outcome
  constructor
  · intro tx h
    obtain ⟨hpeers, hendorsed, generatedTx, between, hgenerated, hanswered⟩ :=
      (observe_query_eq_ok rt network).mp h
    cases hresponses : tx.peerResponses with
    | nil =>
        obtain ⟨responses, -, rfl⟩ := hanswered
        exact absurd (List.eq_nil_of_length_eq_zero (List.ofFn_eq_nil_iff.mp hresponses)) hpeers
    | cons first rest =>
        exact ⟨generatedTx, first, rest, ⟨between, hgenerated, hanswered⟩, rfl,
          responsePayload_of_fullyEndorsed hendorsed hresponses⟩
  · intro msg tx h
    obtain ⟨-, hrefused, rfl, generatedTx, between, hgenerated, hanswered⟩ :=
      (observe_query_eq_proposalError rt network).mp h
    obtain ⟨refused, hfirst⟩ := exists_firstRefusal hrefused
    refine ⟨generatedTx, refused, tx.errorMessage, ⟨between, hgenerated, hanswered⟩, hfirst,
      reportedMessage_errorMessage tx, ?_⟩
    have htxId : tx.txId = generatedTx.txId := by
      obtain ⟨responses, -, rfl⟩ := hanswered
      rfl
    rw [Exc.transactionText, hfirst.errorStatus, htxId]

/-- A network in which the second of the peers refuses without a message, and those after it with
one. -/
def refusingNetwork : Network
  | _, .entropy => ([9], {})
  | _, .processProposals _ _ =>
      ⟨fun i => .ok { response :=
        if i.val = 0 then { status := 200, payload := [1] }
        else if i.val = 1 then { status := 500 }
        else { status := 404, message := "not found" } }, fun _ => 0⟩
  | _, .broadcast _ _ => ⟨[], .closed⟩
  | _, .deliverFiltered _ _ => ⟨[], .closed⟩
  | _, .deliver _ _ => ⟨[], .closed⟩

/-- Of three peers of that network the first endorses a query; the error has the status of the
second and the message of the third. -/
theorem query_reports_refusingNetwork :
    let peers : List Peer := [{ endpoint := "a" }, { endpoint := "b" }, { endpoint := "c" }]
    let outcome := (Coro.observe refusingNetwork (query (wireRuntime id) keyedUser peers ⟨"channel"⟩
      "cc" "get" none none) () []).1
    ∃ msg tx txId, outcome = .error (.transactionProposalError msg tx) ∧
      (Exc.transactionProposalError msg tx).transactionText = some (transactionErrorText
        "Failed to query chaincode cc with function get" txId 500 "not found") := by
  intro peers outcome
  let ccName := "cc"
  let fcn := "get"
  have hok : (Coro.observe refusingNetwork (generateCcTx (wireRuntime id) keyedUser "cc"
      ⟨"channel"⟩ "get" none none) () []).1.toOption.isSome = true := by decide +kernel
  obtain ⟨generated, hgenerated⟩ := exists_ok_of_isSome hok
  let responses : Fin peers.length → ProposalResponse := fun i => { response :=
    if i.val = 0 then { status := 200, payload := [1] }
    else if i.val = 1 then { status := 500 }
    else { status := 404, message := "not found" } }
  have hraised : outcome = .error (.transactionProposalError
      s!"Failed to query chaincode {ccName} with function {fcn}"
      (endorsedFrom generated (List.ofFn responses))) :=
    (observe_query_eq_proposalError _ _).mpr ⟨List.cons_ne_nil _ _, Bool.false_ne_true, rfl,
      generated, _, Prod.ext hgenerated rfl, responses, fun _ => rfl, rfl⟩
  obtain ⟨generatedTx, refused, message, -, hrefused, hmessage, htext⟩ :=
    (query_reports (wireRuntime id) refusingNetwork keyedUser peers ⟨"channel"⟩ "cc" "get" none none
      []).2 _ _ hraised
  have hstatus : refused.response.status = 500 := hrefused.errorStatus.symm
  have hnotFound : message = "not found" := by
    obtain ⟨before, resp, after, hsplit, hresp, hne, rfl, -⟩ | ⟨hall, -⟩ := hmessage
    · -- The first response does not refuse, and the second gives no message.
      rcases before with _ | ⟨first, _ | ⟨second, _ | ⟨third, before⟩⟩⟩
      · cases hsplit
        exact absurd rfl hresp
      · cases hsplit
        exact absurd rfl hne
      · cases hsplit
        rfl
      · cases before <;> cases hsplit
    · have hlast := hall (responses 2) (List.mem_ofFn.mpr ⟨2, rfl⟩)
      exact absurd hlast (by decide)
  rw [hstatus, hnotFound] at htext
  exact ⟨_, _, generatedTx.txId, hraised, htext⟩

end Snakeskin
