import Snakeskin.Connect
import Snakeskin.Events
import Snakeskin.Library.Hoare

/-! # Proposing and committing transactions

The functions of `transact.py`: generating a chaincode transaction, proposing it to peers,
committing what they endorsed, and waiting for the commit. -/

namespace Snakeskin

open Wire

variable (rt : Runtime)

/-- Generates an invoke transaction. -/
def generateCcTx (requestor : User) (ccName : String) (channel : Channel) (fcn : String)
    (args : Option (List String)) (transientMap : Option TransientMap) :
    Async Unit GeneratedTX := do
  let fullArgs ← Coro.ofExcept ((fcn :: args.getD []).mapM encodeProtoBytes)
  let (nonce, timestamp) : Bytes × Timestamp ← Coro.request Request.entropy
  Coro.ofExcept
    (buildGeneratedTx rt requestor ccName fullArgs (some channel) transientMap nonce timestamp)

/-- The result object of `proposeTx`: a generated transaction with the responses of the peers. -/
def endorsedFrom (generatedTx : GeneratedTX) (peerResponses : List ProposalResponse) :
    EndorsedTX where
  peerResponses := peerResponses
  header := generatedTx.header
  proposal := generatedTx.proposal
  txContext := generatedTx.txContext

/-- Executes a transaction proposal across all provided peers, raising an error if any of the peers
fails to propose the transaction. -/
def proposeTx (peers : List Peer) (generatedTx : GeneratedTX) : Async Unit EndorsedTX :=
  if peers = [] then Coro.raise (.valueError "Must provide at least one peer to propose a tx")
  else do
    let answers : ProposalAnswers peers.length ←
      Coro.request (Request.processProposals generatedTx.signedProposal peers)
    -- All the peers are asked at once; the first to fail decides what is raised.
    let peerResponses ← Coro.ofExcept (gather (List.ofFn fun i =>
      (processProposalOnPeer (answers.result i), answers.arrival i)))
    return endorsedFrom generatedTx peerResponses

/-- Sends an endorsed transaction to the orderers for committing, raising an error if there is a
synchronous error response from the orderer. -/
def commitTx (requestor : User) (orderers : List Orderer) (endorsedTx : EndorsedTX) :
    Async Unit (Option BroadcastResponse) := do
  let envelope ← Coro.ofExcept (buildEndorsedTxEnvelope rt endorsedTx requestor)
  broadcastToOrderers envelope orderers endorsedTx.txId

/-- Raises a `TransactionProposalError` if any of the peer responses is a failure. -/
def raiseTxProposalError (endorsedTx : EndorsedTX) (msg : String) : Except Exc Unit :=
  if endorsedTx.fullyEndorsed then .ok () else .error (.transactionProposalError msg endorsedTx)

/-- Commits a transaction and checks that it committed successfully on the first peer. -/
def commitTxAndWait (requestor : User) (channel : Channel) (peers : List Peer)
    (orderers : List Orderer) (endorsedTx : EndorsedTX) (timeout : Int) : Async Unit Unit := do
  let _ ← commitTx rt requestor orderers endorsedTx
  match peers with
  | [] => Coro.raise (.indexError "list index out of range")
  -- Only the first peer is asked, and there is no failover.
  | peer :: _ =>
      let _ ← checkTransaction rt requestor (some channel) peer endorsedTx.txContext.txId timeout
        none .blockUntilReady
      return ()

@[simp] theorem txId_endorsedFrom (generatedTx : GeneratedTX) (rs : List ProposalResponse) :
    (endorsedFrom generatedTx rs).txId = generatedTx.txId := rfl

/-- The check lets a fully endorsed transaction pass, and no other. -/
theorem raiseTxProposalError_eq_ok {endorsedTx : EndorsedTX} {msg : String} :
    raiseTxProposalError endorsedTx msg = .ok () ↔ endorsedTx.fullyEndorsed = true := by
  unfold raiseTxProposalError
  split <;> simp_all

/-! ## What they send

Whatever the network answers, a proposal sends only the proposal, a commit only broadcasts, and a
commit wait only opens filtered streams. -/

/-- The event is the sending of a proposal. -/
def Event.IsProposal : Event → Prop
  | .inl (.processProposals _ _) => True
  | _ => False

/-- The event is a broadcast to an orderer. -/
def Event.IsBroadcast : Event → Prop
  | .inl (.broadcast _ _) => True
  | _ => False

/-- The event is the opening of a filtered stream. -/
def Event.IsDeliver : Event → Prop
  | .inl (.deliverFiltered _ _) => True
  | _ => False

/-- The event is the drawing of a nonce. -/
def Event.IsEntropy : Event → Prop
  | .inl .entropy => True
  | _ => False

/-- The event opens the filtered stream of a peer with the envelope of the hub for a start. -/
def Event.OpensStream (requestor : User) (channel : Option Channel) (start : Option Int)
    (behavior : SeekBehavior) (e : Event) : Prop :=
  ∃ peer nonce timestamp envelope, e = .inl (.deliverFiltered peer envelope) ∧
    (peerFilteredEvents requestor channel peer).getConnectionEnvelope rt behavior start
      (some INDEFINITE_STOP_POSITION) nonce timestamp = .ok envelope

/-- A proposal returns the generated transaction with some responses. -/
theorem ensures_proposeTx (peers : List Peer) (generatedTx : GeneratedTX) :
    Coro.Ensures Event.IsProposal (fun tx _ => ∃ rs, tx = endorsedFrom generatedTx rs)
      (fun _ _ => True) (proposeTx peers generatedTx) () := by
  unfold proposeTx
  split
  · trivial
  · refine Coro.Ensures.request_bind trivial fun answers => ?_
    refine Coro.Ensures.bind (Coro.Ensures.ofExcept ?_ fun _ _ => trivial)
    intro rs _
    exact ⟨rs, rfl⟩

/-- A broadcast to one orderer emits broadcasts. -/
theorem ensures_broadcastToOrderer (envelope : Envelope) (orderer : Orderer) (txId : String) :
    Coro.Ensures Event.IsBroadcast (fun _ _ => True) (fun _ _ => True)
      (broadcastToOrderer envelope orderer txId) () :=
  Coro.Ensures.request_bind trivial fun _ =>
    Coro.Ensures.ofExcept (fun _ _ => trivial) fun _ _ => trivial

/-- The failover over orderers emits broadcasts, by induction on the list. -/
theorem ensures_broadcastLoop (envelope : Envelope) (txId : String) (error : Exc)
    (orderers : List Orderer) :
    Coro.Ensures Event.IsBroadcast (fun _ _ => True) (fun _ _ => True)
      (broadcastLoop envelope txId error orderers) () := by
  induction orderers generalizing error with
  | nil => trivial
  | cons orderer orderers ih =>
      refine Coro.Ensures.tryCatch (Coro.Ensures.mono (fun _ h => h) (fun _ _ h => h) ?_
        (ensures_broadcastToOrderer envelope orderer txId))
      intro err _ _
      split
      · exact ih _
      · trivial

/-- So does the broadcast to a list of orderers. -/
theorem ensures_broadcastToOrderers (envelope : Envelope) (orderers : List Orderer)
    (txId : String) :
    Coro.Ensures Event.IsBroadcast (fun _ _ => True) (fun _ _ => True)
      (broadcastToOrderers envelope orderers txId) () := by
  unfold broadcastToOrderers
  split
  · trivial
  · exact ensures_broadcastLoop _ _ _ _

/-- A commit emits broadcasts. -/
theorem ensures_commitTx (requestor : User) (orderers : List Orderer) (endorsedTx : EndorsedTX) :
    Coro.Ensures Event.IsBroadcast (fun _ _ => True) (fun _ _ => True)
      (commitTx rt requestor orderers endorsedTx) () :=
  Coro.Ensures.bind (Coro.Ensures.ofExcept
    (fun envelope _ => ensures_broadcastToOrderers envelope orderers endorsedTx.txId)
    fun _ _ => trivial)

/-- An envelope that is built in a coroutine is that of some nonce and time, which it draws. -/
theorem ensures_drawConnectionEnvelope (hub : EventHub) (behavior : SeekBehavior)
    (start stop : Option Int) :
    Coro.Ensures Event.IsEntropy
      (fun envelope _ => ∃ nonce timestamp,
        hub.getConnectionEnvelope rt behavior start stop nonce timestamp = .ok envelope)
      (fun _ _ => True) (hub.drawConnectionEnvelope rt behavior start stop) () := by
  refine Coro.Ensures.bind (Coro.Ensures.ofExcept (fun seekInfo hinfo => ?_) fun _ _ => trivial)
  refine Coro.Ensures.request_bind trivial fun drawn => Coro.Ensures.ofExcept ?_ fun _ _ => trivial
  intro envelope henvelope
  exact ⟨drawn.1, drawn.2, bind_eq_ok.mpr ⟨seekInfo, hinfo, henvelope⟩⟩

/-- The search of a transaction draws a nonce and opens one stream, and what it returns has the id
it searched for. -/
theorem ensures_getTransaction (requestor : User) (channel : Option Channel) (peer : Peer)
    (txId : String) (start : Option Int) (behavior : SeekBehavior) :
    Coro.Ensures
      (fun e => Event.IsEntropy e ∨ Event.OpensStream rt requestor channel start behavior e)
      (fun tx _ => tx.txId = txId) (fun _ _ => True)
      (getTransaction rt requestor channel peer txId start behavior) () := by
  refine Coro.Ensures.bind (Coro.Ensures.mono (fun _ => Or.inl) ?_ (fun _ _ _ => trivial)
    (ensures_drawConnectionEnvelope rt _ behavior start (some INDEFINITE_STOP_POSITION)))
  rintro envelope _ ⟨nonce, timestamp, henvelope⟩
  refine Coro.Ensures.request_bind
    (Or.inr ⟨peer, nonce, timestamp, envelope, rfl, henvelope⟩) fun _ => ?_
  exact Coro.Ensures.ofExcept (fun _ h => txId_of_searchTransaction h) fun _ _ => trivial

/-- A timeout adds nothing to what a coroutine emits and returns. -/
theorem ensures_waitFor {α : Type} {P : Event → Prop} {S : α → Prop} {c : Async Unit α}
    (timeout : Int) (h : Coro.Ensures P (fun a _ => S a) (fun _ _ => True) c ()) :
    Coro.Ensures P (fun a _ => S a) (fun _ _ => True) (waitFor c timeout) () := by
  unfold waitFor
  split
  · trivial
  · refine Coro.Ensures.tryCatch (Coro.Ensures.mono (fun _ h => h) (fun _ _ h => h) ?_ h)
    intro e _ _
    split <;> trivial

/-- The check of a transaction emits what the search does. -/
theorem ensures_checkTransaction (requestor : User) (channel : Option Channel) (peer : Peer)
    (txId : String) (timeout : Int) (start : Option Int) (behavior : SeekBehavior) :
    Coro.Ensures
      (fun e => Event.IsEntropy e ∨ Event.OpensStream rt requestor channel start behavior e)
      (fun tx _ => tx.txId = txId) (fun _ _ => True)
      (checkTransaction rt requestor channel peer txId timeout start behavior) () := by
  refine Coro.Ensures.bind (Coro.Ensures.mono (fun _ h => h) ?_ (fun _ _ h => h)
    (ensures_waitFor timeout
      (ensures_getTransaction rt requestor channel peer txId start behavior)))
  intro tx _ htx
  split
  · trivial
  · exact htx

end Snakeskin
