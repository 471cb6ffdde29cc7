import Snakeskin.Gateway
import Snakeskin.Library.Hoare

/-! # The two high-level paths

`operations.invoke` is a straight line; `Gateway.invoke` queues operations on a builder and awaits
them. This file shows what a builder with these operations amounts to, `invokeWithFailover`, and
compares the two paths under every network: they send the same and end alike, but for the failover
over the peers in the commit wait. -/

namespace Snakeskin

open Wire

variable (rt : Runtime) (network : Network)

/-! ## A builder as a straight line -/

/-- The commit wait of a builder without its state: the first peer of the list whose stream does not
fail decides. -/
def checkWithFailover (requestor : User) (channel : Option Channel) (txId : String) (timeout : Int) :
    (error : Exc) → List Peer → Async Unit FilteredTX
  | error, [] => Coro.raise error
  | _, peer :: peers =>
      (checkTransaction rt requestor channel peer txId timeout none .blockUntilReady).tryCatch
        fun err =>
          if err.isStreamFailure then checkWithFailover requestor channel txId timeout err peers
          else Coro.raise err

/-- A proposal and its check. -/
def proposeChecked (peers : List Peer) (generatedTx : GeneratedTX) (msg : String) :
    Async Unit EndorsedTX := do
  let endorsedTx ← proposeTx peers generatedTx
  Coro.ofExcept (raiseTxProposalError endorsedTx msg)
  return endorsedTx

/-- What `Gateway.invoke` does once its transaction is generated. -/
def invokeWithFailover (requestor : User) (gateway : Gateway) (generatedTx : GeneratedTX)
    (timeout : Int) : Async Unit EndorsedTX := do
  let endorsedTx ← proposeChecked gateway.endorsingPeers generatedTx
    "A peer failed to endorse the transaction"
  let _ ← commitTx rt requestor gateway.orderers endorsedTx
  let _ ← checkWithFailover rt requestor gateway.channel endorsedTx.txId timeout
    (.blockchainError "Failed waiting for committed transaction") gateway.endorsingPeers
  return endorsedTx

variable {L : Type} (builder : GatewayTXBuilder)

/-- A propose operation is observed to propose, to store the result, and to check it. -/
theorem observe_propose (s : BuilderState L) (sends : List Request) :
    Coro.observe network (builder.propose true) s sends =
      match Coro.observe network
        (proposeTx builder.gateway.endorsingPeers builder.transaction) () sends with
      | (.ok endorsedTx, _, sends) =>
          (raiseTxProposalError endorsedTx "A peer failed to endorse the transaction",
            { s with endorsedTx := some endorsedTx }, sends)
      | (.error e, _, sends) => (.error e, s, sends) := by
  simp only [GatewayTXBuilder.propose, Coro.bind_eq, Coro.observe_bind, Coro.observe_lift]
  -- A proposal that raises leaves the builder as it was.
  rcases Coro.observe network (proposeTx builder.gateway.endorsingPeers builder.transaction) ()
    sends with ⟨_ | endorsedTx, _, sends'⟩
  · rfl
  · simp

/-- A submit operation of a proposed transaction is observed to commit it. -/
theorem observe_submit {requestor : User} (hrequestor : builder.gateway.requestor = some requestor)
    {s : BuilderState L} {endorsedTx : EndorsedTX} (hs : s.endorsedTx = some endorsedTx)
    (sends : List Request) :
    Coro.observe network (builder.submit rt) s sends =
      match Coro.observe network (commitTx rt requestor builder.gateway.orderers endorsedTx) ()
        sends with
      | (.ok _, _, sends) => (.ok (), { s with committed := true }, sends)
      | (.error e, _, sends) => (.error e, s, sends) := by
  simp only [GatewayTXBuilder.submit, Coro.bind_eq, Coro.observe_bind, Coro.observe_read, hs,
    Coro.observe_annotate, Coro.observe_lift, GatewayTXBuilder.commit, hrequestor]
  rcases Coro.observe network (commitTx rt requestor builder.gateway.orderers endorsedTx) ()
    sends with ⟨_ | response, _, sends'⟩
  · rfl
  · simp only [Coro.observe_modify, hs]

/-- The loop over the peers is observed to wait with failover and to store what it finds, by
induction on the peers. -/
theorem observe_waitLoop {requestor : User} (hrequestor : builder.gateway.requestor = some requestor)
    {s : BuilderState L} {endorsedTx : EndorsedTX} (hs : s.endorsedTx = some endorsedTx)
    (timeout : Int) (error : Exc) (peers : List Peer) (sends : List Request) :
    Coro.observe network (builder.waitLoop rt true timeout error peers) s sends =
      match Coro.observe network (checkWithFailover rt requestor builder.gateway.channel
        endorsedTx.txId timeout error peers) () sends with
      | (.ok filteredTx, _, sends) => (.ok (), { s with filteredTx := some filteredTx }, sends)
      | (.error e, _, sends) => (.error e, s, sends) := by
  induction peers generalizing error sends with
  | nil => rfl
  | cons peer peers ih =>
      simp only [GatewayTXBuilder.waitLoop, GatewayTXBuilder.waitOnPeer, checkWithFailover,
        Coro.observe_tryCatch, Coro.bind_eq, Coro.observe_bind, Coro.observe_read, hs,
        Coro.observe_lift, GatewayTXBuilder.awaitTransaction, hrequestor, if_true]
      rcases Coro.observe network (checkTransaction rt requestor builder.gateway.channel peer
        endorsedTx.txId timeout none .blockUntilReady) () sends with ⟨e | filteredTx, ⟨⟩, sends'⟩
      · -- The peer failed: the next one is tried after a stream failure only.
        by_cases he : e.isStreamFailure
        · simp only [he, if_true]
          simpa only [hs] using ih e sends'
        · simp only [he, if_false, Bool.false_eq_true]
          rfl
      · simp only [Coro.observe_modify, hs]

/-- **A builder with propose, submit and wait queued** is observed to do what the straight line
does. -/
theorem observe_awaitNew_invoke {requestor : User}
    (hrequestor : builder.gateway.requestor = some requestor) (timeout : Int)
    (sends : List Request) :
    Coro.observe network
        (builder.awaitNew rt [.propose true, .submit, .waitForCommit true timeout]) () sends =
      Coro.observe network
        (invokeWithFailover rt requestor builder.gateway builder.transaction timeout) () sends := by
  simp only [GatewayTXBuilder.awaitNew, Coro.observe_withState, GatewayTXBuilder.runOperations,
    List.zipIdx_cons, List.zipIdx_nil, List.foldl_cons, List.foldl_nil,
    GatewayTXBuilder.addOperation, Coro.bind_eq, Coro.observe_bind, Coro.observe_read,
    GatewayTXBuilder.runLoop, Coro.observe_annotate, GatewayTXBuilder.operate, observe_propose,
    invokeWithFailover, proposeChecked, List.cons_append, List.nil_append]
  rcases Coro.observe network (proposeTx builder.gateway.endorsingPeers builder.transaction) ()
    sends with ⟨e | endorsedTx, ⟨⟩, sends⟩
  · rfl
  simp only [Coro.observe_ofExcept]
  rcases raiseTxProposalError endorsedTx "A peer failed to endorse the transaction" with e | _
  · rfl
  -- From here on the builder holds the endorsed transaction.
  simp only [Coro.pure_eq, Coro.observe_ret]
  rw [observe_submit rt network builder hrequestor rfl]
  rcases Coro.observe network (commitTx rt requestor builder.gateway.orderers endorsedTx) ()
    sends with ⟨e | response, ⟨⟩, sends⟩
  · rfl
  simp only [GatewayTXBuilder.waitForCommit, Coro.bind_eq, Coro.observe_bind, Coro.observe_read,
    if_true]
  rw [observe_waitLoop rt network builder hrequestor rfl]
  rcases Coro.observe network (checkWithFailover rt requestor builder.gateway.channel
    endorsedTx.txId timeout (.blockchainError "Failed waiting for committed transaction")
    builder.gateway.endorsingPeers) () sends with ⟨e | filteredTx, ⟨⟩, sends⟩
  · rfl
  · rfl

/-- **A builder with a propose queued** is observed to propose and check. -/
theorem observe_awaitNew_query (sends : List Request) :
    Coro.observe network (builder.awaitNew rt [.propose true]) () sends =
      Coro.observe network (proposeChecked builder.gateway.endorsingPeers builder.transaction
        "A peer failed to endorse the transaction") () sends := by
  simp only [GatewayTXBuilder.awaitNew, Coro.observe_withState, GatewayTXBuilder.runOperations,
    List.zipIdx_cons, List.zipIdx_nil, List.foldl_cons, List.foldl_nil,
    GatewayTXBuilder.addOperation, Coro.bind_eq, Coro.observe_bind, Coro.observe_read,
    GatewayTXBuilder.runLoop, Coro.observe_annotate, GatewayTXBuilder.operate, observe_propose,
    proposeChecked]
  rcases Coro.observe network (proposeTx builder.gateway.endorsingPeers builder.transaction) ()
    sends with ⟨e | endorsedTx, ⟨⟩, sends⟩
  · rfl
  simp only [Coro.observe_ofExcept]
  rcases raiseTxProposalError endorsedTx "A peer failed to endorse the transaction" with e | _
  · rfl
  · rfl

/-! ## Where stream failures come from

Neither the builders of messages nor the timeout raise a connection or a retrieval error: in a
commit wait such an error is that of the stream. -/

/-- A computation that does not fail the way a stream does. -/
def NoStreamFailure {α : Type} (x : Except Exc α) : Prop :=
  ∀ e, x = .error e → e.isStreamFailure = false

/-- Encoding text fails with an encoding error, by induction on the text. -/
theorem raisesBuiltin_encodeLatin1 (val : String) : RaisesBuiltin (encodeLatin1 val) := by
  unfold encodeLatin1
  generalize val.toList = chars
  induction chars with
  | nil => exact raisesBuiltin_ok _
  | cons c chars ih =>
      rw [List.mapM_cons]
      refine RaisesBuiltin.bind ?_ fun _ => ih.bind fun _ => raisesBuiltin_ok _
      split
      · exact raisesBuiltin_ok _
      · intro e h
        cases h
        rfl

/-- Encoding text as UTF-8 fails with an encoding error. -/
theorem raisesBuiltin_encodeProtoStr (val : String) : RaisesBuiltin (encodeProtoStr val) := by
  refine (raisesBuiltin_encodeLatin1 val).bind fun bytes => ?_
  unfold decodeUtf8
  split
  · exact raisesBuiltin_ok _
  · intro e h
    cases h
    rfl

/-- Decoding base64 fails with a padding error, by induction on the data. -/
theorem raisesBuiltin_a2bBase64 (quadPos left pads : Nat) (data : Bytes) :
    RaisesBuiltin (a2bBase64 quadPos left pads data) := by
  have hmap : ∀ {f : Bytes → Bytes} {x : Except Exc Bytes}, RaisesBuiltin x →
      RaisesBuiltin (x.map f) := by
    intro f x hx e h
    cases x with
    | error _ =>
        cases h
        exact hx e rfl
    | ok a => cases h
  induction data generalizing quadPos left pads with
  | nil =>
      unfold a2bBase64
      split
      · exact raisesBuiltin_ok _
      · intro e h
        cases h
        rfl
  | cons c data ih =>
      unfold a2bBase64
      split
      · split
        · split
          · exact raisesBuiltin_ok _
          · exact ih _ _ _
        · exact ih _ _ _
      · split
        · exact ih _ _ _
        · exact ih _ _ _
        · exact hmap (ih _ _ _)
        · exact hmap (ih _ _ _)
        · exact hmap (ih _ _ _)

/-- Building a header fails with an encoding or a padding error. -/
theorem raisesBuiltin_buildHeader (txContext : TXContext) (channel : Option Channel)
    (extension : Option Bytes) (txType : TransactionType) (tlsCert : Option Bytes)
    (timestamp : Timestamp) :
    RaisesBuiltin (buildHeader rt txContext channel extension txType tlsCert timestamp) := by
  refine (raisesBuiltin_encodeProtoStr _).bind fun _ => RaisesBuiltin.bind ?_ fun _ =>
    raisesBuiltin_ok _
  unfold buildTlsCertHash
  split
  · exact raisesBuiltin_ok _
  · exact (raisesBuiltin_a2bBase64 0 0 0 _).bind fun _ => raisesBuiltin_ok _

/-- Building a seek request fails with a range error. -/
theorem raisesBuiltin_buildSeekInfo (start stop : Option Int) (behavior : SeekBehavior) :
    RaisesBuiltin (buildSeekInfo start stop behavior) := by
  have hposition : ∀ number, RaisesBuiltin (buildSeekPosition number) := by
    intro number
    cases number with
    | none => exact raisesBuiltin_ok _
    | some n =>
        refine RaisesBuiltin.bind ?_ fun _ => raisesBuiltin_ok _
        unfold uint64Field
        split
        · exact raisesBuiltin_ok _
        · intro e h
          cases h
          rfl
  exact (hposition start).bind fun _ => (hposition stop).bind fun _ => raisesBuiltin_ok _

/-- The envelope around it fails as its header does. -/
theorem raisesBuiltin_seekEnvelope (hub : EventHub) (info : SeekInfo) (nonce : Bytes)
    (timestamp : Timestamp) : RaisesBuiltin (hub.seekEnvelope rt info nonce timestamp) :=
  (raisesBuiltin_buildHeader rt _ _ _ _ _ _).bind fun _ => raisesBuiltin_ok _

/-- Building a seek request does not fail as a stream does. -/
theorem noStreamFailure_getConnectionEnvelope (hub : EventHub) (behavior : SeekBehavior)
    (start stop : Option Int) (nonce : Bytes) (timestamp : Timestamp) :
    NoStreamFailure (hub.getConnectionEnvelope rt behavior start stop nonce timestamp) :=
  fun e h => Exc.isStreamFailure_of_isBuiltin ((raisesBuiltin_buildSeekInfo start stop behavior).bind
    (fun info => raisesBuiltin_seekEnvelope rt hub info nonce timestamp) e h)

/-- An exception is that of a peer's stream: the last request opened the stream, and the search of a
transaction in it fails with that exception. -/
def StreamFailed (peer : Peer) (sends : List Request) (e : Exc) : Prop :=
  e.isStreamFailure = true ∧
  ∃ before envelope txId, sends = before ++ [.deliverFiltered peer envelope] ∧
    searchTransaction txId (streamFilteredBlocks (network before (.deliverFiltered peer envelope))) =
      .error e

/-- What building an envelope asks for: a nonce and the time, once the seek request is built. -/
def connectionDraws (behavior : SeekBehavior) (start stop : Option Int) : List Request :=
  match buildSeekInfo start stop behavior with
  | .ok _ => [.entropy]
  | .error _ => []

/-- An envelope that is built needed a draw. -/
theorem connectionDraws_of_ok {hub : EventHub} {behavior : SeekBehavior} {start stop : Option Int}
    {nonce : Bytes} {timestamp : Timestamp} {envelope : Envelope}
    (h : hub.getConnectionEnvelope rt behavior start stop nonce timestamp = .ok envelope) :
    connectionDraws behavior start stop = [.entropy] := by
  obtain ⟨info, hinfo, -⟩ := bind_eq_ok.mp h
  rw [connectionDraws, hinfo]

/-- Building an envelope in a coroutine is observed to build it of what is drawn. -/
theorem observe_drawConnectionEnvelope (hub : EventHub) (behavior : SeekBehavior)
    (start stop : Option Int) (sends : List Request) :
    Coro.observe network (hub.drawConnectionEnvelope rt behavior start stop) () sends =
      let drawn : Bytes × Timestamp := network sends .entropy
      (hub.getConnectionEnvelope rt behavior start stop drawn.1 drawn.2, (),
        sends ++ connectionDraws behavior start stop) := by
  dsimp only
  rw [EventHub.drawConnectionEnvelope, EventHub.getConnectionEnvelope, connectionDraws, Coro.bind_eq,
    Coro.observe_bind, Coro.observe_ofExcept]
  cases buildSeekInfo start stop behavior with
  | error e =>
      rw [List.append_nil]
      rfl
  | ok info => exact Coro.observe_ofExcept network (hub.seekEnvelope rt info _ _) () _

/-- A search is observed to open one stream with the envelope made of what it draws, and to end as
the search of that stream does. -/
theorem observe_getTransaction (requestor : User) (channel : Option Channel) (peer : Peer)
    (txId : String) (start : Option Int) (behavior : SeekBehavior) (sends : List Request) :
    Coro.observe network (getTransaction rt requestor channel peer txId start behavior) () sends =
      let drawn : Bytes × Timestamp := network sends .entropy
      match (peerFilteredEvents requestor channel peer).getConnectionEnvelope rt behavior start
        (some INDEFINITE_STOP_POSITION) drawn.1 drawn.2 with
      | .error e =>
          (.error e, (), sends ++ connectionDraws behavior start (some INDEFINITE_STOP_POSITION))
      | .ok envelope =>
          (searchTransaction txId (streamFilteredBlocks
              (network (sends ++ [.entropy]) (.deliverFiltered peer envelope))),
            (), sends ++ [.entropy] ++ [.deliverFiltered peer envelope]) := by
  rw [getTransaction, Coro.bind_eq, Coro.observe_bind, observe_drawConnectionEnvelope]
  dsimp only
  cases henvelope : (peerFilteredEvents requestor channel peer).getConnectionEnvelope rt behavior start
    (some INDEFINITE_STOP_POSITION) _ _ with
  | error e => rfl
  | ok envelope =>
      rw [connectionDraws_of_ok rt henvelope]
      exact Coro.observe_ofExcept network (searchTransaction txId (streamFilteredBlocks
        (network (sends ++ [.entropy]) (.deliverFiltered peer envelope)))) () _

/-- **A stream failure in a search is one of the stream.** -/
theorem streamFailed_of_getTransaction {requestor : User} {channel : Option Channel} {peer : Peer}
    {txId : String} {start : Option Int} {behavior : SeekBehavior} {sends sends' : List Request}
    {e : Exc} (he : e.isStreamFailure = true)
    (h : Coro.observe network (getTransaction rt requestor channel peer txId start behavior) ()
      sends = (.error e, (), sends')) :
    StreamFailed network peer sends' e := by
  rw [observe_getTransaction] at h
  dsimp only at h
  split at h
  · rename_i e' henvelope
    cases h
    rw [noStreamFailure_getConnectionEnvelope rt _ _ _ _ _ _ e henvelope] at he
    cases he
  · rename_i envelope henvelope
    obtain ⟨hsearch, hsends⟩ := Prod.ext_iff.mp h
    exact ⟨he, _, envelope, txId, (Prod.ext_iff.mp hsends).2.symm, hsearch⟩

/-- A coroutine with a timeout is observed to do what it does, a cancellation turned into a
timeout. -/
theorem observe_waitFor {α : Type} (c : Async Unit α) (timeout : Int) (sends : List Request) :
    Coro.observe network (waitFor c timeout) () sends =
      if timeout ≤ 0 then (.error .timeoutError, (), sends)
      else match Coro.observe network c () sends with
        | (.ok a, _, sends) => (.ok a, (), sends)
        | (.error e, _, sends) =>
            (.error (if e = .cancelledError then .timeoutError else e), (), sends) := by
  unfold waitFor
  split
  · rfl
  · rw [Coro.observe_tryCatch]
    rcases Coro.observe network c () sends with ⟨e | a, ⟨⟩, sends'⟩
    · by_cases he : e = .cancelledError
      · simp only [if_pos he, Coro.observe_raise]
      · simp only [if_neg he, Coro.observe_raise]
    · rfl

/-- **A stream failure in a check is one of the stream**: a timeout and an invalid transaction are
other errors. -/
theorem streamFailed_of_checkTransaction {requestor : User} {channel : Option Channel} {peer : Peer}
    {txId : String} {timeout : Int} {start : Option Int} {behavior : SeekBehavior}
    {sends sends' : List Request} {e : Exc} (he : e.isStreamFailure = true)
    (h : Coro.observe network
      (checkTransaction rt requestor channel peer txId timeout start behavior) () sends =
        (.error e, (), sends')) :
    StreamFailed network peer sends' e := by
  simp only [checkTransaction, Coro.bind_eq, Coro.observe_bind, observe_waitFor] at h
  by_cases htimeout : timeout ≤ 0
  · -- Without time to wait the error is a timeout.
    simp only [if_pos htimeout] at h
    cases h
    cases he
  simp only [if_neg htimeout] at h
  rcases hsearch : Coro.observe network
      (getTransaction rt requestor channel peer txId start behavior) () sends with
    ⟨e' | tx, ⟨⟩, sends''⟩
  · simp only [hsearch] at h
    cases h
    -- A cancellation becomes a timeout, and any other error is that of the search.
    by_cases hcancelled : e' = .cancelledError
    · rw [if_pos hcancelled] at he
      cases he
    · rw [if_neg hcancelled] at he ⊢
      exact streamFailed_of_getTransaction rt network he hsearch
  · simp only [hsearch] at h
    split at h
    · -- The transaction was found, but is invalid: the error is that of its code.
      cases h
      unfold mkTransactionValidationError at he
      split at he <;> cases he
    · cases h

/-! ## Comparing the paths -/

/-- An exception without its message text: its class, and the response, transaction or code it
carries. -/
def Exc.withoutMessage : Exc → Exc
  | .valueError _ => .valueError ""
  | .keyError _ => .keyError ""
  | .indexError _ => .indexError ""
  | .attributeError _ => .attributeError ""
  | .runtimeError _ => .runtimeError ""
  | .blockchainError _ => .blockchainError ""
  | .trasactionCommitError _ txId response => .trasactionCommitError "" txId response
  | .transactionProposalError _ transaction => .transactionProposalError "" transaction
  | .blockRetrievalError _ status => .blockRetrievalError "" status
  | e => e

/-- Two outcomes are the same: equal values, or exceptions that differ in their message at most. -/
def SameOutcome : Except Exc EndorsedTX → Except Exc EndorsedTX → Prop
  | .ok tx, .ok tx' => tx = tx'
  | .error e, .error e' => e.withoutMessage = e'.withoutMessage
  | _, _ => False

theorem SameOutcome.rfl (x : Except Exc EndorsedTX) : SameOutcome x x := by
  cases x <;> exact Eq.refl _

/-- How a coroutine ends when it is run alone, and what it sends. -/
def outcomeOf (c : Async Unit EndorsedTX) : Except Exc EndorsedTX × List Request :=
  let (result, world) := Coro.run network c ⟨(), []⟩
  (result, Coro.requests world.trace)

/-- The outcome is what is observed. -/
theorem outcomeOf_eq (c : Async Unit EndorsedTX) :
    outcomeOf network c =
      ((Coro.observe network c () []).1, (Coro.observe network c () []).2.2) := by
  have h := Coro.observe_run network c ⟨(), []⟩
  rw [Coro.requests_nil] at h
  rw [h]
  rfl

/-- The two outcomes of an invocation agree, up to the failover over the peers: the gateway returns
what the operation returns; where only the gateway returns, the stream of the first peer failed for
the operation; and any other failure is shared. -/
structure PathsAgree (peer : Peer) (operation gateway : Except Exc EndorsedTX × List Request) :
    Prop where
  returns : ∀ tx, operation.1 = .ok tx → gateway = operation
  failsOver : ∀ tx, gateway.1 = .ok tx → operation.1 = .ok tx ∨
    ∃ e, operation.1 = .error e ∧ StreamFailed network peer operation.2 e ∧
      operation.2 <+: gateway.2
  raises : ∀ e, operation.1 = .error e → ¬ StreamFailed network peer operation.2 e →
    SameOutcome operation.1 gateway.1 ∧ operation.2 = gateway.2

/-- The same outcome with the same requests is agreement. -/
theorem PathsAgree.of_same {peer : Peer} {operation gateway : Except Exc EndorsedTX × List Request}
    (houtcome : SameOutcome operation.1 gateway.1) (hsends : operation.2 = gateway.2) :
    PathsAgree network peer operation gateway := by
  obtain ⟨_ | tx, sends⟩ := operation <;> obtain ⟨_ | tx', sends'⟩ := gateway
  · refine ⟨?_, ?_, fun _ _ _ => ⟨houtcome, hsends⟩⟩
    · intro tx h
      cases h
    · intro tx h
      cases h
  · exact houtcome.elim
  · exact houtcome.elim
  · obtain rfl : tx = tx' := houtcome
    obtain rfl : sends = sends' := hsends
    refine ⟨fun _ _ => rfl, fun _ h => .inl h, ?_⟩
    intro e h
    cases h

/-- Where the stream of the first peer failed for the operation, the gateway may go on as it
likes. -/
theorem PathsAgree.of_streamFailed {peer : Peer} {e : Exc} {sends : List Request}
    {gateway : Except Exc EndorsedTX × List Request} (hfailed : StreamFailed network peer sends e)
    (hextends : sends <+: gateway.2) : PathsAgree network peer (.error e, sends) gateway := by
  refine ⟨?_, fun _ _ => .inr ⟨e, rfl, hfailed, hextends⟩, ?_⟩
  · intro tx h
    cases h
  · intro e' h hnot
    cases h
    exact absurd hfailed hnot

/-- With its assets in place a gateway generates the transaction that the operation generates. -/
theorem transact_of_assets {gateway : Gateway} {channel : Channel} {requestor : User}
    {ccName : String} (hpeers : gateway.endorsingPeers ≠ []) (hchannel : gateway.channel = some channel)
    (hrequestor : gateway.requestor = some requestor)
    (hname : gateway.chaincodeName = some ccName) (fcn : String) (args : Option (List String))
    (transientMap : Option TransientMap) :
    gateway.transact rt fcn args transientMap =
      generateCcTx rt requestor ccName channel fcn args transientMap := by
  unfold Gateway.transact
  rw [if_neg hpeers, hchannel, hrequestor, hname]

/-- **After a transaction is generated, the straight line and the builder agree.** -/
theorem commitTxAndWait_agrees (requestor : User) (channel : Channel) (peer : Peer)
    (peers : List Peer) (orderers : List Orderer) (chaincode : Option ChaincodeSpec)
    (generatedTx : GeneratedTX) (timeout : Int) (msg : String) (sends : List Request) :
    let gateway : Gateway := {
      endorsingPeers := peer :: peers, orderers, channel := some channel
      requestor := some requestor, chaincode }
    let operation := Coro.observe network (do
      let endorsedTx ← proposeTx (peer :: peers) generatedTx
      Coro.ofExcept (raiseTxProposalError endorsedTx msg)
      commitTxAndWait rt requestor channel (peer :: peers) orderers endorsedTx timeout
      return endorsedTx) () sends
    let builder := Coro.observe network (invokeWithFailover rt requestor gateway generatedTx timeout)
      () sends
    PathsAgree network peer (operation.1, operation.2.2) (builder.1, builder.2.2) := by
  intro gateway operation builder
  simp only [operation, builder, gateway, invokeWithFailover, proposeChecked, Coro.bind_eq,
    Coro.observe_bind, commitTxAndWait]
  rcases Coro.observe network (proposeTx (peer :: peers) generatedTx) () sends with
    ⟨e | endorsedTx, ⟨⟩, sends⟩
  · exact PathsAgree.of_same network (SameOutcome.rfl _) rfl
  simp only [Coro.observe_ofExcept, raiseTxProposalError]
  by_cases hendorsed : endorsedTx.fullyEndorsed = true
  swap
  · -- The two paths raise the same transaction under different messages.
    simp only [if_neg hendorsed]
    exact PathsAgree.of_same network (Eq.refl _) rfl
  simp only [if_pos hendorsed, Coro.pure_eq, Coro.observe_ret]
  rcases Coro.observe network (commitTx rt requestor orderers endorsedTx) () sends with
    ⟨e | response, ⟨⟩, sends⟩
  · exact PathsAgree.of_same network (SameOutcome.rfl _) rfl
  simp only [checkWithFailover, Coro.observe_tryCatch, show endorsedTx.txContext.txId =
    endorsedTx.txId from rfl]
  rcases hcheck : Coro.observe network (checkTransaction rt requestor (some channel) peer
    endorsedTx.txId timeout none .blockUntilReady) () sends with ⟨e | filteredTx, ⟨⟩, sends'⟩
  · by_cases he : e.isStreamFailure = true
    · -- The stream of the first peer failed: only the builder goes on, and only adds requests.
      simp only [if_pos he]
      have hfailed : StreamFailed network peer sends' e :=
        streamFailed_of_checkTransaction rt network he hcheck
      have hextends := Coro.prefix_observe network
        (checkWithFailover rt requestor (some channel) endorsedTx.txId timeout e peers) () sends'
      rcases hnext : Coro.observe network
        (checkWithFailover rt requestor (some channel) endorsedTx.txId timeout e peers) () sends' with
        ⟨e' | filteredTx, ⟨⟩, sends''⟩ <;> rw [hnext] at hextends
      · exact PathsAgree.of_streamFailed network hfailed hextends
      · exact PathsAgree.of_streamFailed network hfailed hextends
    · simp only [if_neg he, Coro.observe_raise]
      exact PathsAgree.of_same network (SameOutcome.rfl _) rfl
  · exact PathsAgree.of_same network (SameOutcome.rfl _) rfl

/-- What is generated is proposed to the peers, whatever is made of their answers. -/
theorem sends_generate_propose {generate : Async Unit GeneratedTX} {generatedTx : GeneratedTX}
    {sends : List Request}
    (hgenerated : Coro.observe network generate () [] = (.ok generatedTx, (), sends)) (peer : Peer)
    (peers : List Peer) (k : GeneratedTX → EndorsedTX → Async Unit EndorsedTX) :
    sends ++ [.processProposals generatedTx.signedProposal (peer :: peers)] <+:
      (outcomeOf network (generate.bind fun tx =>
        (proposeTx (peer :: peers) tx).bind (k tx))).2 := by
  rw [outcomeOf_eq, Coro.observe_bind, hgenerated]
  dsimp only
  rw [proposeTx, if_neg (List.cons_ne_nil peer peers)]
  exact Coro.prefix_observe network _ () _

section Calls

variable {requestor : User} {channel : Channel} {peer : Peer} {peers : List Peer}
  {orderers : List Orderer} {chaincode : Option ChaincodeSpec} {ccName fcn : String}
  {args : Option (List String)} {transientMap : Option TransientMap}

/-- The invocations agree: both generate the transaction first, and then compare as above. -/
theorem invoke_agrees (timeout : Int)
    (htransact : Gateway.transact rt {
      endorsingPeers := peer :: peers, orderers, channel := some channel
      requestor := some requestor, chaincode } fcn args transientMap =
        generateCcTx rt requestor ccName channel fcn args transientMap) :
    PathsAgree network peer
      (outcomeOf network
        (invoke rt requestor (peer :: peers) orderers channel ccName fcn args timeout transientMap))
      (outcomeOf network (Gateway.invoke rt {
        endorsingPeers := peer :: peers, orderers, channel := some channel
        requestor := some requestor, chaincode } fcn args transientMap timeout)) := by
  simp only [outcomeOf_eq, invoke, Gateway.invoke, htransact, Coro.bind_eq,
    Coro.observe_bind network (generateCcTx rt requestor ccName channel fcn args transientMap)]
  rcases Coro.observe network (generateCcTx rt requestor ccName channel fcn args transientMap) () []
    with ⟨e | generatedTx, ⟨⟩, sends⟩
  · exact PathsAgree.of_same network (SameOutcome.rfl _) rfl
  · dsimp only
    rw [observe_awaitNew_invoke rt network ⟨_, generatedTx⟩ rfl]
    exact commitTxAndWait_agrees rt network requestor channel peer peers orderers _ generatedTx
      timeout _ sends

/-- The queries agree: neither opens a stream, so there is no failover to tell them apart. -/
theorem query_agrees
    (htransact : Gateway.transact rt {
      endorsingPeers := peer :: peers, orderers, channel := some channel
      requestor := some requestor, chaincode } fcn args transientMap =
        generateCcTx rt requestor ccName channel fcn args transientMap) :
    let operation := outcomeOf network
      (query rt requestor (peer :: peers) channel ccName fcn args transientMap)
    let gateway := outcomeOf network (Gateway.query rt {
      endorsingPeers := peer :: peers, orderers, channel := some channel
      requestor := some requestor, chaincode } fcn args transientMap)
    SameOutcome operation.1 gateway.1 ∧ operation.2 = gateway.2 := by
  simp only [outcomeOf_eq, query, Gateway.query, htransact, Coro.bind_eq,
    Coro.observe_bind network (generateCcTx rt requestor ccName channel fcn args transientMap)]
  rcases Coro.observe network (generateCcTx rt requestor ccName channel fcn args transientMap) () []
    with ⟨e | generatedTx, ⟨⟩, sends⟩
  · exact ⟨SameOutcome.rfl _, rfl⟩
  dsimp only
  rw [observe_awaitNew_query rt network ⟨_, generatedTx⟩]
  simp only [proposeChecked, Coro.bind_eq, Coro.observe_bind]
  rcases Coro.observe network (proposeTx (peer :: peers) generatedTx) () sends with
    ⟨e | endorsedTx, ⟨⟩, sends⟩
  · exact ⟨SameOutcome.rfl _, rfl⟩
  simp only [Coro.observe_ofExcept, raiseTxProposalError]
  by_cases hendorsed : endorsedTx.fullyEndorsed = true
  · simp only [if_pos hendorsed]
    exact ⟨SameOutcome.rfl _, trivial⟩
  · simp only [if_neg hendorsed]
    exact ⟨Eq.refl _, trivial⟩

end Calls

/-- **The high-level paths agree.** With a chaincode name, `Gateway.invoke` returns what
`operations.invoke` returns and sends the same; it returns more only where the stream of the first
peer failed; and the other failures are shared. The queries are always alike. With the empty name
the gateway refuses before it sends anything, and the operations propose what they generate. -/
theorem high_level_paths_agree (requestor : User) (peer : Peer) (peers : List Peer)
    (orderers : List Orderer) (channel : Channel) (ccName : String) (spec : ChaincodeSpec)
    (fcn : String) (args : Option (List String)) (transientMap : Option TransientMap)
    (timeout : Int) :
    let gateway : Gateway := {
      endorsingPeers := peer :: peers, orderers, channel := some channel
      requestor := some requestor, chaincode := some { spec with name := some ccName } }
    let operationInvoke := outcomeOf network
      (invoke rt requestor (peer :: peers) orderers channel ccName fcn args timeout transientMap)
    let gatewayInvoke := outcomeOf network (gateway.invoke rt fcn args transientMap timeout)
    let operationQuery := outcomeOf network
      (query rt requestor (peer :: peers) channel ccName fcn args transientMap)
    let gatewayQuery := outcomeOf network (gateway.query rt fcn args transientMap)
    (ccName ≠ "" →
      PathsAgree network peer operationInvoke gatewayInvoke ∧
      SameOutcome operationQuery.1 gatewayQuery.1 ∧ operationQuery.2 = gatewayQuery.2) ∧
    (ccName = "" →
      gatewayInvoke = (.error (.valueError "Must specify a chaincode name"), []) ∧
      gatewayQuery = (.error (.valueError "Must specify a chaincode name"), []) ∧
      ∀ generatedTx sends,
        Coro.observe network (generateCcTx rt requestor ccName channel fcn args transientMap) () [] =
          (.ok generatedTx, (), sends) →
        ∀ operation ∈ [operationInvoke, operationQuery],
          sends ++ [.processProposals generatedTx.signedProposal (peer :: peers)] <+:
            operation.2) := by
  intro gateway operationInvoke gatewayInvoke operationQuery gatewayQuery
  constructor
  · intro hname
    have htransact : gateway.transact rt fcn args transientMap =
        generateCcTx rt requestor ccName channel fcn args transientMap := by
      -- The name counts, since it is not empty.
      refine transact_of_assets rt (List.cons_ne_nil _ _) rfl rfl ?_ fcn args transientMap
      exact Option.filter_some_pos (by simpa using hname)
    exact ⟨invoke_agrees rt network timeout htransact, query_agrees rt network htransact⟩
  · -- With the empty name the gateway stops at its own check, and the operations have none.
    rintro rfl
    refine ⟨rfl, rfl, fun generatedTx sends hgenerated operation hoperation => ?_⟩
    obtain rfl | hoperation := List.mem_cons.mp hoperation
    · exact sends_generate_propose network hgenerated peer peers _
    · rw [List.mem_singleton.mp hoperation]
      exact sends_generate_propose network hgenerated peer peers _

/-- A network in which every peer endorses. -/
def endorsingNetwork : Network
  | _, .entropy => ([9], {})
  | _, .processProposals _ _ => ⟨fun _ => .ok { response := { status := 200 } }, fun _ => 0⟩
  | _, .broadcast _ _ => ⟨[], .closed⟩
  | _, .deliverFiltered _ _ => ⟨[], .closed⟩
  | _, .deliver _ _ => ⟨[], .closed⟩

/-- With the empty chaincode name the operation queries the peers and returns, and the gateway
refuses: the two queries do not have the same outcome. -/
theorem query_empty_name_differs :
    let operationQuery := outcomeOf endorsingNetwork
      (query (wireRuntime id) keyedUser [{ endpoint := "peer" }] ⟨"channel"⟩ "" "get" none none)
    let gatewayQuery := outcomeOf endorsingNetwork (Gateway.query (wireRuntime id) {
      endorsingPeers := [{ endpoint := "peer" }], channel := some ⟨"channel"⟩
      requestor := some keyedUser, chaincode := some { name := some "" } } "get" none none)
    (∃ tx, operationQuery.1 = .ok tx) ∧
      gatewayQuery.1 = .error (.valueError "Must specify a chaincode name") ∧
      ¬ SameOutcome operationQuery.1 gatewayQuery.1 :=
  ⟨⟨_, rfl⟩, rfl, fun h => h⟩

/-- A named chaincode on an endorsing network, whose orderer closes its stream without an answer. -/
theorem high_level_paths_agree_named :
    PathsAgree endorsingNetwork { endpoint := "peer" }
      (outcomeOf endorsingNetwork (invoke (wireRuntime id) keyedUser [{ endpoint := "peer" }]
        [{ endpoint := "orderer" }] ⟨"channel"⟩ "cc" "set" none 30 none))
      (outcomeOf endorsingNetwork (Gateway.invoke (wireRuntime id) {
        endorsingPeers := [{ endpoint := "peer" }], orderers := [{ endpoint := "orderer" }]
        channel := some ⟨"channel"⟩, requestor := some keyedUser
        chaincode := some { name := some "cc" } } "set" none none 30)) :=
  ((high_level_paths_agree (wireRuntime id) endorsingNetwork keyedUser { endpoint := "peer" } []
    [{ endpoint := "orderer" }] ⟨"channel"⟩ "cc" {} "set" none none 30).1 (by decide)).1

end Snakeskin
