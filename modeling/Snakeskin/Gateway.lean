import Snakeskin.Operations

/-! # Gateways

The gateway and the transaction builder of `models/gateway.py`: the operations a builder queues, and
the await that runs them. -/

namespace Snakeskin

open Wire

variable (rt : Runtime)

/-- A gateway for accessing the blockchain. -/
structure Gateway where
  endorsingPeers : List Peer := []
  orderers : List Orderer := []
  channel : Option Channel := none
  requestor : Option User := none
  chaincode : Option ChaincodeSpec := none

/-- A gateway of the keyed user, with one peer and one orderer. -/
def keyedGateway : Gateway where
  endorsingPeers := [{ endpoint := "peer:7051" }]
  orderers := [{ endpoint := "orderer:7050" }]
  channel := some ⟨"channel"⟩
  requestor := some keyedUser
  chaincode := some { name := some "cc" }

/-- A transaction builder: the gateway and the transaction it was made for. -/
structure GatewayTXBuilder where
  gateway : Gateway
  transaction : GeneratedTX

/-- The name of the chaincode of a gateway, when there is one and it is not empty. -/
def Gateway.chaincodeName (gateway : Gateway) : Option String :=
  (gateway.chaincode.bind (·.name)).filter (· ≠ "")

/-- Begins a transaction against the blockchain: the result is the transaction of the new
builder. -/
def Gateway.transact (gateway : Gateway) (fcn : String) (args : Option (List String))
    (transientMap : Option TransientMap) : Async Unit GeneratedTX :=
  if gateway.endorsingPeers = [] then
    Coro.raise (.valueError "Must provided at least one endorsing peer")
  else match gateway.channel, gateway.requestor, gateway.chaincodeName with
    | none, _, _ => Coro.raise (.valueError "Must specify a channel")
    | some _, none, _ => Coro.raise (.valueError "Must specify a requestor")
    | some _, some _, none => Coro.raise (.valueError "Must specify a chaincode name")
    | some channel, some requestor, some ccName =>
        generateCcTx rt requestor ccName channel fcn args transientMap

/-! ## The state of a builder -/

/-- The attributes of a builder that change. `_operations` refers to a list object; `L` is what
stands for such an object: its contents where one task uses the builder, a reference where several
tasks share it. -/
structure BuilderState (L : Type) where
  endorsedTx : Option EndorsedTX := none
  filteredTx : Option FilteredTX := none
  committed : Bool := false
  operations : Option L := none

/-- What an await makes of the state once its operations have run: the endorsed transaction. -/
def BuilderState.awaited {L : Type} (s : BuilderState L) : Except Exc EndorsedTX :=
  match s.endorsedTx with
  | some endorsedTx => .ok endorsedTx
  | none => .error (.blockchainError "Transaction never proposed")

/-- The operations that the methods of a builder queue, with the flags they capture. -/
inductive OperationKind where
  | propose (raiseErrors : Bool)
  | submit
  | waitForCommit (raiseErrors : Bool) (timeout : Int)
  deriving DecidableEq, Repr

/-- A queued operation. Every call of a queueing method makes an operation of its own, told apart by
its number. -/
structure Operation where
  id : Nat
  kind : OperationKind
  deriving DecidableEq, Repr

/-! ## The operations -/

namespace GatewayTXBuilder

variable {L : Type} (builder : GatewayTXBuilder)

/-- Sends the transaction to all endorsing peers for endorsement. The result is stored before it is
checked. -/
def propose (raiseErrors : Bool) : Async (BuilderState L) Unit := do
  let endorsedTx ← Coro.lift (proposeTx builder.gateway.endorsingPeers builder.transaction)
  Coro.annotate (.proposeTxReturned endorsedTx)
  -- A refused transaction stays stored when the check below raises.
  Coro.modify fun s => { s with endorsedTx := some endorsedTx }
  if raiseErrors then
    Coro.ofExcept (raiseTxProposalError endorsedTx "A peer failed to endorse the transaction")

/-- `commit_tx` on behalf of the requestor of the gateway, who is needed when the envelope is
signed. -/
def commit (endorsedTx : EndorsedTX) : Async Unit (Option BroadcastResponse) :=
  match builder.gateway.requestor with
  | some requestor => commitTx rt requestor builder.gateway.orderers endorsedTx
  | none => Coro.raise (.attributeError "'NoneType' object has no attribute 'crypto_suite'")

/-- Submits the transaction to the orderer for committing. -/
def submit : Async (BuilderState L) Unit := do
  let s ← Coro.read
  match s.endorsedTx with
  | none => Coro.raise (.valueError "Must propose transaction before committing it")
  | some endorsedTx =>
      Coro.annotate (.commitTxCalled endorsedTx)
      let _ ← Coro.lift (builder.commit rt endorsedTx)
      Coro.annotate (.commitTxReturned endorsedTx)
      -- What the orderer answered is not looked at.
      Coro.modify fun s => { s with committed := true }

/-- Waits for the transaction on one peer, on behalf of the requestor of the gateway, whose crypto
suite draws the nonce of the envelope. -/
def awaitTransaction (raiseErrors : Bool) (timeout : Int) (txId : String) (peer : Peer) :
    Async Unit FilteredTX :=
  match builder.gateway.requestor with
  | some requestor =>
      if raiseErrors then
        checkTransaction rt requestor builder.gateway.channel peer txId timeout none .blockUntilReady
      else
        waitFor (getTransaction rt requestor builder.gateway.channel peer txId none .blockUntilReady)
          timeout
  -- The nonce is drawn inside the awaited coroutine, so a timeout that has elapsed comes first.
  | none =>
      waitFor (Coro.raise (.attributeError "'NoneType' object has no attribute 'crypto_suite'"))
        timeout

/-- One round of the loop over the peers: wait for the transaction on the peer and store it. -/
def waitOnPeer (raiseErrors : Bool) (timeout : Int) (peer : Peer) : Async (BuilderState L) Unit := do
  let s ← Coro.read
  match s.endorsedTx with
  | none => Coro.raise (.attributeError "'NoneType' object has no attribute 'tx_id'")
  | some endorsedTx =>
      let filteredTx ←
        Coro.lift (builder.awaitTransaction rt raiseErrors timeout endorsedTx.txId peer)
      Coro.modify fun s => { s with filteredTx := some filteredTx }

/-- The loop over the peers: on a connection error or a retrieval error, try the next peer; raise
the last error when none is left. -/
def waitLoop (raiseErrors : Bool) (timeout : Int) :
    (error : Exc) → List Peer → Async (BuilderState L) Unit
  | error, [] => Coro.raise error
  | _, peer :: peers =>
      (builder.waitOnPeer rt raiseErrors timeout peer).tryCatch fun err =>
        -- Only a stream that fails sends the loop to the next peer; a timeout or an invalid transaction
        -- is final.
        if err.isStreamFailure then waitLoop raiseErrors timeout err peers else Coro.raise err

/-- Waits for the transaction to be committed to the peers. -/
def waitForCommit (raiseErrors : Bool) (timeout : Int) : Async (BuilderState L) Unit := do
  let s ← Coro.read
  if s.committed then
    builder.waitLoop rt raiseErrors timeout
      (.blockchainError "Failed waiting for committed transaction") builder.gateway.endorsingPeers
  else Coro.raise (.valueError "Must commit transaction before waiting")

/-- Runs an operation. -/
def operate : OperationKind → Async (BuilderState L) Unit
  | .propose raiseErrors => builder.propose raiseErrors
  | .submit => builder.submit rt
  | .waitForCommit raiseErrors timeout => builder.waitForCommit rt raiseErrors timeout

/-- What an await returns once its operations have run. -/
def finish : Async (BuilderState L) EndorsedTX := do
  let s ← Coro.read
  Coro.ofExcept s.awaited

/-! ## A builder used by one task -/

/-- `_add_operation`: appends to a non-empty list, and starts a new one otherwise. -/
def addOperation (s : BuilderState (List Operation)) (operation : Operation) :
    BuilderState (List Operation) :=
  match s.operations with
  | some (first :: rest) => { s with operations := some (first :: rest ++ [operation]) }
  | _ => { s with operations := some [operation] }

/-- The loop of `_run_operations`. While one task uses the builder nobody changes the list under
it. -/
def runLoop : List Operation → Async (BuilderState L) Unit
  | [] => return ()
  | operation :: operations => do
      Coro.annotate (.operationStarted operation.id)
      builder.operate rt operation.kind
      Coro.annotate (.operationCompleted operation.id)
      runLoop operations

/-- `_run_operations`: the list is cleared when all its operations have returned. -/
def runOperations : Async (BuilderState (List Operation)) EndorsedTX := do
  let s ← Coro.read
  match s.operations with
  | some (operation :: operations) =>
      builder.runLoop rt (operation :: operations)
      -- Not reached when an operation raises: the list keeps all its operations then.
      Coro.modify fun s => { s with operations := some [] }
      finish
  | _ => Coro.raise (.blockchainError "Transaction never proposed")

end GatewayTXBuilder

/-! ## The operations of a gateway -/

/-- Awaits a new builder on which operations of the given kinds were queued. -/
def GatewayTXBuilder.awaitNew (builder : GatewayTXBuilder) (kinds : List OperationKind) :
    Async Unit EndorsedTX :=
  let queue := kinds.zipIdx.foldl (fun s k => addOperation s ⟨k.2, k.1⟩) {}
  (builder.runOperations rt).withState queue

/-- Invokes the chaincode. -/
def Gateway.invoke (gateway : Gateway) (fcn : String) (args : Option (List String))
    (transientMap : Option TransientMap) (timeout : Int) : Async Unit EndorsedTX := do
  let transaction ← gateway.transact rt fcn args transientMap
  (GatewayTXBuilder.mk gateway transaction).awaitNew rt
    [.propose true, .submit, .waitForCommit true timeout]

/-- Queries the chaincode. -/
def Gateway.query (gateway : Gateway) (fcn : String) (args : Option (List String))
    (transientMap : Option TransientMap) : Async Unit EndorsedTX := do
  let transaction ← gateway.transact rt fcn args transientMap
  (GatewayTXBuilder.mk gateway transaction).awaitNew rt [.propose true]

end Snakeskin
