import Mathlib.Algebra.Order.Pi
import Snakeskin.Library.Budget
import Snakeskin.OwnRequests

/-! # How much operations ask for

The loops of the client go over orderers and over peers, and none of them starts again. This file
bounds what each high-level operation asks for, whatever it is answered: none proposes twice to a
peer that it lists once, none broadcasts more often than it lists orderers, and every one ends. -/

namespace Snakeskin

open Wire

variable {rt : Runtime}

/-! ## Budgets -/

/-- The kinds of requests. -/
inductive RequestKind where
  | draw
  | proposal
  | broadcast
  | stream
  deriving DecidableEq, Repr

/-- The kind of a request. -/
def Request.kind : Request → RequestKind
  | .entropy => .draw
  | .processProposals _ _ => .proposal
  | .broadcast _ _ => .broadcast
  | .deliverFiltered _ _ => .stream
  | .deliver _ _ => .stream

/-- How many requests of each kind. -/
abbrev Budget := RequestKind → Nat

/-- Numbers of requests of the kinds. -/
def Budget.of (draws proposals broadcasts streams : Nat) : Budget
  | .draw => draws
  | .proposal => proposals
  | .broadcast => broadcasts
  | .stream => streams

/-- A request counts once, for its kind. -/
def Request.price (q : Request) : Budget := fun kind => if q.kind = kind then 1 else 0

@[simp] theorem Budget.of_add (a b c d a' b' c' d' : Nat) :
    Budget.of a b c d + Budget.of a' b' c' d' = Budget.of (a + a') (b + b') (c + c') (d + d') := by
  funext kind
  cases kind <;> rfl

@[simp] theorem Budget.of_le (a b c d a' b' c' d' : Nat) :
    Budget.of a b c d ≤ Budget.of a' b' c' d' ↔ a ≤ a' ∧ b ≤ b' ∧ c ≤ c' ∧ d ≤ d' := by
  constructor
  · exact fun h => ⟨h .draw, h .proposal, h .broadcast, h .stream⟩
  · rintro ⟨ha, hb, hc, hd⟩ kind
    cases kind
    · exact ha
    · exact hb
    · exact hc
    · exact hd

@[simp] theorem Request.price_entropy : Request.price .entropy = Budget.of 1 0 0 0 := by
  funext kind
  cases kind <;> rfl

@[simp] theorem Request.price_processProposals (proposal : SignedProposal) (peers : List Peer) :
    Request.price (.processProposals proposal peers) = Budget.of 0 1 0 0 := by
  funext kind
  cases kind <;> rfl

@[simp] theorem Request.price_broadcast (orderer : Orderer) (envelope : Envelope) :
    Request.price (.broadcast orderer envelope) = Budget.of 0 0 1 0 := by
  funext kind
  cases kind <;> rfl

@[simp] theorem Request.price_deliverFiltered (peer : Peer) (envelope : Envelope) :
    Request.price (.deliverFiltered peer envelope) = Budget.of 0 0 0 1 := by
  funext kind
  cases kind <;> rfl

@[simp] theorem Request.price_deliver (orderer : Orderer) (envelope : Envelope) :
    Request.price (.deliver orderer envelope) = Budget.of 0 0 0 1 := by
  funext kind
  cases kind <;> rfl

/-- The prices of some requests count them by their kinds; by induction on the requests. -/
theorem sum_price (requests : List Request) (kind : RequestKind) :
    (requests.map Request.price).sum kind = requests.countP (·.kind = kind) := by
  induction requests with
  | nil => rfl
  | cons q requests ih =>
      rw [List.map_cons, List.sum_cons, Pi.add_apply, ih, List.countP_cons, Nat.add_comm]
      simp [Request.price]

/-- How many requests of all kinds. -/
def Budget.total (budget : Budget) : Nat :=
  budget .draw + budget .proposal + budget .broadcast + budget .stream

/-- Requests are of one kind each; by induction on the requests. -/
theorem total_sum_price (requests : List Request) :
    Budget.total (requests.map Request.price).sum = requests.length := by
  induction requests with
  | nil => rfl
  | cons q requests ih =>
      rw [List.length_cons, ← ih, List.map_cons, List.sum_cons]
      simp only [Budget.total, Pi.add_apply, Request.price]
      cases q.kind <;> simp <;> omega

/-- Within a budget there are at most as many requests as it has in total. -/
theorem length_le_total {requests : List Request} {budget : Budget}
    (h : (requests.map Request.price).sum ≤ budget) : requests.length ≤ budget.total := by
  rw [← total_sum_price]
  exact Nat.add_le_add (Nat.add_le_add (Nat.add_le_add (h .draw) (h .proposal)) (h .broadcast))
    (h .stream)

/-- The coroutine keeps within a budget of requests. -/
abbrev Spends {σ ε α : Type} (c : Coro σ Request Answer Note ε α) (s : σ) (budget : Budget) :
    Prop :=
  Coro.Within Request.price c s budget

/-! ## Transactions -/

theorem spends_proposeTx (peers : List Peer) (generatedTx : GeneratedTX) :
    Spends (proposeTx peers generatedTx) () (.of 0 1 0 0) := by
  unfold proposeTx
  split
  · trivial
  · refine Coro.Within.mono ?_ (Coro.Within.request_bind (.of 0 0 0 0) fun answers =>
      Coro.Within.ofExcept_bind fun _ => trivial)
    simp

/-- The failover asks each orderer once, by induction on the orderers. -/
theorem spends_broadcastLoop (envelope : Envelope) (txId : String) (error : Exc)
    (orderers : List Orderer) :
    Spends (broadcastLoop envelope txId error orderers) () (.of 0 0 orderers.length 0) := by
  induction orderers generalizing error with
  | nil => trivial
  | cons orderer orderers ih =>
      have hfirst : Spends (broadcastToOrderer envelope orderer txId) () (.of 0 0 1 0) := by
        refine Coro.Within.mono ?_ (Coro.Within.request_bind (.of 0 0 0 0) fun _ =>
          Coro.Within.ofExcept _ _)
        simp
      refine Coro.Within.mono ?_ (Coro.Within.tryCatch (.of 0 0 orderers.length 0) hfirst ?_)
      · simp [Nat.add_comm]
      · intro err _
        split
        · exact ih _
        · trivial

theorem spends_broadcastToOrderers (envelope : Envelope) (orderers : List Orderer) (txId : String) :
    Spends (broadcastToOrderers envelope orderers txId) () (.of 0 0 orderers.length 0) := by
  unfold broadcastToOrderers
  split
  · trivial
  · exact spends_broadcastLoop _ _ _ _

theorem spends_commitTx (requestor : User) (orderers : List Orderer) (endorsedTx : EndorsedTX) :
    Spends (commitTx rt requestor orderers endorsedTx) () (.of 0 0 orderers.length 0) :=
  Coro.Within.ofExcept_bind fun _ => spends_broadcastToOrderers _ _ _

/-- Building the envelope of a stream costs a draw. -/
theorem spends_drawConnectionEnvelope (hub : EventHub) (behavior : SeekBehavior)
    (start stop : Option Int) :
    Spends (hub.drawConnectionEnvelope rt behavior start stop) () (.of 1 0 0 0) := by
  refine Coro.Within.ofExcept_bind fun info => Coro.Within.mono ?_
    (Coro.Within.request_bind (.of 0 0 0 0) fun drawn => Coro.Within.ofExcept _ _)
  simp

theorem spends_getTransaction (requestor : User) (channel : Option Channel) (peer : Peer)
    (txId : String) (start : Option Int) (behavior : SeekBehavior) :
    Spends (getTransaction rt requestor channel peer txId start behavior) () (.of 1 0 0 1) := by
  refine Coro.Within.mono ?_ (Coro.Within.bind (.of 0 0 0 1)
    (spends_drawConnectionEnvelope _ behavior start _) fun envelope _ => Coro.Within.mono ?_
      (Coro.Within.request_bind (.of 0 0 0 0) fun stream => Coro.Within.ofExcept _ _))
  · simp
  · simp

/-- A timeout costs nothing. -/
theorem spends_waitFor {α : Type} {c : Async Unit α} {budget : Budget} (h : Spends c () budget)
    (timeout : Int) : Spends (waitFor c timeout) () budget := by
  unfold waitFor
  split
  · trivial
  · refine Coro.Within.mono (add_zero budget).le (Coro.Within.tryCatch 0 h fun e _ => ?_)
    split <;> trivial

theorem spends_checkTransaction (requestor : User) (channel : Option Channel) (peer : Peer)
    (txId : String) (timeout : Int) (start : Option Int) (behavior : SeekBehavior) :
    Spends (checkTransaction rt requestor channel peer txId timeout start behavior) ()
      (.of 1 0 0 1) := by
  refine Coro.Within.bind_free
    (spends_waitFor (spends_getTransaction requestor channel peer txId start behavior) timeout)
    fun transaction _ => ?_
  split <;> trivial

theorem spends_commitTxAndWait (requestor : User) (channel : Channel) (peers : List Peer)
    (orderers : List Orderer) (endorsedTx : EndorsedTX) (timeout : Int) :
    Spends (commitTxAndWait rt requestor channel peers orderers endorsedTx timeout) ()
      (.of 1 0 orderers.length 1) := by
  refine Coro.Within.mono ?_ (Coro.Within.bind (.of 1 0 0 1)
    (spends_commitTx requestor orderers endorsedTx) fun _ _ => ?_)
  · simp
  · cases peers with
    | nil => trivial
    | cons peer peers =>
        exact Coro.Within.bind_free
          (spends_checkTransaction requestor (some channel) peer _ timeout none .blockUntilReady)
          fun _ _ => trivial

/-- What is generated, proposed and checked costs a proposal, beside what generates it and what
follows. -/
theorem spends_generated {α : Type} {generate : Async Unit GeneratedTX} {peers : List Peer}
    {msg : String} {rest : EndorsedTX → Async Unit α} {before after : Budget}
    (hgenerate : Spends generate () before) (hrest : ∀ tx, Spends (rest tx) () after) :
    Spends (generate.bind fun generatedTx => (proposeTx peers generatedTx).bind fun tx =>
      (Coro.ofExcept (raiseTxProposalError tx msg)).bind fun _ => rest tx) ()
      (before + (.of 0 1 0 0 + after)) :=
  Coro.Within.bind _ hgenerate fun generatedTx _ =>
    Coro.Within.bind _ (spends_proposeTx peers generatedTx) fun tx _ =>
      Coro.Within.ofExcept_bind fun _ => hrest tx

/-- Drawing a nonce and a time and building a transaction with them costs the draw. -/
theorem spends_drawAndBuild (requestor : User) (ccName : String) (args : List Bytes)
    (channel : Option Channel) (transientMap : Option TransientMap) :
    Spends (do
      let (nonce, timestamp) : Bytes × Timestamp ← Coro.request Request.entropy
      Coro.ofExcept (buildGeneratedTx rt requestor ccName args channel transientMap nonce timestamp)
        : Async Unit GeneratedTX) () (.of 1 0 0 0) := by
  refine Coro.Within.mono ?_ (Coro.Within.request_bind (.of 0 0 0 0) fun drawn =>
    Coro.Within.ofExcept _ _)
  simp

theorem spends_generateCcTx (requestor : User) (ccName : String) (channel : Channel) (fcn : String)
    (args : Option (List String)) (transientMap : Option TransientMap) :
    Spends (generateCcTx rt requestor ccName channel fcn args transientMap) () (.of 1 0 0 0) :=
  Coro.Within.ofExcept_bind fun fullArgs =>
    spends_drawAndBuild requestor ccName fullArgs (some channel) transientMap

theorem spends_invoke (requestor : User) (peers : List Peer) (orderers : List Orderer)
    (channel : Channel) (ccName fcn : String) (args : Option (List String)) (timeout : Int)
    (transientMap : Option TransientMap) :
    Spends (invoke rt requestor peers orderers channel ccName fcn args timeout transientMap) ()
      (.of 2 1 orderers.length 1) := by
  refine Coro.Within.mono ?_ (spends_generated
    (spends_generateCcTx requestor ccName channel fcn args transientMap) fun tx =>
      Coro.Within.bind_free
        (spends_commitTxAndWait requestor channel peers orderers tx timeout)
        fun _ _ => Coro.Within.ret tx ())
  simp

theorem spends_query (requestor : User) (peers : List Peer) (channel : Channel)
    (ccName fcn : String) (args : Option (List String)) (transientMap : Option TransientMap) :
    Spends (query rt requestor peers channel ccName fcn args transientMap) () (.of 1 1 0 0) := by
  have hrest : ∀ tx : EndorsedTX, Spends (Coro.ret tx : Async Unit EndorsedTX) () (.of 0 0 0 0) :=
    fun tx => Coro.Within.ret tx ()
  refine Coro.Within.mono ?_ (spends_generated
    (spends_generateCcTx requestor ccName channel fcn args transientMap) hrest)
  simp

theorem spends_instantiateChaincode {case : CaseMapping}
    (order order' : SetOrder EndorsementPolicyRole) (requestor : User) (peers : List Peer)
    (orderers : List Orderer) (channel : Channel) (ccSpec : ChaincodeSpec)
    (endorsementPolicy : Option EndorsementPolicy) (upgrade : Bool) (timeout : Int) :
    Spends (instantiateChaincode rt case order order' requestor peers orderers channel ccSpec
      endorsementPolicy upgrade timeout) () (.of 2 1 orderers.length 1) := by
  have hgenerate : Spends (generateInstantiateCcTx rt case order order' requestor ccSpec channel
      endorsementPolicy upgrade) () (.of 1 0 0 0) :=
    Coro.Within.ofExcept_bind fun args =>
      spends_drawAndBuild requestor "lscc" args (some channel) none
  refine Coro.Within.mono ?_ (spends_generated hgenerate fun tx =>
    Coro.Within.bind_free
      (spends_commitTxAndWait requestor channel peers orderers tx timeout)
      fun _ _ => Coro.Within.ret tx ())
  simp

/-- An operation that draws, proposes and checks, and then asks for nothing. -/
theorem spends_generateProposeCheck {α : Type} {requestor : User} {ccName : String}
    {args : List Bytes} {channel : Option Channel} {peers : List Peer} {msg : String}
    {rest : EndorsedTX → Async Unit α} (hrest : ∀ tx, Spends (rest tx) () (.of 0 0 0 0)) :
    Spends (do
      let (nonce, timestamp) : Bytes × Timestamp ← Coro.request Request.entropy
      let generatedTx ← Coro.ofExcept
        (buildGeneratedTx rt requestor ccName args channel none nonce timestamp)
      let endorsedTx ← proposeTx peers generatedTx
      Coro.ofExcept (raiseTxProposalError endorsedTx msg)
      rest endorsedTx) () (.of 1 1 0 0) := by
  have hbuilt : ∀ drawn : Bytes × Timestamp, Spends (Coro.ofExcept (buildGeneratedTx rt requestor
      ccName args channel none drawn.1 drawn.2) : Async Unit GeneratedTX) () (.of 0 0 0 0) :=
    fun _ => Coro.Within.ofExcept _ _
  refine Coro.Within.mono ?_ (Coro.Within.request_bind _ fun drawn =>
    spends_generated (hbuilt drawn) hrest)
  simp

theorem spends_queryChaincodes (requestor : User) (peers : List Peer) (channel : Option Channel)
    (fcn msg : String) :
    Spends (queryChaincodes rt requestor peers channel fcn msg) () (.of 1 1 0 0) := by
  refine Coro.Within.ofExcept_bind fun arg => spends_generateProposeCheck fun tx => ?_
  split
  · trivial
  · exact Coro.Within.ofExcept _ _

theorem spends_installChaincode (archiver : Archiver) (fs : FileSystem) (gopath : Option String)
    (time : UInt32) (requestor : User) (peers : List Peer) (ccSpec : ChaincodeSpec) :
    Spends (installChaincode rt archiver fs gopath time requestor peers ccSpec) ()
      (.of 1 1 0 0) :=
  Coro.Within.ofExcept_bind fun _ =>
    Coro.Within.mapError (spends_generateProposeCheck fun _ => trivial)

/-! ## Channels -/

theorem spends_createChannel (readFile : String → Except OSError Bytes) (requestor : User)
    (orderers : List Orderer) (channel : Channel) (txFilePath : String) :
    Spends (createChannel rt readFile requestor orderers channel txFilePath) ()
      (.of 1 0 orderers.length 0) := by
  refine Coro.Within.ofExcept_bind fun configUpdate => Coro.Within.mapError ?_
  refine Coro.Within.mono ?_ (Coro.Within.request_bind (.of 0 0 orderers.length 0) fun drawn =>
    Coro.Within.ofExcept_bind fun envelope =>
      Coro.Within.bind_free (spends_broadcastToOrderers _ _ _) fun _ _ => trivial)
  simp

/-- The loop over the orderers opens a stream of each, by induction on the orderers. -/
theorem spends_originLoop (requestor : User) (channel : Channel) (block : Option RawBlock)
    (connError : Option Exc) (orderers : List Orderer) :
    Spends (originLoop rt requestor channel block connError orderers) ()
      (.of orderers.length 0 0 orderers.length) := by
  induction orderers generalizing block connError with
  | nil => trivial
  | cons orderer orderers ih =>
      have horigin : Spends (originBlock rt requestor channel orderer) () (.of 1 0 0 1) := by
        refine Coro.Within.mono ?_ (Coro.Within.bind (.of 0 0 0 1)
          (spends_drawConnectionEnvelope _ _ _ _) fun envelope _ => Coro.Within.mono ?_
            (Coro.Within.request_bind (.of 0 0 0 0) fun stream => Coro.Within.ofExcept _ _))
        · simp
        · simp
      refine Coro.Within.mono ?_ (Coro.Within.bind (.of orderers.length 0 0 orderers.length)
        (Coro.Within.tryCatch (.of 0 0 0 0) (Coro.Within.bind_free horigin
          fun _ _ => trivial) ?_) fun _ _ => ih _ _)
      · simp [Nat.add_comm]
      · intro e _
        split <;> trivial

theorem spends_joinChannel (requestor : User) (orderers : List Orderer) (channel : Channel)
    (peer : Peer) :
    Spends (joinChannel rt requestor orderers channel peer) ()
      (.of (orderers.length + 1) 1 0 orderers.length) := by
  rw [joinChannel]
  split
  · trivial
  · refine Coro.Within.mono ?_ (Coro.Within.bind (.of 1 1 0 0)
      (spends_originLoop requestor channel none none orderers) ?_)
    · simp
    · rintro ⟨block, connError⟩ _
      cases connError with
      | some e => trivial
      | none =>
          cases block with
          | none => trivial
          | some block =>
              have hgenerate : Spends (generateJoinTx rt requestor block) () (.of 1 0 0 0) :=
                Coro.Within.ofExcept_bind fun name => spends_drawAndBuild _ _ _ _ _
              refine Coro.Within.mono ?_ (Coro.Within.bind (.of 0 1 0 0) hgenerate fun tx _ =>
                Coro.Within.bind_free (spends_proposeTx [peer] tx)
                  fun _ _ => Coro.Within.ofExcept _ _)
              simp

/-- The loop over the peers joins each once, by induction on the peers. -/
theorem spends_joinLoop (requestor : User) (orderers : List Orderer) (channel : Channel)
    (peers : List Peer) :
    Spends (Gateway.joinLoop rt requestor orderers channel peers) ()
      (.of (peers.length * (orderers.length + 1)) peers.length 0
        (peers.length * orderers.length)) := by
  induction peers with
  | nil => trivial
  | cons peer peers ih =>
      refine Coro.Within.mono ?_ (Coro.Within.bind _
        (spends_joinChannel requestor orderers channel peer) fun _ _ => ih)
      simp only [Budget.of_add, Budget.of_le, List.length_cons, Nat.succ_mul]
      omega

/-! ## Builders -/

/-- What an operation of a builder may ask for. -/
def OperationKind.budget (gateway : Gateway) : OperationKind → Budget
  | .propose _ => .of 0 1 0 0
  | .submit => .of 0 0 gateway.orderers.length 0
  | .waitForCommit _ _ => .of gateway.endorsingPeers.length 0 0 gateway.endorsingPeers.length

section Builders

variable {L : Type} (builder : GatewayTXBuilder)

/-- The loop over the peers opens a stream of each, by induction on the peers. -/
theorem spends_waitLoop (raiseErrors : Bool) (timeout : Int) (error : Exc) (peers : List Peer)
    (s : BuilderState L) :
    Spends (builder.waitLoop rt raiseErrors timeout error peers) s
      (.of peers.length 0 0 peers.length) := by
  induction peers generalizing error s with
  | nil => trivial
  | cons peer peers ih =>
      have hround : Spends (builder.waitOnPeer rt raiseErrors timeout peer) s (.of 1 0 0 1) := by
        refine Coro.Within.read_bind ?_
        split
        · trivial
        · refine Coro.Within.bind_free (Coro.Within.lift ?_ s) fun _ _ => trivial
          unfold GatewayTXBuilder.awaitTransaction
          split
          · split
            · exact spends_checkTransaction _ _ _ _ _ _ _
            · exact spends_waitFor (spends_getTransaction _ _ _ _ _ _) _
          · exact spends_waitFor (Coro.Within.raise _ ()) timeout
      refine Coro.Within.mono ?_
        (Coro.Within.tryCatch (.of peers.length 0 0 peers.length) hround ?_)
      · simp [Nat.add_comm]
      · intro err s'
        split
        · exact ih err s'
        · trivial

theorem spends_operate (kind : OperationKind) (s : BuilderState L) :
    Spends (builder.operate rt kind) s (kind.budget builder.gateway) := by
  cases kind with
  | propose raiseErrors =>
      refine Coro.Within.bind_free
        (Coro.Within.lift (spends_proposeTx _ builder.transaction) s) fun endorsedTx s' => ?_
      refine Coro.Within.annotate_bind ?_
      cases raiseErrors with
      | false => trivial
      | true => exact Coro.Within.ofExcept _ _
  | submit =>
      refine Coro.Within.read_bind ?_
      split
      · trivial
      · refine Coro.Within.annotate_bind
          (Coro.Within.bind_free (Coro.Within.lift ?_ s) fun _ _ => trivial)
        unfold GatewayTXBuilder.commit
        split
        · exact spends_commitTx _ _ _
        · trivial
  | waitForCommit raiseErrors timeout =>
      refine Coro.Within.read_bind ?_
      split
      · exact spends_waitLoop builder raiseErrors timeout _ _ s
      · trivial

/-- The operations of a queue cost what they cost one by one; by induction on the queue. -/
theorem spends_runLoop (operations : List Operation) (s : BuilderState L) :
    Spends (builder.runLoop rt operations) s
      (operations.map (·.kind.budget builder.gateway)).sum := by
  induction operations generalizing s with
  | nil => trivial
  | cons operation operations ih =>
      rw [List.map_cons, List.sum_cons]
      exact Coro.Within.annotate_bind (Coro.Within.bind _
        (spends_operate builder operation.kind s) fun _ s' => Coro.Within.annotate_bind (ih s'))

/-- Awaiting a builder costs what its operations cost. -/
theorem spends_runOperations {s : BuilderState (List Operation)} {operation : Operation}
    {operations : List Operation} (hs : s.operations = some (operation :: operations)) :
    Spends (builder.runOperations rt) s
      ((operation :: operations).map (·.kind.budget builder.gateway)).sum := by
  refine Coro.Within.read_bind ?_
  rw [hs]
  refine Coro.Within.bind_free
    (spends_runLoop builder (operation :: operations) s) fun _ s' => ?_
  exact Coro.Within.ofExcept _ _

/-- So does awaiting a new builder, where operations are queued. -/
theorem spends_awaitNew {kinds : List OperationKind} {operation : Operation}
    {operations : List Operation}
    (hqueue : (kinds.zipIdx.foldl (fun s k => GatewayTXBuilder.addOperation s ⟨k.2, k.1⟩)
      ({} : BuilderState (List Operation))).operations = some (operation :: operations)) :
    Spends (builder.awaitNew rt kinds) ()
      ((operation :: operations).map (·.kind.budget builder.gateway)).sum :=
  Coro.Within.withState (spends_runOperations builder hqueue)

end Builders

/-! ## The methods of a gateway -/

theorem spends_transact (gateway : Gateway) (fcn : String) (args : Option (List String))
    (transientMap : Option TransientMap) :
    Spends (gateway.transact rt fcn args transientMap) () (.of 1 0 0 0) := by
  unfold Gateway.transact
  split
  · trivial
  · split
    · trivial
    · trivial
    · trivial
    · exact spends_generateCcTx _ _ _ _ _ _

theorem spends_gatewayInvoke (gateway : Gateway) (fcn : String) (args : Option (List String))
    (transientMap : Option TransientMap) (timeout : Int) :
    Spends (gateway.invoke rt fcn args transientMap timeout) ()
      (.of (gateway.endorsingPeers.length + 1) 1 gateway.orderers.length
        gateway.endorsingPeers.length) := by
  refine Coro.Within.mono ?_ (Coro.Within.bind
    (.of gateway.endorsingPeers.length 1 gateway.orderers.length gateway.endorsingPeers.length)
    (spends_transact gateway fcn args transientMap) fun transaction _ =>
      Coro.Within.mono ?_ (spends_awaitNew ⟨gateway, transaction⟩ rfl))
  · simp [Nat.add_comm]
  · simp [OperationKind.budget]

theorem spends_gatewayQuery (gateway : Gateway) (fcn : String) (args : Option (List String))
    (transientMap : Option TransientMap) :
    Spends (gateway.query rt fcn args transientMap) () (.of 1 1 0 0) := by
  refine Coro.Within.mono ?_ (Coro.Within.bind (.of 0 1 0 0)
    (spends_transact gateway fcn args transientMap) fun transaction _ =>
      Coro.Within.mono ?_ (spends_awaitNew ⟨gateway, transaction⟩ rfl))
  · simp
  · simp [OperationKind.budget]

theorem spends_gatewayCreateChannel (readFile : String → Except OSError Bytes) (gateway : Gateway)
    (txFilePath : String) :
    Spends (gateway.createChannel rt readFile txFilePath) ()
      (.of 1 0 gateway.orderers.length 0) := by
  unfold Gateway.createChannel
  split
  · trivial
  · split
    · trivial
    · exact spends_createChannel readFile _ _ _ txFilePath

theorem spends_gatewayJoinChannel (gateway : Gateway) (peers : Option (List Peer)) :
    let joining := ((givenPeers peers).getD gateway.endorsingPeers).length
    Spends (gateway.joinChannel rt peers) ()
      (.of (joining * (gateway.orderers.length + 1)) joining 0
        (joining * gateway.orderers.length)) := by
  intro joining
  unfold Gateway.joinChannel
  dsimp only
  split
  · trivial
  · exact spends_joinLoop _ _ _ _

theorem spends_gatewayQueryInstantiatedChaincodes (gateway : Gateway) :
    Spends (gateway.queryInstantiatedChaincodes rt) () (.of 1 1 0 0) := by
  unfold Gateway.queryInstantiatedChaincodes
  split
  · trivial
  · split
    · trivial
    · exact spends_queryChaincodes _ _ _ _ _

theorem spends_gatewayInstallChaincode (archiver : Archiver) (fs : FileSystem)
    (gopath : Option String) (time : UInt32) (gateway : Gateway) (peers : Option (List Peer)) :
    Spends (gateway.installChaincode rt archiver fs gopath time peers) () (.of 1 1 0 0) := by
  unfold Gateway.installChaincode
  dsimp only
  split
  · trivial
  · trivial
  · trivial
  · exact spends_installChaincode _ _ _ _ _ _ _

theorem spends_gatewayInstantiateChaincode {case : CaseMapping}
    (order order' : SetOrder EndorsementPolicyRole) (gateway : Gateway)
    (endorsementPolicy : Option EndorsementPolicy) (upgrade : Bool) (timeout : Int) :
    Spends (gateway.instantiateChaincode rt case order order' endorsementPolicy upgrade timeout) ()
      (.of 2 1 gateway.orderers.length 1) := by
  unfold Gateway.instantiateChaincode
  split
  · trivial
  · trivial
  · split
    · trivial
    split
    · trivial
    split
    · trivial
    · exact spends_instantiateChaincode _ _ _ _ _ _ _ _ _ _

/-! ## Calls -/

/-- What a call may ask for, at most. -/
def OperationCall.budget : OperationCall → Budget
  | invoke _ _ orderers _ _ _ _ _ _ => .of 2 1 orderers.length 1
  | query _ _ _ _ _ _ _ => .of 1 1 0 0
  | createChannel _ _ orderers _ _ => .of 1 0 orderers.length 0
  | joinChannel _ orderers _ _ => .of (orderers.length + 1) 1 0 orderers.length
  | queryInstantiatedChaincodes _ _ _ => .of 1 1 0 0
  | queryInstalledChaincodes _ _ => .of 1 1 0 0
  | installChaincode _ _ _ _ _ _ _ => .of 1 1 0 0
  | instantiateChaincode _ _ _ _ _ orderers _ _ _ _ _ => .of 2 1 orderers.length 1
  | gatewayInvoke gateway _ _ _ _ =>
      .of (gateway.endorsingPeers.length + 1) 1 gateway.orderers.length
        gateway.endorsingPeers.length
  | gatewayQuery _ _ _ _ => .of 1 1 0 0
  | gatewayCreateChannel _ gateway _ => .of 1 0 gateway.orderers.length 0
  -- Every peer that joins reads the origin block for itself.
  | gatewayJoinChannel gateway peers =>
      let joining := ((givenPeers peers).getD gateway.endorsingPeers).length
      .of (joining * (gateway.orderers.length + 1)) joining 0 (joining * gateway.orderers.length)
  | gatewayQueryInstantiatedChaincodes _ => .of 1 1 0 0
  | gatewayInstallChaincode _ _ _ _ _ _ => .of 1 1 0 0
  | gatewayInstantiateChaincode _ _ _ gateway _ _ _ => .of 2 1 gateway.orderers.length 1

/-- A task costs what its coroutine does. -/
theorem spends_task {α : Type} {c : FileAsync α} {budget : Budget} (h : Spends c () budget) :
    Spends (task c) () budget :=
  Coro.Within.bind_free h fun _ _ => trivial

/-- **Every call keeps within its budget**, whatever it is answered. -/
theorem OperationCall.spends_task (call : OperationCall) :
    Spends (call.task rt) () call.budget := by
  cases call with
  | invoke requestor peers orderers channel ccName fcn args timeout transientMap =>
      exact Snakeskin.spends_task (Coro.Within.mapError (spends_invoke requestor peers orderers
        channel ccName fcn args timeout transientMap))
  | query requestor peers channel ccName fcn args transientMap =>
      exact Snakeskin.spends_task (Coro.Within.mapError (spends_query requestor peers channel ccName
        fcn args transientMap))
  | createChannel readFile requestor orderers channel txFilePath =>
      exact spends_createChannel readFile requestor orderers channel txFilePath
  | joinChannel requestor orderers channel peer =>
      exact Coro.Within.mapError (spends_joinChannel requestor orderers channel peer)
  | queryInstantiatedChaincodes requestor peers channel =>
      exact Snakeskin.spends_task (Coro.Within.mapError (spends_queryChaincodes requestor peers
        (some channel) _ _))
  | queryInstalledChaincodes requestor peer =>
      exact Snakeskin.spends_task (Coro.Within.mapError (spends_queryChaincodes requestor [peer]
        none _ _))
  | installChaincode archiver fs gopath time requestor peers ccSpec =>
      exact Snakeskin.spends_task (spends_installChaincode archiver fs gopath time requestor peers
        ccSpec)
  | instantiateChaincode case order order' requestor peers orderers channel ccSpec endorsementPolicy
      upgrade timeout =>
      exact Snakeskin.spends_task (Coro.Within.mapError (spends_instantiateChaincode order order'
        requestor peers orderers channel ccSpec endorsementPolicy upgrade timeout))
  | gatewayInvoke gateway fcn args transientMap timeout =>
      exact Snakeskin.spends_task (Coro.Within.mapError (spends_gatewayInvoke gateway fcn args
        transientMap timeout))
  | gatewayQuery gateway fcn args transientMap =>
      exact Snakeskin.spends_task (Coro.Within.mapError (spends_gatewayQuery gateway fcn args
        transientMap))
  | gatewayCreateChannel readFile gateway txFilePath =>
      exact spends_gatewayCreateChannel readFile gateway txFilePath
  | gatewayJoinChannel gateway peers =>
      exact Coro.Within.mapError (spends_gatewayJoinChannel gateway peers)
  | gatewayQueryInstantiatedChaincodes gateway =>
      exact Snakeskin.spends_task (Coro.Within.mapError
        (spends_gatewayQueryInstantiatedChaincodes gateway))
  | gatewayInstallChaincode archiver fs gopath time gateway peers =>
      exact Snakeskin.spends_task (spends_gatewayInstallChaincode archiver fs gopath time gateway
        peers)
  | gatewayInstantiateChaincode case order order' gateway endorsementPolicy upgrade timeout =>
      exact Snakeskin.spends_task (Coro.Within.mapError (spends_gatewayInstantiateChaincode order
        order' gateway endorsementPolicy upgrade timeout))

/-- Among others a call keeps within its budget as well. -/
theorem sum_price_askedBy_le {steps : List ClientStep} {thread : Nat} {call : OperationCall}
    (hcall : (calls steps)[thread]? = some call) :
    ((Coro.Pool.askedBy thread (clientLog rt steps)).map Request.price).sum ≤ call.budget :=
  (Coro.Pool.isolated_run (steps.map (ClientStep.label rt))).within
    (getElem?_spawned_eq_some.mpr ⟨call, hcall, rfl⟩) (plainNetwork []) call.spends_task

/-- **No operation repeats itself.** In every interleaving of high-level operations, with any
answers and any cancellations, a call asks for requests of each kind at most as often as its budget
says: once for a proposal to its peers, once for each orderer to broadcast to, and so on. -/
theorem interleaved_requests_bounded {steps : List ClientStep} {thread : Nat} {call : OperationCall}
    (hcall : (calls steps)[thread]? = some call) (kind : RequestKind) :
    (Coro.Pool.askedBy thread (clientLog rt steps)).countP (·.kind = kind) ≤ call.budget kind := by
  rw [← sum_price]
  exact sum_price_askedBy_le hcall kind

/-- The invocation beside a query proposes once at most. -/
theorem interleaved_requests_bounded_invokeBesideQuery :
    ∃ call, (calls invokeBesideQuery)[0]? = some call ∧ call.budget .proposal = 1 ∧
      (Coro.Pool.askedBy 0 (clientLog (wireRuntime id) invokeBesideQuery)).countP
        (·.kind = .proposal) ≤ 1 :=
  ⟨_, rfl, rfl, @interleaved_requests_bounded (wireRuntime id) invokeBesideQuery 0 _ rfl .proposal⟩

/-- **Every operation ends.** In every interleaving of high-level operations, a call that was
answered as often as its budget allows in total has returned or raised. -/
theorem interleaved_operation_ends {steps : List ClientStep} {thread : Nat} {call : OperationCall}
    (hcall : (calls steps)[thread]? = some call)
    (hanswered : call.budget.total ≤ (Coro.historyOf thread (clientLog rt steps)).length) :
    ((Coro.Pool.empty : Coro.Pool Request Answer Note FileExc).run
      (steps.map (·.label rt))).threads thread = .ended := by
  have hisolated := Coro.Pool.isolated_run (steps.map (ClientStep.label rt))
  cases hthread : ((Coro.Pool.empty : Coro.Pool Request Answer Note FileExc).run
      (steps.map (·.label rt))).threads thread with
  | ended => rfl
  | waiting q k =>
      -- It would have asked for one request more than it was answered.
      have hlength : (Coro.Pool.askedBy thread (clientLog rt steps)).length =
          (Coro.historyOf thread (clientLog rt steps)).length + 1 :=
        hisolated.length_askedBy_of_waiting hthread
      have hbudget : (Coro.Pool.askedBy thread (clientLog rt steps)).length ≤ call.budget.total :=
        length_le_total (sum_price_askedBy_le hcall)
      omega

/-- A query that is answered twice has ended. -/
theorem interleaved_operation_ends_query :
    let steps : List ClientStep := [
      .start (.query keyedUser [{ endpoint := "peer:7051" }] ⟨"channel"⟩ "cc" "get" none none),
      .answer 0 (originNetwork []), .answer 0 (originNetwork [])]
    ((Coro.Pool.empty : Coro.Pool Request Answer Note FileExc).run
      (steps.map (·.label (wireRuntime id)))).threads 0 = .ended := by
  intro steps
  exact @interleaved_operation_ends (wireRuntime id) steps 0 _ rfl (Nat.le_of_eq rfl)

end Snakeskin
