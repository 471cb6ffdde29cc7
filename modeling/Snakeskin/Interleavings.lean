import Snakeskin.JustifiedRequests
import Snakeskin.Library.Isolation

/-! # Operations side by side

A client runs any number of operations in one event loop: each goes on when it is answered, and may
be cancelled while it waits. This file puts the high-level operations into one pool and shows that
every request in its log is justified by what its own operation was told by then. -/

namespace Snakeskin

open Wire

/-! ## Calls -/

/-- A call of a high-level operation or of a method of a gateway, with what it reads from the
disk. -/
inductive OperationCall where
  | invoke (requestor : User) (peers : List Peer) (orderers : List Orderer) (channel : Channel)
      (ccName fcn : String) (args : Option (List String)) (timeout : Int)
      (transientMap : Option TransientMap)
  | query (requestor : User) (peers : List Peer) (channel : Channel) (ccName fcn : String)
      (args : Option (List String)) (transientMap : Option TransientMap)
  | createChannel (readFile : String → Except OSError Bytes) (requestor : User)
      (orderers : List Orderer) (channel : Channel) (txFilePath : String)
  | joinChannel (requestor : User) (orderers : List Orderer) (channel : Channel) (peer : Peer)
  | queryInstantiatedChaincodes (requestor : User) (peers : List Peer) (channel : Channel)
  | queryInstalledChaincodes (requestor : User) (peer : Peer)
  | installChaincode (archiver : Archiver) (fs : FileSystem) (gopath : Option String)
      (time : UInt32) (requestor : User) (peers : List Peer) (ccSpec : ChaincodeSpec)
  | instantiateChaincode (case : CaseMapping) (order order' : SetOrder EndorsementPolicyRole)
      (requestor : User) (peers : List Peer) (orderers : List Orderer) (channel : Channel)
      (ccSpec : ChaincodeSpec) (endorsementPolicy : Option EndorsementPolicy) (upgrade : Bool)
      (timeout : Int)
  | gatewayInvoke (gateway : Gateway) (fcn : String) (args : Option (List String))
      (transientMap : Option TransientMap) (timeout : Int)
  | gatewayQuery (gateway : Gateway) (fcn : String) (args : Option (List String))
      (transientMap : Option TransientMap)
  | gatewayCreateChannel (readFile : String → Except OSError Bytes) (gateway : Gateway)
      (txFilePath : String)
  | gatewayJoinChannel (gateway : Gateway) (peers : Option (List Peer))
  | gatewayQueryInstantiatedChaincodes (gateway : Gateway)
  | gatewayInstallChaincode (archiver : Archiver) (fs : FileSystem) (gopath : Option String)
      (time : UInt32) (gateway : Gateway) (peers : Option (List Peer))
  | gatewayInstantiateChaincode (case : CaseMapping) (order order' : SetOrder EndorsementPolicyRole)
      (gateway : Gateway) (endorsementPolicy : Option EndorsementPolicy) (upgrade : Bool)
      (timeout : Int)

variable (rt : Runtime)

/-- A task that runs a coroutine to its end. -/
def task {α : Type} (c : FileAsync α) : FileAsync Unit := c.bind fun _ => Coro.ret ()

/-- The task of a call. -/
def OperationCall.task : OperationCall → FileAsync Unit
  | invoke requestor peers orderers channel ccName fcn args timeout transientMap =>
      Snakeskin.task ((Snakeskin.invoke rt requestor peers orderers channel ccName fcn args timeout
        transientMap).mapError Sum.inr)
  | query requestor peers channel ccName fcn args transientMap =>
      Snakeskin.task ((Snakeskin.query rt requestor peers channel ccName fcn args
        transientMap).mapError Sum.inr)
  | createChannel readFile requestor orderers channel txFilePath =>
      Snakeskin.createChannel rt readFile requestor orderers channel txFilePath
  | joinChannel requestor orderers channel peer =>
      (Snakeskin.joinChannel rt requestor orderers channel peer).mapError Sum.inr
  | queryInstantiatedChaincodes requestor peers channel =>
      Snakeskin.task ((Snakeskin.queryInstantiatedChaincodes rt requestor peers channel).mapError
        Sum.inr)
  | queryInstalledChaincodes requestor peer =>
      Snakeskin.task ((Snakeskin.queryInstalledChaincodes rt requestor peer).mapError Sum.inr)
  | installChaincode archiver fs gopath time requestor peers ccSpec =>
      Snakeskin.task
        (Snakeskin.installChaincode rt archiver fs gopath time requestor peers ccSpec)
  | instantiateChaincode case order order' requestor peers orderers channel ccSpec endorsementPolicy
      upgrade timeout =>
      Snakeskin.task ((Snakeskin.instantiateChaincode rt case order order' requestor peers orderers
        channel ccSpec endorsementPolicy upgrade timeout).mapError Sum.inr)
  | gatewayInvoke gateway fcn args transientMap timeout =>
      Snakeskin.task ((gateway.invoke rt fcn args transientMap timeout).mapError Sum.inr)
  | gatewayQuery gateway fcn args transientMap =>
      Snakeskin.task ((gateway.query rt fcn args transientMap).mapError Sum.inr)
  | gatewayCreateChannel readFile gateway txFilePath =>
      gateway.createChannel rt readFile txFilePath
  | gatewayJoinChannel gateway peers => (gateway.joinChannel rt peers).mapError Sum.inr
  | gatewayQueryInstantiatedChaincodes gateway =>
      Snakeskin.task ((gateway.queryInstantiatedChaincodes rt).mapError Sum.inr)
  | gatewayInstallChaincode archiver fs gopath time gateway peers =>
      Snakeskin.task (gateway.installChaincode rt archiver fs gopath time peers)
  | gatewayInstantiateChaincode case order order' gateway endorsementPolicy upgrade timeout =>
      Snakeskin.task ((gateway.instantiateChaincode rt case order order' endorsementPolicy upgrade
        timeout).mapError Sum.inr)

/-- The user that a call is made for; a gateway may have none, and then refuses. -/
def OperationCall.requestor : OperationCall → Option User
  | invoke requestor _ _ _ _ _ _ _ _ => some requestor
  | query requestor _ _ _ _ _ _ => some requestor
  | createChannel _ requestor _ _ _ => some requestor
  | joinChannel requestor _ _ _ => some requestor
  | queryInstantiatedChaincodes requestor _ _ => some requestor
  | queryInstalledChaincodes requestor _ => some requestor
  | installChaincode _ _ _ _ requestor _ _ => some requestor
  | instantiateChaincode _ _ _ requestor _ _ _ _ _ _ _ => some requestor
  | gatewayInvoke gateway _ _ _ _ => gateway.requestor
  | gatewayQuery gateway _ _ _ => gateway.requestor
  | gatewayCreateChannel _ gateway _ => gateway.requestor
  | gatewayJoinChannel gateway _ => gateway.requestor
  | gatewayQueryInstantiatedChaincodes gateway => gateway.requestor
  | gatewayInstallChaincode _ _ _ _ gateway _ => gateway.requestor
  | gatewayInstantiateChaincode _ _ _ gateway _ _ _ => gateway.requestor

/-! ## Every call keeps to the rule -/

variable {rt} {users : Set User}

theorem keepsRule_mapError {α : Type} {c : Async Unit α} {h : History}
    (hc : KeepsRule rt users (fun _ _ _ => True) c () h) :
    KeepsRule rt users (fun _ _ _ => True) (c.mapError (Sum.inr : Exc → FileExc)) () h :=
  Coro.Obeys.mapError hc

theorem keepsRule_task {α : Type} {c : FileAsync α} {h : History}
    (hc : KeepsRule rt users (fun _ _ _ => True) c () h) :
    KeepsRule rt users (fun _ _ _ => True) (task c) () h :=
  keepsRule_bind hc fun _ _ _ _ _ => trivial

theorem keepsRule_createChannel (readFile : String → Except OSError Bytes) {requestor : User}
    (hrequestor : requestor ∈ users) (orderers : List Orderer) (channel : Channel)
    (txFilePath : String) (h : History) :
    KeepsRule rt users (fun _ _ _ => True)
      (createChannel rt readFile requestor orderers channel txFilePath) () h :=
  keepsRule_ofExcept_bind fun configUpdate _ =>
    keepsRule_mapError (keepsRule_submitConfigUpdate hrequestor orderers channel configUpdate h)

theorem keepsRule_installChaincode (archiver : Archiver) (fs : FileSystem)
    (gopath : Option String) (time : UInt32) {requestor : User} (hrequestor : requestor ∈ users)
    (peers : List Peer) (ccSpec : ChaincodeSpec) (h : History) :
    KeepsRule rt users (fun _ _ _ => True)
      (installChaincode rt archiver fs gopath time requestor peers ccSpec) () h :=
  keepsRule_ofExcept_bind fun args _ =>
    keepsRule_mapError (keepsRule_proposeInstall hrequestor peers ccSpec args h)

/-- The assets of a gateway are its channel and its requestor. -/
theorem assets_of_channelAndRequestor {gateway : Gateway} {channel : Channel} {requestor : User}
    (h : gateway.channelAndRequestor = .ok (channel, requestor)) :
    gateway.channel = some channel ∧ gateway.requestor = some requestor := by
  unfold Gateway.channelAndRequestor at h
  split at h
  · cases h
  · cases h
  · rename_i hchannel hrequestor
    cases h
    exact ⟨hchannel, hrequestor⟩

/-- The methods of a gateway keep to the rule: either they raise at once, or they run the operation
on the assets of the gateway. -/
theorem keepsRule_gatewayCreateChannel (readFile : String → Except OSError Bytes)
    {gateway : Gateway}
    (hrequestor : ∀ requestor, gateway.requestor = some requestor → requestor ∈ users)
    (txFilePath : String) (h : History) :
    KeepsRule rt users (fun _ _ _ => True) (gateway.createChannel rt readFile txFilePath) () h := by
  unfold Gateway.createChannel
  split
  · trivial
  · split
    · trivial
    · rename_i channel requestor hassets
      exact keepsRule_createChannel readFile
        (hrequestor requestor (assets_of_channelAndRequestor hassets).2) gateway.orderers channel
        txFilePath h

theorem keepsRule_gatewayJoinChannel {gateway : Gateway}
    (hrequestor : ∀ requestor, gateway.requestor = some requestor → requestor ∈ users)
    (peers : Option (List Peer))
    (h : History) :
    KeepsRule rt users (fun _ _ _ => True) (gateway.joinChannel rt peers) () h := by
  unfold Gateway.joinChannel
  dsimp only
  split
  · trivial
  · rename_i channel requestor hassets
    exact keepsRule_joinLoop (hrequestor requestor (assets_of_channelAndRequestor hassets).2)
      gateway.orderers channel _ h

theorem keepsRule_gatewayQueryInstantiatedChaincodes {gateway : Gateway}
    (hrequestor : ∀ requestor, gateway.requestor = some requestor → requestor ∈ users)
    (h : History) :
    KeepsRule rt users (fun _ _ _ => True) (gateway.queryInstantiatedChaincodes rt) () h := by
  unfold Gateway.queryInstantiatedChaincodes
  split
  · trivial
  · split
    · trivial
    · rename_i channel requestor hassets _
      exact keepsRule_queryChaincodes
        (hrequestor requestor (assets_of_channelAndRequestor hassets).2) gateway.endorsingPeers
        (some channel) _ _ h

theorem keepsRule_gatewayInstallChaincode (archiver : Archiver) (fs : FileSystem)
    (gopath : Option String) (time : UInt32) {gateway : Gateway}
    (hrequestor : ∀ requestor, gateway.requestor = some requestor → requestor ∈ users)
    (peers : Option (List Peer)) (h : History) :
    KeepsRule rt users (fun _ _ _ => True)
      (gateway.installChaincode rt archiver fs gopath time peers) () h := by
  unfold Gateway.installChaincode
  dsimp only
  split
  · trivial
  · trivial
  · trivial
  · rename_i requestor peer peers ccSpec hsome _ _
    exact keepsRule_installChaincode archiver fs gopath time (hrequestor requestor hsome)
      (peer :: peers) ccSpec h

theorem keepsRule_gatewayInstantiateChaincode (case : CaseMapping)
    (order order' : SetOrder EndorsementPolicyRole) {gateway : Gateway}
    (hrequestor : ∀ requestor, gateway.requestor = some requestor → requestor ∈ users)
    (endorsementPolicy : Option EndorsementPolicy) (upgrade : Bool) (timeout : Int) (h : History) :
    KeepsRule rt users (fun _ _ _ => True)
      (gateway.instantiateChaincode rt case order order' endorsementPolicy upgrade timeout) () h := by
  unfold Gateway.instantiateChaincode
  split
  · trivial
  · trivial
  · rename_i requestor channel hsome _
    split
    · trivial
    · split
      · trivial
      · split
        · trivial
        · exact keepsRule_instantiateChaincode case order order' (hrequestor requestor hsome)
            gateway.endorsingPeers gateway.orderers channel _ endorsementPolicy upgrade timeout h

/-- **Every call keeps to the rule** of the user it is made for, whatever it is answered. -/
theorem OperationCall.keepsRule_task {call : OperationCall}
    (hcall : ∀ requestor, call.requestor = some requestor → requestor ∈ users) (h : History) :
    KeepsRule rt users (fun _ _ _ => True) (call.task rt) () h := by
  cases call with
  | invoke requestor peers orderers channel ccName fcn args timeout transientMap =>
      exact Snakeskin.keepsRule_task (keepsRule_mapError (keepsRule_invoke (hcall requestor rfl) peers
        orderers channel ccName fcn args timeout transientMap h))
  | query requestor peers channel ccName fcn args transientMap =>
      exact Snakeskin.keepsRule_task (keepsRule_mapError (keepsRule_query (hcall requestor rfl) peers
        channel ccName fcn args transientMap h))
  | createChannel readFile requestor orderers channel txFilePath =>
      exact keepsRule_createChannel readFile (hcall requestor rfl) orderers channel txFilePath h
  | joinChannel requestor orderers channel peer =>
      exact keepsRule_mapError (keepsRule_joinChannel (hcall requestor rfl) orderers channel peer h)
  | queryInstantiatedChaincodes requestor peers channel =>
      exact Snakeskin.keepsRule_task (keepsRule_mapError (keepsRule_queryChaincodes
        (hcall requestor rfl) peers (some channel) _ _ h))
  | queryInstalledChaincodes requestor peer =>
      exact Snakeskin.keepsRule_task (keepsRule_mapError (keepsRule_queryChaincodes
        (hcall requestor rfl) [peer] none _ _ h))
  | installChaincode archiver fs gopath time requestor peers ccSpec =>
      exact Snakeskin.keepsRule_task (keepsRule_installChaincode archiver fs gopath time
        (hcall requestor rfl) peers ccSpec h)
  | instantiateChaincode case order order' requestor peers orderers channel ccSpec endorsementPolicy
      upgrade timeout =>
      exact Snakeskin.keepsRule_task (keepsRule_mapError (keepsRule_instantiateChaincode case order
        order' (hcall requestor rfl) peers orderers channel ccSpec endorsementPolicy upgrade timeout
        h))
  | gatewayInvoke gateway fcn args transientMap timeout =>
      exact Snakeskin.keepsRule_task (keepsRule_mapError (keepsRule_gatewayInvoke hcall fcn args
        transientMap timeout h))
  | gatewayQuery gateway fcn args transientMap =>
      exact Snakeskin.keepsRule_task (keepsRule_mapError (keepsRule_gatewayQuery hcall fcn args
        transientMap h))
  | gatewayCreateChannel readFile gateway txFilePath =>
      exact keepsRule_gatewayCreateChannel readFile hcall txFilePath h
  | gatewayJoinChannel gateway peers =>
      exact keepsRule_mapError (keepsRule_gatewayJoinChannel hcall peers h)
  | gatewayQueryInstantiatedChaincodes gateway =>
      exact Snakeskin.keepsRule_task (keepsRule_mapError
        (keepsRule_gatewayQueryInstantiatedChaincodes hcall h))
  | gatewayInstallChaincode archiver fs gopath time gateway peers =>
      exact Snakeskin.keepsRule_task (keepsRule_gatewayInstallChaincode archiver fs gopath time hcall
        peers h)
  | gatewayInstantiateChaincode case order order' gateway endorsementPolicy upgrade timeout =>
      exact Snakeskin.keepsRule_task (keepsRule_mapError (keepsRule_gatewayInstantiateChaincode case
        order order' hcall endorsementPolicy upgrade timeout h))

/-! ## Interleavings -/

/-- What may happen to a client: an operation is called, is answered, or is cancelled. -/
inductive ClientStep where
  | start (call : OperationCall)
  | answer (thread : Nat) (reply : (q : Request) → Answer q)
  | cancel (thread : Nat)

variable (rt) in
/-- The step of the pool. -/
def ClientStep.label : ClientStep → Coro.Pool.Label Request Answer Note FileExc
  | .start call => .spawn (call.task rt)
  | .answer thread reply => .answer thread reply
  | .cancel thread => .cancel thread

variable (rt) in
/-- What happened in a client after some steps: who asked for what, and who was told what. -/
def clientLog (steps : List ClientStep) : List (Coro.Happening Request Answer) :=
  ((Coro.Pool.empty : Coro.Pool Request Answer Note FileExc).run (steps.map (·.label rt))).log

/-- The users for whom calls are made in some steps. -/
def requestors (steps : List ClientStep) : Set User :=
  { requestor | ∃ call, .start call ∈ steps ∧ OperationCall.requestor call = some requestor }

/-- The call that is started by a step. -/
def ClientStep.call? : ClientStep → Option OperationCall
  | .start call => some call
  | .answer _ _ => none
  | .cancel _ => none

/-- The calls of some steps; each runs under its number. -/
def calls (steps : List ClientStep) : List OperationCall := steps.filterMap ClientStep.call?

/-- What is started in the pool are the tasks of the calls. -/
theorem spawned_labels (steps : List ClientStep) :
    (steps.map (ClientStep.label rt)).filterMap Coro.Pool.Label.spawned? =
      (calls steps).map (OperationCall.task rt) := by
  rw [calls, List.filterMap_map, List.map_filterMap]
  refine congrArg (List.filterMap · steps) (funext fun step => ?_)
  cases step <;> rfl

/-- What runs under a number is the task of the call with that number. -/
theorem getElem?_spawned_eq_some {steps : List ClientStep} {thread : Nat} {c : FileAsync Unit} :
    ((steps.map (ClientStep.label rt)).filterMap Coro.Pool.Label.spawned?)[thread]? = some c ↔
      ∃ call, (calls steps)[thread]? = some call ∧ call.task rt = c := by
  rw [spawned_labels, List.getElem?_map, Option.map_eq_some_iff]

/-- A call was started by one of the steps. -/
theorem start_mem_of_getElem?_calls {steps : List ClientStep} {thread : Nat} {call : OperationCall}
    (h : (calls steps)[thread]? = some call) : .start call ∈ steps := by
  obtain ⟨step, hmem, hstep⟩ := List.mem_filterMap.mp (List.mem_of_getElem? h)
  cases step with
  | start call' =>
      cases hstep
      exact hmem
  | answer thread reply => cases hstep
  | cancel thread => cases hstep

variable (rt) in
/-- A client is obedient after any steps: its operations keep to the rule, each for its caller. -/
theorem obedient_client (steps : List ClientStep) :
    ((Coro.Pool.empty : Coro.Pool Request Answer Note FileExc).run
      (steps.map (·.label rt))).Obedient fun _ => Justified rt (requestors steps) := by
  refine Coro.Pool.obedient_empty.run _ fun i c hc => ?_
  obtain ⟨call, hthread, rfl⟩ := getElem?_spawned_eq_some.mp hc
  have hcall : ∀ requestor, call.requestor = some requestor → requestor ∈ requestors steps :=
    fun requestor hrequestor => ⟨call, start_mem_of_getElem?_calls hthread, hrequestor⟩
  exact OperationCall.keepsRule_task hcall []

/-- **Every request is justified.** In every interleaving of high-level operations, with any
answers and any cancellations, what an operation asks for is justified by what that operation was
told by then. -/
theorem interleaved_requests_justified {steps : List ClientStep}
    {before after : List (Coro.Happening Request Answer)} {thread : Nat} {q : Request}
    (h : clientLog rt steps = before ++ .asked thread q :: after) :
    Justified rt (requestors steps) (Coro.historyOf thread before) q :=
  (obedient_client rt steps).asked before thread q after h

/-- Two operations side by side: an invocation that is answered twice, and a query that waits. -/
def invokeBesideQuery : List ClientStep :=
  [.start (.invoke keyedUser [{ endpoint := "peer:7051" }] [{ endpoint := "orderer:7050" }]
    ⟨"channel"⟩ "cc" "set" none 30 none),
    .start (.query keyedUser [{ endpoint := "peer:7051" }] ⟨"channel"⟩ "cc" "get" none none),
    .answer 0 (originNetwork []), .answer 0 (originNetwork [])]

/-- The invocation sends its envelope to the orderer. -/
theorem interleaved_requests_justified_invokeBesideQuery :
    ∃ before envelope, clientLog (wireRuntime id) invokeBesideQuery =
        before ++ [.asked 0 (.broadcast { endpoint := "orderer:7050" } envelope)] ∧
      Justified (wireRuntime id) (requestors invokeBesideQuery) (Coro.historyOf 0 before)
        (.broadcast { endpoint := "orderer:7050" } envelope) := by
  obtain ⟨before, envelope, hlog⟩ : ∃ before envelope,
      clientLog (wireRuntime id) invokeBesideQuery =
        before ++ [.asked 0 (.broadcast { endpoint := "orderer:7050" } envelope)] :=
    ⟨[_, _, _, _, _], _, rfl⟩
  exact ⟨before, envelope, hlog, interleaved_requests_justified hlog⟩

end Snakeskin
