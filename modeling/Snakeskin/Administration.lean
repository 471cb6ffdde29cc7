import Snakeskin.Decoded
import Snakeskin.Deployment
import Snakeskin.Gateway
import Snakeskin.JoinChannel
import Snakeskin.Packaging

/-! # Administration

The operations of `operations.py` that set up channels and chaincodes, and the methods of a gateway
that run them: creating and joining channels, installing, instantiating and querying chaincodes.
What an operation reads from the disk is an argument; where it may fail to, its exceptions are those
of the operating system beside the others. -/

namespace Snakeskin

open Wire

variable (rt : Runtime)

/-- An exception of an operation that reads files. -/
abbrev FileExc := OSError ⊕ Exc

/-- Coroutines of operations that read files. -/
abbrev FileAsync := Coro Unit Request Answer Note FileExc

/-- How an optional string prints. -/
def printed (s : Option String) : String := s.getD "None"

/-! ## Creating channels -/

/-- The config update of a channel transaction, as `configtxgen` writes it. -/
def channelConfigUpdate (tx : Bytes) : Except Exc Bytes := do
  let envelope ← rt.parse Envelope tx
  let payload ← rt.parse Payload envelope.payload
  let configtx ← rt.parse ConfigUpdateEnvelope payload.data
  return configtx.configUpdate

/-- Reads the config update from a transaction file. -/
def readConfigUpdate (readFile : String → Except OSError Bytes) (txFilePath : String) :
    Except FileExc Bytes := do
  let tx ← (readFile txFilePath).mapError Sum.inl
  (channelConfigUpdate rt tx).mapError Sum.inr

/-- Signs a config update on behalf of a user and broadcasts it. -/
def submitConfigUpdate (requestor : User) (orderers : List Orderer) (channel : Channel)
    (configUpdate : Bytes) : Async Unit Unit := do
  let (nonce, timestamp) : Bytes × Timestamp ← Coro.request Request.entropy
  let txContext := txContextFromUser rt requestor nonce
  let envelope ← Coro.ofExcept
    (buildConfigUpdateEnvelope rt channel txContext requestor configUpdate timestamp)
  let _ ← broadcastToOrderers envelope orderers txContext.txId
  return ()

/-- A high-level operation that creates a channel from a transaction file. -/
def createChannel (readFile : String → Except OSError Bytes) (requestor : User)
    (orderers : List Orderer) (channel : Channel) (txFilePath : String) : FileAsync Unit := do
  let configUpdate ← Coro.ofExcept (readConfigUpdate rt readFile txFilePath)
  (submitConfigUpdate rt requestor orderers channel configUpdate).mapError Sum.inr

/-! ## Queries of chaincodes -/

/-- Asks `lscc` on some peers for a list of chaincodes; the answer of the first peer counts. -/
def queryChaincodes (requestor : User) (peers : List Peer) (channel : Option Channel)
    (fcn msg : String) : Async Unit ChaincodeQueryResponse := do
  let arg ← Coro.ofExcept (encodeProtoBytes fcn)
  let (nonce, timestamp) : Bytes × Timestamp ← Coro.request Request.entropy
  let generatedTx ← Coro.ofExcept
    (buildGeneratedTx rt requestor "lscc" [arg] channel none nonce timestamp)
  let endorsedTx ← proposeTx peers generatedTx
  Coro.ofExcept (raiseTxProposalError endorsedTx msg)
  match endorsedTx.peerResponses with
  | [] => Coro.raise (.indexError "list index out of range")
  | resp :: _ => Coro.ofExcept (rt.parse ChaincodeQueryResponse resp.response.payload)

/-- Queries instantiated chaincodes on the provided peers. -/
def queryInstantiatedChaincodes (requestor : User) (peers : List Peer) (channel : Channel) :
    Async Unit ChaincodeQueryResponse :=
  queryChaincodes rt requestor peers (some channel) "getchaincodes"
    s!"Failed query instantiated chaincodes for channel {channel.name}"

/-- Queries installed chaincodes on the provided peer. -/
def queryInstalledChaincodes (requestor : User) (peer : Peer) : Async Unit ChaincodeQueryResponse :=
  queryChaincodes rt requestor [peer] none "getinstalledchaincodes" "Failed query installed chaincodes"

/-! ## Installing chaincode -/

/-- An exception of the packaging, among those of an operation that reads files. -/
def PackagingError.toFileExc : PackagingError → FileExc
  | .valueError msg => .inr (.valueError msg)
  | .osError e => .inl e

/-- The arguments of `lscc` for the installation of a chaincode, which is packaged at the given
time. -/
def installArgs (archiver : Archiver) (fs : FileSystem) (gopath : Option String) (time : UInt32)
    (ccSpec : ChaincodeSpec) : Except FileExc (List Bytes) := do
  match givenText ccSpec.name with
  | none => throw (.inr (.valueError "Must provide chaincode name"))
  | some name =>
      let ccPkg ← (packageChaincode archiver fs gopath ccSpec time).mapError PackagingError.toFileExc
      let ccDeploymentSpec ← (buildCcDeploymentSpec name ccSpec.language none ccSpec.version
        ccSpec.path (some ccPkg) none).mapError Sum.inr
      let function ← (encodeProtoBytes ChaincodeProposalType.install.value).mapError Sum.inr
      return [function, rt.serializeToString ccDeploymentSpec]

/-- Proposes the installation of a chaincode, given the arguments of `lscc`. -/
def proposeInstall (requestor : User) (peers : List Peer) (ccSpec : ChaincodeSpec)
    (args : List Bytes) : Async Unit EndorsedTX := do
  let (nonce, timestamp) : Bytes × Timestamp ← Coro.request Request.entropy
  let generatedTx ← Coro.ofExcept
    (buildGeneratedTx rt requestor "lscc" args none none nonce timestamp)
  let endorsedTx ← proposeTx peers generatedTx
  Coro.ofExcept (raiseTxProposalError endorsedTx
    s!"Failed install chaincode {printed ccSpec.name} version {printed ccSpec.version}")
  return endorsedTx

/-- A high-level operation that packages and installs chaincode onto the provided peers. -/
def installChaincode (archiver : Archiver) (fs : FileSystem) (gopath : Option String)
    (time : UInt32) (requestor : User) (peers : List Peer) (ccSpec : ChaincodeSpec) :
    FileAsync EndorsedTX := do
  let args ← Coro.ofExcept (installArgs rt archiver fs gopath time ccSpec)
  (proposeInstall rt requestor peers ccSpec args).mapError Sum.inr

/-! ## Instantiating chaincode -/

variable (case : CaseMapping) (order order' : SetOrder EndorsementPolicyRole)

/-- The message for a peer that refuses to instantiate or upgrade a chaincode. -/
def instantiateMessage (channel : Channel) (ccSpec : ChaincodeSpec) (upgrade : Bool) : String :=
  let method := if upgrade then "upgrade" else "instantiate"
  s!"Failed to {method} chaincode {printed ccSpec.name} version " ++
    s!" {printed ccSpec.version} on channel {channel.name}"

/-- A high-level operation that instantiates or upgrades a chaincode on a channel. -/
def instantiateChaincode (requestor : User) (peers : List Peer) (orderers : List Orderer)
    (channel : Channel) (ccSpec : ChaincodeSpec) (endorsementPolicy : Option EndorsementPolicy)
    (upgrade : Bool) (timeout : Int) : Async Unit EndorsedTX := do
  let generatedTx ←
    generateInstantiateCcTx rt case order order' requestor ccSpec channel endorsementPolicy upgrade
  let endorsedTx ← proposeTx peers generatedTx
  Coro.ofExcept (raiseTxProposalError endorsedTx (instantiateMessage channel ccSpec upgrade))
  commitTxAndWait rt requestor channel peers orderers endorsedTx timeout
  return endorsedTx

/-! ## The methods of a gateway -/

/-- An optional list that Python takes as false when it is missing or empty. -/
def givenPeers (peers : Option (List Peer)) : Option (List Peer) := peers.filter (· ≠ [])

namespace Gateway

/-- The channel and the requestor of a gateway, both of which have to be specified. -/
def channelAndRequestor (gateway : Gateway) : Except Exc (Channel × User) :=
  match gateway.channel, gateway.requestor with
  | none, _ => .error (.valueError "Must specify a channel")
  | some _, none => .error (.valueError "Must specify a requestor")
  | some channel, some requestor => .ok (channel, requestor)

/-- Creates a channel from a transaction file. -/
def createChannel (readFile : String → Except OSError Bytes) (gateway : Gateway)
    (txFilePath : String) : FileAsync Unit :=
  if gateway.orderers = [] then
    Coro.raise (.inr (.valueError "Must provided at least one orderer"))
  else match gateway.channelAndRequestor with
    | .error e => Coro.raise (.inr e)
    | .ok (channel, requestor) =>
        Snakeskin.createChannel rt readFile requestor gateway.orderers channel txFilePath

/-- The loop of `join_channel`: the peers are joined one after the other. -/
def joinLoop (requestor : User) (orderers : List Orderer) (channel : Channel) :
    List Peer → Async Unit Unit
  | [] => return ()
  | peer :: peers => do
      Snakeskin.joinChannel rt requestor orderers channel peer
      joinLoop requestor orderers channel peers

/-- Joins all provided peers to the channel of a gateway; without peers, the endorsing peers. -/
def joinChannel (gateway : Gateway) (peers : Option (List Peer)) : Async Unit Unit :=
  let peers := (givenPeers peers).getD gateway.endorsingPeers
  match gateway.channelAndRequestor with
  | .error e => Coro.raise e
  | .ok (channel, requestor) => joinLoop rt requestor gateway.orderers channel peers

/-- Queries for instantiated chaincodes across all endorsing peers. -/
def queryInstantiatedChaincodes (gateway : Gateway) : Async Unit ChaincodeQueryResponse :=
  match gateway.channelAndRequestor with
  | .error e => Coro.raise e
  | .ok (channel, requestor) =>
      if gateway.endorsingPeers = [] then
        Coro.raise (.valueError "Must specify at least one endorsing peer")
      else Snakeskin.queryInstantiatedChaincodes rt requestor gateway.endorsingPeers channel

/-- Installs chaincode on the provided peers; without peers, on the endorsing peers. -/
def installChaincode (archiver : Archiver) (fs : FileSystem) (gopath : Option String)
    (time : UInt32) (gateway : Gateway) (peers : Option (List Peer)) : FileAsync EndorsedTX :=
  let peers := (givenPeers peers).getD gateway.endorsingPeers
  match gateway.requestor, peers, gateway.chaincode with
  | none, _, _ => Coro.raise (.inr (.valueError "Must specify a requestor"))
  | some _, [], _ => Coro.raise (.inr (.valueError "Must specify at least one peer"))
  | some _, _ :: _, none => Coro.raise (.inr (.valueError "Must specify chaincode"))
  | some requestor, peer :: peers, some ccSpec =>
      Snakeskin.installChaincode rt archiver fs gopath time requestor (peer :: peers) ccSpec

/-- Instantiates or upgrades the chaincode of a gateway. -/
def instantiateChaincode (gateway : Gateway) (endorsementPolicy : Option EndorsementPolicy)
    (upgrade : Bool) (timeout : Int) : Async Unit EndorsedTX :=
  match gateway.requestor, gateway.channel with
  | none, _ => Coro.raise (.valueError "Must specify a requestor")
  | some _, none => Coro.raise (.valueError "Must specify a channel")
  | some requestor, some channel =>
      if gateway.endorsingPeers = [] then
        Coro.raise (.valueError "Must specify at least one endorsing peer")
      else if gateway.orderers = [] then
        Coro.raise (.valueError "Must specify at least one orderer")
      else match gateway.chaincode with
        | none => Coro.raise (.valueError "Must specify chaincode")
        | some ccSpec =>
            Snakeskin.instantiateChaincode rt case order order' requestor gateway.endorsingPeers
              gateway.orderers channel ccSpec endorsementPolicy upgrade timeout

end Gateway

end Snakeskin
