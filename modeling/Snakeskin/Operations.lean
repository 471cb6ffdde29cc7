import Snakeskin.Transact

/-! # Blockchain operations

The high-level operations `invoke` and `query` of `operations.py`. -/

namespace Snakeskin

variable (rt : Runtime)

/-- A high-level operation that invokes the chaincode: generates a proposal, sends it to each of the
peers, validates that all endorsements succeeded, sends them to the orderer, and checks that the
transaction committed on the first peer in the list. -/
def invoke (requestor : User) (peers : List Peer) (orderers : List Orderer) (channel : Channel)
    (ccName fcn : String) (args : Option (List String)) (timeout : Int)
    (transientMap : Option TransientMap) : Async Unit EndorsedTX := do
  let generatedTx ← generateCcTx rt requestor ccName channel fcn args transientMap
  let endorsedTx ← proposeTx peers generatedTx
  Coro.ofExcept (raiseTxProposalError endorsedTx
    s!"Failed to invoke chaincode {ccName} with function {fcn}")
  commitTxAndWait rt requestor channel peers orderers endorsedTx timeout
  return endorsedTx

/-- A high-level operation that queries the chaincode: generates a proposal, sends it to each of the
peers, and validates that all endorsements succeeded. -/
def query (requestor : User) (peers : List Peer) (channel : Channel) (ccName fcn : String)
    (args : Option (List String)) (transientMap : Option TransientMap) : Async Unit EndorsedTX := do
  let generatedTx ← generateCcTx rt requestor ccName channel fcn args transientMap
  let endorsedTx ← proposeTx peers generatedTx
  Coro.ofExcept (raiseTxProposalError endorsedTx
    s!"Failed to query chaincode {ccName} with function {fcn}")
  return endorsedTx

end Snakeskin
