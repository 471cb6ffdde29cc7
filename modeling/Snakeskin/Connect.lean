import Snakeskin.Network

/-! # Connections to peers and orderers

The functions of `connect.py`: a broadcast to one orderer, the failover over a list of orderers, and
a proposal to one peer. -/

namespace Snakeskin

/-- Reads the first response of a broadcast stream; a stream that closes without a response falls
out of the loop and returns nothing. -/
def firstBroadcastResponse (txId : String) (stream : Stream BroadcastResponse) :
    Except Exc (Option BroadcastResponse) :=
  match stream.responses, stream.ending with
  -- The loop over the stream raises or returns on the first response, whatever would follow.
  | resp :: _, _ =>
      if resp.status ≠ 200 then
        .error (.trasactionCommitError "Failed to commit transaction" txId resp)
      else .ok (some resp)
  | [], .closed => .ok none
  | [], .rpcError e => .error e.toExc
  | [], .cancelled => .error .cancelledError

/-- Broadcasts an envelope of data to an orderer node and returns the first response. -/
def broadcastToOrderer (envelope : Envelope) (orderer : Orderer) (txId : String) :
    Async Unit (Option BroadcastResponse) := do
  let stream : Stream BroadcastResponse ← Coro.request (Request.broadcast orderer envelope)
  Coro.ofExcept (firstBroadcastResponse txId stream)

/-- The loop of `broadcastToOrderers`: on a connection error, try the next orderer; raise the last
error when none is left. -/
def broadcastLoop (envelope : Envelope) (txId : String) :
    (error : Exc) → List Orderer → Async Unit (Option BroadcastResponse)
  | error, [] => Coro.raise error
  | _, orderer :: orderers =>
      (broadcastToOrderer envelope orderer txId).tryCatch fun err =>
        match err with
        | .blockchainConnectionError _ _ => broadcastLoop envelope txId err orderers
        -- A refusal by the orderer is not a connection error, and is not retried.
        | err => Coro.raise err

/-- Broadcast an envelope of data to orderer nodes in order and returns the first successful
response. -/
def broadcastToOrderers (envelope : Envelope) (orderers : List Orderer) (txId : String) :
    Async Unit (Option BroadcastResponse) :=
  match orderers with
  | [] => Coro.raise (.valueError "Must provide at least one orderer")
  | orderers =>
      -- The error variable is unbound until an orderer has failed, which the non-empty loop ensures.
      broadcastLoop envelope txId (.valueError "error referenced before assignment") orderers

/-- Processes a proposal on a peer, given the peer's answer. -/
def processProposalOnPeer (answer : Except RpcError ProposalResponse) :
    Except Exc ProposalResponse :=
  match answer with
  | .ok response => .ok response
  | .error e => .error e.toExc

end Snakeskin
