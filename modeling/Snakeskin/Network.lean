import Snakeskin.Library.Coroutine
import Snakeskin.Errors

/-! # The network as seen by a coroutine

The asynchronous functions of the client are coroutines (`Async`) whose requests are what they ask
of peers, orderers, the random source and the clock. A gRPC stream is answered as a whole: the
responses that arrive, and how it ends. -/

namespace Snakeskin

open Wire

/-- How a gRPC stream ends, as far as its reader sees. -/
inductive StreamEnd where
  /-- The server closes the stream. -/
  | closed
  /-- A `grpc.RpcError`. -/
  | rpcError (e : RpcError)
  /-- The reader is cancelled while it waits for a response. -/
  | cancelled
  deriving DecidableEq

/-- A gRPC stream: the responses that arrive, in order, and its end. -/
structure Stream (α : Type) where
  responses : List α
  ending : StreamEnd

/-- What a coroutine asks of the world outside. -/
inductive Request where
  /-- Draw a nonce and read the clock. -/
  | entropy
  /-- Send a proposal to every peer of a list, concurrently. -/
  | processProposals (proposal : SignedProposal) (peers : List Peer)
  /-- Send an envelope to an orderer's `Broadcast`. -/
  | broadcast (orderer : Orderer) (envelope : Envelope)
  /-- Open a peer's `DeliverFiltered` stream with an envelope. -/
  | deliverFiltered (peer : Peer) (envelope : Envelope)
  /-- Open an orderer's `Deliver` stream with an envelope. -/
  | deliver (orderer : Orderer) (envelope : Envelope)
  deriving DecidableEq

/-- The answers to a proposal sent to `n` peers: what each peer answers, and when. -/
structure ProposalAnswers (n : Nat) where
  result : Fin n → Except RpcError ProposalResponse
  arrival : Fin n → Nat

/-- The type of the answer to a request. -/
def Answer : Request → Type
  | .entropy => Bytes × Timestamp
  | .processProposals _ peers => ProposalAnswers peers.length
  | .broadcast _ _ => Stream BroadcastResponse
  | .deliverFiltered _ _ => Stream DeliverResponse
  | .deliver _ _ => Stream BlockDeliverResponse

/-- Events of the client's own that a trace records beside the requests. -/
inductive Note where
  /-- An operation of a transaction builder starts. -/
  | operationStarted (id : Nat)
  /-- An operation of a transaction builder returns. -/
  | operationCompleted (id : Nat)
  /-- `propose_tx` returns. -/
  | proposeTxReturned (endorsedTx : EndorsedTX)
  /-- `commit_tx` is called. -/
  | commitTxCalled (endorsedTx : EndorsedTX)
  /-- `commit_tx` returns. -/
  | commitTxReturned (endorsedTx : EndorsedTX)
  deriving DecidableEq

/-- Coroutines of the client over a state `σ`. -/
abbrev Async (σ : Type) := Coro σ Request Answer Note Exc

/-- The world that coroutines of the client share. -/
abbrev World (σ : Type) := Coro.World σ Request Note

/-- The network, the clock and the random source: their answers as functions of what was sent. -/
abbrev Network := Coro.Environment Request Answer

/-- An event of a trace: a request sent, or a note. -/
abbrev Event := Request ⊕ Note

/-! ## `asyncio` -/

/-- The error that arrives first, with its arrival time. -/
def firstFailure {α : Type} : List (Except Exc α × Nat) → Option (Exc × Nat)
  | [] => none
  | (.ok _, _) :: rest => firstFailure rest
  | (.error e, t) :: rest =>
      match firstFailure rest with
      -- Of two that arrive at once the one of the earlier argument counts.
      | some (e', t') => if t' < t then some (e', t') else some (e, t)
      | none => some (e, t)

/-- `asyncio.gather`: all the results in the order of the arguments, or the first exception to
arrive. -/
def gather {α : Type} (results : List (Except Exc α × Nat)) : Except Exc (List α) :=
  match firstFailure results with
  | some (e, _) => .error e
  | none => .ok (results.filterMap fun r => r.1.toOption)

/-- `asyncio.wait_for`: when the timeout elapses the awaited coroutine is cancelled, and the waiter
raises `TimeoutError`; without time to wait the coroutine is not even started. -/
def waitFor {σ α : Type} (c : Async σ α) (timeout : Int) : Async σ α :=
  -- A coroutine that has not started is cancelled before its first request.
  if timeout ≤ 0 then Coro.raise .timeoutError
  else c.tryCatch fun e => if e = .cancelledError then Coro.raise .timeoutError else Coro.raise e

end Snakeskin
