import Snakeskin.Block
import Snakeskin.Factories
import Snakeskin.Network

/-! # Event hubs

The event hubs of `events.py`: the envelope that opens a block stream, the stream of blocks, and the
search of a transaction in it. -/

namespace Snakeskin

open Wire

variable (rt : Runtime)

/-- An event hub attached to a peer or an orderer, whose client certificate it sends. -/
structure EventHub where
  requestor : User
  channel : Option Channel
  clientCert : Option Bytes

/-- The hub that streams blocks from a peer. -/
def peerEvents (requestor : User) (channel : Option Channel) (peer : Peer) : EventHub :=
  ⟨requestor, channel, peer.clientCert⟩

/-- The hub that streams filtered blocks from a peer. -/
def peerFilteredEvents (requestor : User) (channel : Option Channel) (peer : Peer) : EventHub :=
  ⟨requestor, channel, peer.clientCert⟩

/-- The hub that streams blocks from an orderer. -/
def ordererEvents (requestor : User) (channel : Option Channel) (orderer : Orderer) : EventHub :=
  ⟨requestor, channel, orderer.clientCert⟩

/-- The envelope of a hub around a seek request; the header type is left to the default of
`buildEnvelope`. -/
def EventHub.seekEnvelope (hub : EventHub) (seekInfo : SeekInfo) (nonce : Bytes)
    (timestamp : Timestamp) : Except Exc Envelope :=
  buildEnvelope rt hub.requestor (txContextFromUser rt hub.requestor nonce)
    (rt.serializeToString seekInfo) hub.channel hub.clientCert none .endorserTransaction timestamp

/-- Builds an envelope that will be sent to the peer to initiate streaming events. -/
def EventHub.getConnectionEnvelope (hub : EventHub) (behavior : SeekBehavior)
    (start stop : Option Int) (nonce : Bytes) (timestamp : Timestamp) : Except Exc Envelope := do
  let seekInfo ← buildSeekInfo start stop behavior
  hub.seekEnvelope rt seekInfo nonce timestamp

/-- Builds it in a coroutine, which draws the nonce and the time once the seek request is built. -/
def EventHub.drawConnectionEnvelope (hub : EventHub) (behavior : SeekBehavior)
    (start stop : Option Int) : Async Unit Envelope := do
  let seekInfo ← Coro.ofExcept (buildSeekInfo start stop behavior)
  let (nonce, timestamp) : Bytes × Timestamp ← Coro.request Request.entropy
  Coro.ofExcept (hub.seekEnvelope rt seekInfo nonce timestamp)

/-- What an asynchronous generator of blocks yields, and the exception that ends it, if any. -/
structure Yielded (β : Type) where
  blocks : List β
  error : Option Exc

/-- The loop of `stream_blocks` over the responses of a stream: a status ends it with an error, and
so does a response that cannot be converted. -/
def streamBlocks {ρ β : Type} (status : ρ → Int32) (pullBlock : ρ → Except Exc β)
    (ending : StreamEnd) : List ρ → Yielded β
  | [] =>
      match ending with
      | .closed => ⟨[], none⟩
      | .rpcError e => ⟨[], some e.toExc⟩
      | .cancelled => ⟨[], some .cancelledError⟩
  | resp :: rest =>
      -- A response with a block has no status, and reads as zero.
      if status resp ≠ 0 then
        ⟨[], some (.blockRetrievalError "Failed to retrieve block" (some (status resp)))⟩
      else
        match pullBlock resp with
        | .error e => ⟨[], some e⟩
        | .ok block =>
            let yielded := streamBlocks status pullBlock ending rest
            ⟨block :: yielded.blocks, yielded.error⟩

/-- A status other than zero ends the stream with an error that carries it, success or not. -/
theorem streamBlocks_of_status {ρ β : Type} {status : ρ → Int32} {pullBlock : ρ → Except Exc β}
    {resp : ρ} (h : status resp ≠ 0) (ending : StreamEnd) (rest : List ρ) :
    streamBlocks status pullBlock ending (resp :: rest) =
      ⟨[], some (.blockRetrievalError "Failed to retrieve block" (some (status resp)))⟩ := by
  rw [streamBlocks, if_pos h]

/-- The blocks of a filtered stream. -/
def streamFilteredBlocks (stream : Stream DeliverResponse) : Yielded FilteredBlock :=
  streamBlocks DeliverResponse.getStatus
    (fun resp => FilteredBlock.fromProto resp.getFilteredBlock) stream.ending stream.responses

/-- The first transaction with an id, over blocks in order and the transactions of each in order. -/
def findTransaction (txId : String) (blocks : List FilteredBlock) : Option FilteredTX :=
  blocks.findSome? fun block => block.transactions.find? fun tx => tx.txId = txId

/-- The loop of `get_transaction` over what the stream yields. -/
def searchTransaction (txId : String) (yielded : Yielded FilteredBlock) : Except Exc FilteredTX :=
  match findTransaction txId yielded.blocks, yielded.error with
  | some tx, _ => .ok tx
  | none, some e => .error e
  -- A stream that is exhausted falls out of the loop.
  | none, none => .error (.runtimeError "Could not get transaction")

/-- Gets a transaction by its ID from the filtered event stream of a peer. -/
def getTransaction (requestor : User) (channel : Option Channel) (peer : Peer) (txId : String)
    (start : Option Int) (behavior : SeekBehavior) : Async Unit FilteredTX := do
  let envelope ← (peerFilteredEvents requestor channel peer).drawConnectionEnvelope rt behavior start
    (some INDEFINITE_STOP_POSITION)
  let stream : Stream DeliverResponse ← Coro.request (Request.deliverFiltered peer envelope)
  Coro.ofExcept (searchTransaction txId (streamFilteredBlocks stream))

/-- The number of `TxValidationCode.VALID`. -/
def VALID : Int32 := 0

/-- Checks if the transaction completed successfully, otherwise raises an error. -/
def checkTransaction (requestor : User) (channel : Option Channel) (peer : Peer) (txId : String)
    (timeout : Int) (start : Option Int) (behavior : SeekBehavior) : Async Unit FilteredTX := do
  let transaction ← waitFor (getTransaction rt requestor channel peer txId start behavior) timeout
  if transaction.txValidationCode ≠ VALID then
    Coro.raise (mkTransactionValidationError transaction.txValidationCode)
  else return transaction

/-- A transaction that the search finds has the id searched for. -/
theorem txId_of_searchTransaction {txId : String} {yielded : Yielded FilteredBlock}
    {tx : FilteredTX} (h : searchTransaction txId yielded = .ok tx) : tx.txId = txId := by
  unfold searchTransaction at h
  split at h
  · rename_i hfind
    cases h
    obtain ⟨block, -, hblock⟩ := List.exists_of_findSome?_eq_some hfind
    simpa using List.find?_some hblock
  · cases h
  · cases h

end Snakeskin
