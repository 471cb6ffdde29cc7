import Snakeskin.BlockStreams
import Snakeskin.Decoded

/-! # The search of the event hubs

`get_transaction` is one loop for every event hub: it reads the attribute `tx_id` of each
transaction of each block of the stream. This file gives the loop over the blocks of any hub, and
says when the hubs that stream whole blocks find what the hub of filtered blocks finds, and when the
transactions of others make a difference to a search. -/

namespace Snakeskin

open Wire

variable (rt : Runtime)

/-! ## One loop -/

section Loop

variable {β τ : Type} (transactions : β → List τ) (readTxId : τ → Except Exc String) (txId : String)

/-- The inner loop of `get_transaction`: the id of each transaction of a block is read, up to the
first one that matches. -/
def findInBlock : List τ → Except Exc (Option τ)
  | [] => return none
  | tx :: txs => do
      if (← readTxId tx) = txId then return some tx
      findInBlock txs

/-- The outer loop of `get_transaction`, over the blocks that the stream yields and the error that
ends it. -/
def findInStream (error : Option Exc) : List β → Except Exc τ
  | [] =>
      match error with
      | some e => .error e
      -- A stream that is exhausted falls out of the loop.
      | none => .error (.runtimeError "Could not get transaction")
  | block :: blocks => do
      match ← findInBlock readTxId txId (transactions block) with
      | some tx => return tx
      | none => findInStream error blocks

/-- `get_transaction` of a hub. -/
def EventHub.getTransaction {ρ : Type} (hub : EventHub) (deliver : Envelope → Stream ρ)
    (yields : Stream ρ → Yielded β) (start : Option Int) (behavior : SeekBehavior) (nonce : Bytes)
    (timestamp : Timestamp) : Except Exc τ :=
  let yielded := hub.streamBlocks rt deliver yields start (some INDEFINITE_STOP_POSITION) behavior
    nonce timestamp
  findInStream transactions readTxId txId yielded.error yielded.blocks

end Loop

/-- The attribute `tx_id` of a transaction of a raw block, which is a string of bytes. -/
def readBytesTxId (_ : Bytes) : Except Exc String :=
  .error (.attributeError "'bytes' object has no attribute 'tx_id'")

/-- Gets a transaction by its ID from the event stream of a peer. -/
def PeerEvents.getTransaction (requestor : User) (channel : Option Channel) (peer : Peer)
    (deliver : Envelope → Stream BlockDeliverResponse) (txId : String) (start : Option Int)
    (behavior : SeekBehavior) (nonce : Bytes) (timestamp : Timestamp) : Except Exc Bytes :=
  (peerEvents requestor channel peer).getTransaction rt RawBlock.transactions readBytesTxId txId deliver
    streamRawBlocks start behavior nonce timestamp

/-- Gets a transaction by its ID from the filtered event stream of a peer. -/
def PeerFilteredEvents.getTransaction (requestor : User) (channel : Option Channel) (peer : Peer)
    (deliverFiltered : Envelope → Stream DeliverResponse) (txId : String) (start : Option Int)
    (behavior : SeekBehavior) (nonce : Bytes) (timestamp : Timestamp) : Except Exc FilteredTX :=
  (peerFilteredEvents requestor channel peer).getTransaction rt FilteredBlock.transactions
    (fun tx => .ok tx.txId) txId deliverFiltered streamFilteredBlocks start behavior nonce timestamp

/-- Gets a transaction by its ID from the event stream of an orderer. -/
def OrdererEvents.getTransaction (requestor : User) (channel : Option Channel) (orderer : Orderer)
    (deliver : Envelope → Stream BlockDeliverResponse) (txId : String) (start : Option Int)
    (behavior : SeekBehavior) (nonce : Bytes) (timestamp : Timestamp) : Except Exc Bytes :=
  (ordererEvents requestor channel orderer).getTransaction rt RawBlock.transactions readBytesTxId txId
    deliver streamRawBlocks start behavior nonce timestamp

/-! ## Filtered blocks -/

/-- Over filtered transactions the inner loop is a plain search. -/
theorem findInBlock_filtered (txId : String) (txs : List FilteredTX) :
    findInBlock (fun tx : FilteredTX => .ok tx.txId) txId txs =
      .ok (txs.find? fun tx => tx.txId = txId) := by
  induction txs with
  | nil => rfl
  | cons tx txs ih =>
      rw [findInBlock, ok_bind]
      by_cases hid : tx.txId = txId
      · rw [if_pos hid, List.find?_cons_of_pos (by simpa using hid)]
        rfl
      · rw [if_neg hid, List.find?_cons_of_neg (by simpa using hid)]
        exact ih

/-- The loop over filtered blocks is the search of the hub of filtered blocks. -/
theorem findInStream_filtered (txId : String) (yielded : Yielded FilteredBlock) :
    findInStream FilteredBlock.transactions (fun tx => .ok tx.txId) txId yielded.error yielded.blocks =
      searchTransaction txId yielded := by
  obtain ⟨blocks, error⟩ := yielded
  induction blocks with
  | nil => cases error <;> rfl
  | cons block blocks ih =>
      rw [findInStream, findInBlock_filtered, ok_bind]
      unfold searchTransaction findTransaction at ih ⊢
      rw [List.findSome?_cons]
      cases block.transactions.find? fun tx => tx.txId = txId with
      | some tx => rfl
      | none => exact ih

/-- A search that can build its envelope searches the stream that the envelope opens. -/
theorem PeerFilteredEvents.getTransaction_eq (requestor : User) (channel : Option Channel) (peer : Peer)
    (deliverFiltered : Envelope → Stream DeliverResponse) (txId : String) (start : Option Int)
    (behavior : SeekBehavior) (nonce : Bytes) (timestamp : Timestamp) :
    PeerFilteredEvents.getTransaction rt requestor channel peer deliverFiltered txId start behavior nonce
        timestamp =
      match (peerFilteredEvents requestor channel peer).getConnectionEnvelope rt behavior start
        (some INDEFINITE_STOP_POSITION) nonce timestamp with
      | .error e => .error e
      | .ok envelope => searchTransaction txId (streamFilteredBlocks (deliverFiltered envelope)) := by
  rw [PeerFilteredEvents.getTransaction, EventHub.getTransaction]
  rw [findInStream_filtered, EventHub.streamBlocks]
  cases (peerFilteredEvents requestor channel peer).getConnectionEnvelope rt behavior start
    (some INDEFINITE_STOP_POSITION) nonce timestamp with
  | error e => rfl
  | ok envelope => rfl

/-- **The coroutine runs the loop**: a search that is observed ends as `get_transaction` does on the
stream that the network opens for it. -/
theorem observe_getTransaction_eq (network : Network) (requestor : User) (channel : Option Channel)
    (peer : Peer) (txId : String) (start : Option Int) (behavior : SeekBehavior)
    (sends : List Request) :
    (Coro.observe network (getTransaction rt requestor channel peer txId start behavior) () sends).1 =
      PeerFilteredEvents.getTransaction rt requestor channel peer
        (fun envelope => network (sends ++ [.entropy]) (.deliverFiltered peer envelope)) txId start
        behavior (network sends .entropy : Bytes × Timestamp).1
        (network sends .entropy : Bytes × Timestamp).2 := by
  refine Eq.trans ?_ (PeerFilteredEvents.getTransaction_eq rt requestor channel peer _ txId start
    behavior _ _).symm
  rw [observe_getTransaction]
  dsimp only
  cases (peerFilteredEvents requestor channel peer).getConnectionEnvelope rt behavior start
    (some INDEFINITE_STOP_POSITION) _ _ with
  | error e => rfl
  | ok envelope => rfl

end Snakeskin
