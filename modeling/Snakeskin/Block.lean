import Snakeskin.Errors

/-! # Blocks

The model classes of `models/block.py` and `models/transaction.py` for what the event streams of
peers and orderers deliver: raw blocks, and filtered ones. -/

namespace Snakeskin

open Wire

/-- A raw block: the block protobuf, not decoded. -/
structure RawBlock where
  header : BlockHeader
  data : BlockData
  metadata : BlockMetadata
  deriving DecidableEq

/-- Build a raw block from its protobuf. -/
def RawBlock.fromProto (block : BlockProto) : RawBlock where
  header := block.header
  data := block.data
  metadata := block.metadata

/-- The protobuf version of a raw block. -/
def RawBlock.asProto (block : RawBlock) : BlockProto where
  header := block.header
  data := block.data
  metadata := block.metadata

@[simp] theorem RawBlock.asProto_fromProto (block : BlockProto) :
    (RawBlock.fromProto block).asProto = block := rfl

/-- The transactions of a raw block, as raw bytes. -/
def RawBlock.transactions (block : RawBlock) : List Bytes := block.data.data

/-- Filtered transaction data returned from a peer's event hub. -/
structure FilteredTX where
  txId : String
  type : TransactionType
  txValidationCode : Int32
  actions : FilteredTransactionActions := {}
  deriving DecidableEq

/-- What `TransactionType(value)` raises for a number that is not declared. -/
def TransactionType.notValid (n : Int32) : Exc := .valueError s!"{n} is not a valid TransactionType"

/-- Build a filtered transaction from its protobuf; an undeclared type is refused. -/
def FilteredTX.fromProto (filteredTx : FilteredTXProto) : Except Exc FilteredTX :=
  match TransactionType.ofValue? filteredTx.type with
  | some type => .ok {
      txId := filteredTx.txid, type
      txValidationCode := filteredTx.txValidationCode
      actions := filteredTx.transactionActions }
  | none => .error (TransactionType.notValid filteredTx.type)

/-- The filtered version of a block that gets returned by the peer's event hub. -/
structure FilteredBlock where
  channelId : String
  number : UInt64
  transactions : List FilteredTX
  deriving DecidableEq

/-- Build a filtered block from its protobuf. -/
def FilteredBlock.fromProto (filteredBlock : FilteredBlockProto) : Except Exc FilteredBlock := do
  let transactions ← filteredBlock.filteredTransactions.mapM FilteredTX.fromProto
  return { channelId := filteredBlock.channelId, number := filteredBlock.number, transactions }

/-- The converted transaction has the id of the protobuf. -/
theorem FilteredTX.txId_of_fromProto {p : FilteredTXProto} {tx : FilteredTX}
    (h : FilteredTX.fromProto p = .ok tx) : tx.txId = p.txid := by
  unfold FilteredTX.fromProto at h
  split at h
  · cases h
    rfl
  · cases h

/-- The converted transaction has the validation code of the protobuf. -/
theorem FilteredTX.txValidationCode_of_fromProto {p : FilteredTXProto} {tx : FilteredTX}
    (h : FilteredTX.fromProto p = .ok tx) : tx.txValidationCode = p.txValidationCode := by
  unfold FilteredTX.fromProto at h
  split at h
  · cases h
    rfl
  · cases h

/-- The converted block has the transaction ids of the protobuf. -/
theorem FilteredBlock.txIds_of_fromProto {p : FilteredBlockProto} {block : FilteredBlock}
    (h : FilteredBlock.fromProto p = .ok block) :
    block.transactions.map (·.txId) = p.filteredTransactions.map (·.txid) := by
  obtain ⟨txs, htxs, h⟩ := bind_eq_ok.mp h
  cases h
  rw [← List.forall₂_eq_eq_eq, List.forall₂_map_left_iff, List.forall₂_map_right_iff]
  exact (forall₂_of_mapM htxs).flip.imp fun _ _ htx => FilteredTX.txId_of_fromProto htx

end Snakeskin
