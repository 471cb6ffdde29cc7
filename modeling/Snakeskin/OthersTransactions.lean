import Mathlib
import Snakeskin.HubSearches

/-! # Other clients' transactions

A filtered block is converted as a whole before it is searched, the transactions of other clients
with it. This file compares the search of a transaction on two streams that differ only in the
transactions of others, and says exactly when it ends alike. -/

namespace Snakeskin

open Wire

variable (rt : Runtime)

/-! ## Streams that differ in others' transactions -/

/-- Two blocks differ at most in transactions with other ids. -/
structure FilteredBlockProto.SameBut (txId : String) (block block' : FilteredBlockProto) : Prop where
  channelId : block.channelId = block'.channelId
  number : block.number = block'.number
  own : block.filteredTransactions.filter (·.txid = txId) =
    block'.filteredTransactions.filter (·.txid = txId)

/-- Two responses differ at most in transactions with other ids. -/
inductive DeliverResponse.SameBut (txId : String) : DeliverResponse → DeliverResponse → Prop
  | block {block block' : FilteredBlockProto} (h : block.SameBut txId block') :
      SameBut txId (.filteredBlock block) (.filteredBlock block')
  | same (resp : DeliverResponse) : SameBut txId resp resp

/-- Two streams differ at most in transactions with other ids. -/
structure Stream.SameBut (txId : String) (stream stream' : Stream DeliverResponse) : Prop where
  responses : List.Forall₂ (DeliverResponse.SameBut txId) stream.responses stream'.responses
  ending : stream.ending = stream'.ending

/-! ## The refusal of a type -/

/-- The error tells which type was refused. -/
theorem TransactionType.notValid_injective : Function.Injective TransactionType.notValid := by
  intro m n h
  have hnumeral : toString m = toString n := by simpa [notValid] using h
  exact Int32.toInt_inj.mp (Int.repr_injective hnumeral)

/-- No stream ends with such an error. -/
theorem StreamEnd.searchError_ne_notValid (ending : StreamEnd) (n : Int32) :
    ending.searchError ≠ TransactionType.notValid n := by
  cases ending <;> exact fun h => nomatch h

/-- A search that comes upon none does not raise one, by induction on how the stream is read. -/
theorem search_ne_notValid {txId : String} {responses : List DeliverResponse}
    (h : firstUndeclared txId responses = none) (ending : StreamEnd) (n : Int32) :
    searchTransaction txId (streamFilteredBlocks ⟨responses, ending⟩) ≠
      .error (TransactionType.notValid n) := by
  induction reading txId responses with
  | exhausted =>
      rw [search_nil]
      exact fun heq => ending.searchError_ne_notValid n (Except.error.inj heq)
  | status rest hstatus =>
      rw [search_cons_status rest ending hstatus]
      exact fun heq => nomatch Except.error.inj heq
  | undeclared rest hstatus hp =>
      rw [firstUndeclared_cons_undeclared rest hstatus hp] at h
      cases h
  | found rest hstatus hdeclared hholds =>
      obtain ⟨p, hp⟩ := FilteredBlockProto.holds_iff_find?.mp hholds
      obtain ⟨tx, -, hsearch⟩ := search_cons_holds rest ending hstatus hdeclared hp
      rw [hsearch]
      exact fun heq => nomatch heq
  | skipped hstatus hdeclared hholds hrest ih =>
      rw [firstUndeclared_cons_skipped _ hstatus hdeclared hholds] at h
      rw [search_cons_skipped _ ending (.of_undeclared_eq_none hstatus hdeclared hholds)]
      exact ih h

/-! ## Two streams -/

/-- Blocks that differ in others' transactions have the same first transaction with the id. -/
theorem FilteredBlockProto.SameBut.find?_eq {txId : String} {block block' : FilteredBlockProto}
    (h : block.SameBut txId block') :
    block.filteredTransactions.find? (·.txid = txId) =
      block'.filteredTransactions.find? (·.txid = txId) := by
  rw [← List.head?_filter, ← List.head?_filter, h.own]

/-- Responses that differ in others' transactions have the same status. -/
theorem DeliverResponse.SameBut.getStatus_eq {txId : String} {resp resp' : DeliverResponse}
    (h : resp.SameBut txId resp') : resp.getStatus = resp'.getStatus := by
  cases h <;> rfl

/-- They have the same first transaction with the id. -/
theorem DeliverResponse.SameBut.find?_eq {txId : String} {resp resp' : DeliverResponse}
    (h : resp.SameBut txId resp') :
    resp.getFilteredBlock.filteredTransactions.find? (·.txid = txId) =
      resp'.getFilteredBlock.filteredTransactions.find? (·.txid = txId) := by
  cases h with
  | block h => exact h.find?_eq
  | same => rfl

/-- The one holds the transaction when the other does. -/
theorem DeliverResponse.SameBut.holds_iff {txId : String} {resp resp' : DeliverResponse}
    (h : resp.SameBut txId resp') :
    resp.getFilteredBlock.Holds txId ↔ resp'.getFilteredBlock.Holds txId := by
  rw [FilteredBlockProto.holds_iff_find?, FilteredBlockProto.holds_iff_find?, h.find?_eq]

/-- **Where neither search comes upon an undeclared type, they end alike**, by induction on how the
first stream is read. -/
theorem searches_of_declared {txId : String} {responses responses' : List DeliverResponse}
    (hsame : List.Forall₂ (DeliverResponse.SameBut txId) responses responses')
    (h : firstUndeclared txId responses = none) (h' : firstUndeclared txId responses' = none)
    (ending : StreamEnd) :
    searchTransaction txId (streamFilteredBlocks ⟨responses, ending⟩) =
      searchTransaction txId (streamFilteredBlocks ⟨responses', ending⟩) := by
  induction reading txId responses generalizing responses' with
  | exhausted =>
      cases hsame
      rfl
  | status rest hstatus =>
      obtain _ | @⟨_, resp', _, rest', hfirst, hrest⟩ := hsame
      have hstatus' : resp'.getStatus ≠ 0 := hfirst.getStatus_eq ▸ hstatus
      rw [search_cons_status rest ending hstatus, search_cons_status rest' ending hstatus',
        hfirst.getStatus_eq]
  | undeclared rest hstatus hp =>
      rw [firstUndeclared_cons_undeclared rest hstatus hp] at h
      cases h
  | found rest hstatus hdeclared hholds =>
      obtain _ | @⟨_, resp', _, rest', hfirst, hrest⟩ := hsame
      have hstatus' : resp'.getStatus = 0 := hfirst.getStatus_eq ▸ hstatus
      obtain ⟨p, hp⟩ := FilteredBlockProto.holds_iff_find?.mp hholds
      obtain ⟨tx, htx, hsearch⟩ := search_cons_holds rest ending hstatus hdeclared hp
      obtain ⟨tx', htx', hsearch'⟩ := search_cons_holds rest' ending hstatus'
        (declared_of_firstUndeclared h' hstatus').1 (hfirst.find?_eq ▸ hp)
      rw [hsearch, hsearch', ← htx, ← htx']
  | skipped hstatus hdeclared hholds hrest ih =>
      obtain _ | @⟨_, resp', _, rest', hfirst, hrest'⟩ := hsame
      have hstatus' : resp'.getStatus = 0 := hfirst.getStatus_eq ▸ hstatus
      have hholds' : ¬ resp'.getFilteredBlock.Holds txId := fun hh => hholds (hfirst.holds_iff.mpr hh)
      obtain ⟨hdeclared', hrestDeclared'⟩ := declared_of_firstUndeclared h' hstatus'
      rw [firstUndeclared_cons_skipped _ hstatus hdeclared hholds] at h
      rw [search_cons_skipped _ ending (.of_undeclared_eq_none hstatus hdeclared hholds),
        search_cons_skipped _ ending (.of_undeclared_eq_none hstatus' hdeclared' hholds')]
      exact ih hrest' h (hrestDeclared'.resolve_left hholds')

/-- **When two searches end alike**: on streams that differ in others' transactions, exactly when
they come upon the same first undeclared type, or upon none. -/
theorem searches_eq_iff {txId : String} {stream stream' : Stream DeliverResponse}
    (hsame : stream.SameBut txId stream') :
    searchTransaction txId (streamFilteredBlocks stream) =
        searchTransaction txId (streamFilteredBlocks stream') ↔
      firstUndeclared txId stream.responses = firstUndeclared txId stream'.responses := by
  obtain ⟨responses, ending⟩ := stream
  obtain ⟨responses', _⟩ := stream'
  obtain ⟨hresponses, rfl⟩ := hsame
  cases h : firstUndeclared txId responses with
  | none =>
      cases h' : firstUndeclared txId responses' with
      | none => exact iff_of_true (searches_of_declared hresponses h h' ending) rfl
      | some n' =>
          refine iff_of_false (fun heq => ?_) (fun heq => nomatch heq)
          rw [search_of_undeclared h' ending] at heq
          exact search_ne_notValid h ending n' heq
  | some n =>
      rw [search_of_undeclared h ending]
      cases h' : firstUndeclared txId responses' with
      | none =>
          refine iff_of_false (fun heq => ?_) (fun heq => nomatch heq)
          exact search_ne_notValid h' ending n heq.symm
      | some n' =>
          rw [search_of_undeclared h' ending]
          constructor
          · intro heq
            rw [TransactionType.notValid_injective (Except.error.inj heq)]
          · rintro ⟨⟩
            rfl

/-! ## The hub -/

variable {rt} in
/-- **When the transactions of others make no difference.** Two searches of the hub of filtered
blocks, over streams that differ at most in transactions of other ids, end alike exactly when they
come upon the same first undeclared header type, or upon none; and a transaction that is delivered
is returned exactly when its search comes upon none. -/
theorem others_unseen_iff (requestor : User) (channel : Option Channel) (peer : Peer) (txId : String)
    (start : Option Int) (behavior : SeekBehavior) {nonce nonce' : Bytes} {timestamp timestamp' : Timestamp}
    {envelope envelope' : Envelope}
    (h : (peerFilteredEvents requestor channel peer).getConnectionEnvelope rt behavior start
      (some INDEFINITE_STOP_POSITION) nonce timestamp = .ok envelope)
    (h' : (peerFilteredEvents requestor channel peer).getConnectionEnvelope rt behavior start
      (some INDEFINITE_STOP_POSITION) nonce' timestamp' = .ok envelope') :
    (∀ deliver deliver' : Envelope → Stream DeliverResponse,
      (deliver envelope).SameBut txId (deliver' envelope') →
      (PeerFilteredEvents.getTransaction rt requestor channel peer deliver txId start behavior nonce
          timestamp =
        PeerFilteredEvents.getTransaction rt requestor channel peer deliver' txId start behavior nonce'
          timestamp' ↔
        firstUndeclared txId (deliver envelope).responses =
          firstUndeclared txId (deliver' envelope').responses)) ∧
    ∀ (deliver : Envelope → Stream DeliverResponse) (p : FilteredTXProto),
      FirstMatch txId (deliver envelope).responses p →
      ((∃ tx, FilteredTX.fromProto p = .ok tx ∧
          PeerFilteredEvents.getTransaction rt requestor channel peer deliver txId start behavior nonce
            timestamp = .ok tx) ↔
        firstUndeclared txId (deliver envelope).responses = none) := by
  refine ⟨fun deliver deliver' hsame => ?_, fun deliver p hmatch => ?_⟩
  · rw [PeerFilteredEvents.getTransaction_eq, PeerFilteredEvents.getTransaction_eq, h, h']
    exact searches_eq_iff hsame
  · rw [PeerFilteredEvents.getTransaction_eq, h]
    exact search_returns_iff hmatch (deliver envelope).ending

/-- A block with the transaction alone. -/
def ownBlock : FilteredBlockProto := { filteredTransactions := [{ txid := "tx", type := 3 }] }

/-- The block with a transaction of another client before it, of some header type. -/
def crowdedBlock (type : Int32) : FilteredBlockProto :=
  { filteredTransactions := [{ txid := "other", type }, { txid := "tx", type := 3 }] }

/-- The search of the keyed user for the transaction, in a stream of one block. -/
def findIn (block : FilteredBlockProto) : Except Exc FilteredTX :=
  PeerFilteredEvents.getTransaction (wireRuntime id) keyedUser (some ⟨"channel"⟩)
    { endpoint := "peer:7051" } (fun _ => ⟨[.filteredBlock block], .closed⟩) "tx" none .blockUntilReady
    [9] {}

/-- The two blocks differ in a transaction of another client. -/
theorem sameBut_crowdedBlock (type : Int32) :
    Stream.SameBut "tx" ⟨[.filteredBlock ownBlock], .closed⟩
      ⟨[.filteredBlock (crowdedBlock type)], .closed⟩ :=
  ⟨.cons (.block ⟨rfl, rfl, rfl⟩) .nil, rfl⟩

/-- Another client's transaction of a type that is not declared keeps the search from returning the
transaction that stands beside it. -/
theorem undeclared_type_breaks_search :
    Stream.SameBut "tx" ⟨[.filteredBlock ownBlock], .closed⟩
      ⟨[.filteredBlock (crowdedBlock 13)], .closed⟩ ∧
    findIn ownBlock = .ok ⟨"tx", .endorserTransaction, 0, {}⟩ ∧
    findIn (crowdedBlock 13) = .error (.valueError "13 is not a valid TransactionType") ∧
    findIn ownBlock ≠ findIn (crowdedBlock 13) ∧
    FirstMatch "tx" [.filteredBlock (crowdedBlock 13)] { txid := "tx", type := 3 } ∧
    TransactionType.ofValue? 3 = some .endorserTransaction := by
  have hown : findIn ownBlock = .ok ⟨"tx", .endorserTransaction, 0, {}⟩ := by decide +kernel
  have hcrowded : findIn (crowdedBlock 13) = .error (.valueError "13 is not a valid TransactionType") := by
    decide +kernel
  refine ⟨sameBut_crowdedBlock 13, hown, hcrowded, ?_, ?_, rfl⟩
  · rw [hown, hcrowded]
    exact fun h => nomatch h
  · exact ⟨[], crowdedBlock 13, [], rfl, (fun _ hmem => nomatch hmem), rfl⟩

/-- Another client's transaction of a declared type makes no difference. -/
theorem others_unseen_iff_declared : findIn ownBlock = findIn (crowdedBlock 1) :=
  ((others_unseen_iff keyedUser (some ⟨"channel"⟩) { endpoint := "peer:7051" } "tx" none .blockUntilReady
    rfl rfl).1 _ _ (sameBut_crowdedBlock 1)).mpr (by decide +kernel)

end Snakeskin
