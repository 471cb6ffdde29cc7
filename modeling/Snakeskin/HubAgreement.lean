import Snakeskin.HubSearches
import Snakeskin.BlockRoundTrip

/-! # What the hubs find

The hub of a peer and that of an orderer stream whole blocks, whose transactions are envelopes in
bytes; the hub of filtered blocks streams records. This file compares `get_transaction` of the one
kind with that of the other on the same blocks. -/

namespace Snakeskin

open Wire

variable (rt : Runtime)

/-! ## The same blocks, whole and filtered -/

/-- A transaction of a whole block and what stands for it in the filtered block: the envelope
decodes, to a transaction of the same id, and the header type is a declared one. -/
def SameTransaction (envelope : Bytes) (tx : FilteredTXProto) : Prop :=
  (∃ decoded, DecodedTX.decode rt envelope = .ok decoded ∧ decoded.txId = tx.txid) ∧
    (TransactionType.ofValue? tx.type).isSome = true

/-- A response with a whole block and one with its filtered form, or two responses with one
status. -/
inductive SameResponse : BlockDeliverResponse → DeliverResponse → Prop
  | block {block : BlockProto} {filtered : FilteredBlockProto}
      (h : List.Forall₂ (SameTransaction rt) block.data.data filtered.filteredTransactions) :
      SameResponse (.block block) (.filteredBlock filtered)
  | status (s : Int32) : SameResponse (.status s) (.status s)

/-- A stream of whole blocks and one of their filtered forms. -/
structure SameStream (raw : Stream BlockDeliverResponse) (filtered : Stream DeliverResponse) : Prop where
  responses : List.Forall₂ (SameResponse rt) raw.responses filtered.responses
  ending : raw.ending = filtered.ending

/-- The transactions of a stream of whole blocks, in stream order. -/
def rawTransactions (raw : Stream BlockDeliverResponse) : List Bytes :=
  raw.responses.flatMap fun resp => resp.getBlock.data.data

/-- The transactions of a stream of filtered blocks, in stream order. -/
def filteredTransactions (filtered : Stream DeliverResponse) : List FilteredTXProto :=
  filtered.responses.flatMap fun resp => resp.getFilteredBlock.filteredTransactions

/-- Two searches find the same: both find the first position of their stream that holds the id,
where the one has an envelope that decodes to a transaction of that id and the other has a record of
that id; or both raise the same error. -/
def SameFinding (txId : String) (raw : Stream BlockDeliverResponse) (filtered : Stream DeliverResponse) :
    Except Exc Bytes → Except Exc FilteredTX → Prop
  | .ok envelope, .ok tx => ∃ (n : Nat) (decoded : DecodedTX) (p : FilteredTXProto),
      (rawTransactions raw)[n]? = some envelope ∧ DecodedTX.decode rt envelope = .ok decoded ∧
      decoded.txId = txId ∧
      (filteredTransactions filtered)[n]? = some p ∧ FilteredTX.fromProto p = .ok tx ∧ tx.txId = txId ∧
      ∀ m < n, ∀ earlier : FilteredTXProto, (filteredTransactions filtered)[m]? = some earlier →
        earlier.txid ≠ txId
  | .error e, .error e' => e = e'
  | _, _ => False

/-- No block that is delivered before a status holds a transaction. -/
def NoneDelivered (raw : Stream BlockDeliverResponse) : Prop :=
  ∀ resp ∈ raw.responses.takeWhile (·.getStatus = 0), resp.getBlock.data.data = []

/-! ## The search of whole blocks -/

/-- The search of a stream of whole blocks. -/
def searchRawTransaction (txId : String) (raw : Stream BlockDeliverResponse) : Except Exc Bytes :=
  findInStream RawBlock.transactions readBytesTxId txId (streamRawBlocks raw).error
    (streamRawBlocks raw).blocks

section Responses

variable (txId : String) {resp : BlockDeliverResponse} (rest : List BlockDeliverResponse)
  (ending : StreamEnd)

/-- A response without a status is yielded as its block. -/
theorem streamRawBlocks_cons (hstatus : resp.getStatus = 0) :
    streamRawBlocks ⟨resp :: rest, ending⟩ =
      ⟨RawBlock.fromProto resp.getBlock :: (streamRawBlocks ⟨rest, ending⟩).blocks,
        (streamRawBlocks ⟨rest, ending⟩).error⟩ := by
  rw [streamRawBlocks, streamBlocks, if_neg (not_not.mpr hstatus)]
  rfl

/-- The search goes past a block without transactions. -/
theorem searchRaw_cons_empty (hstatus : resp.getStatus = 0) (hempty : resp.getBlock.data.data = []) :
    searchRawTransaction txId ⟨resp :: rest, ending⟩ = searchRawTransaction txId ⟨rest, ending⟩ := by
  have hnone : (RawBlock.fromProto resp.getBlock).transactions = [] := hempty
  rw [searchRawTransaction, streamRawBlocks_cons rest ending hstatus, findInStream, hnone]
  rfl

/-- Whatever the first transaction of a block is, its id is not found. -/
theorem searchRaw_cons_transaction (hstatus : resp.getStatus = 0)
    (hdata : resp.getBlock.data.data ≠ []) :
    searchRawTransaction txId ⟨resp :: rest, ending⟩ =
      .error (.attributeError "'bytes' object has no attribute 'tx_id'") := by
  obtain ⟨envelope, envelopes, hcons⟩ := List.exists_cons_of_ne_nil hdata
  have htransactions : (RawBlock.fromProto resp.getBlock).transactions = envelope :: envelopes := hcons
  rw [searchRawTransaction, streamRawBlocks_cons rest ending hstatus, findInStream, htransactions]
  rfl

/-- The search ends at a status. -/
theorem searchRaw_cons_status (hstatus : resp.getStatus ≠ 0) :
    searchRawTransaction txId ⟨resp :: rest, ending⟩ =
      .error (.blockRetrievalError "Failed to retrieve block" (some resp.getStatus)) := by
  rw [searchRawTransaction, streamRawBlocks, streamBlocks_of_status hstatus]
  rfl

/-- The search of an empty stream raises what its end makes of it. -/
theorem searchRaw_nil : searchRawTransaction txId ⟨[], ending⟩ = .error ending.searchError := by
  cases ending <;> rfl

end Responses

/-- **A delivered transaction breaks the search** of whole blocks, whichever it is; by induction on
the responses. -/
theorem searchRaw_of_delivered (txId : String) {responses : List BlockDeliverResponse}
    {ending : StreamEnd} (h : ¬ NoneDelivered ⟨responses, ending⟩) :
    searchRawTransaction txId ⟨responses, ending⟩ =
      .error (.attributeError "'bytes' object has no attribute 'tx_id'") := by
  induction responses with
  | nil => exact absurd (fun _ hmem => nomatch hmem) h
  | cons resp rest ih =>
      unfold NoneDelivered at h ih
      by_cases hstatus : resp.getStatus = 0
      · rw [List.takeWhile_cons_of_pos (by simpa using hstatus), List.forall_mem_cons] at h
        by_cases hdata : resp.getBlock.data.data = []
        · rw [searchRaw_cons_empty txId rest ending hstatus hdata]
          exact ih fun hrest => h ⟨hdata, hrest⟩
        · exact searchRaw_cons_transaction txId rest ending hstatus hdata
      · -- Nothing is delivered before a status that comes first.
        rw [List.takeWhile_cons_of_neg (by simpa using hstatus)] at h
        exact absurd (fun _ hmem => nomatch hmem) h

/-- **Without a delivered transaction the two searches raise the same error**, by induction on the
responses. -/
theorem searches_of_noneDelivered (txId : String) {raws : List BlockDeliverResponse}
    {filtereds : List DeliverResponse} (hsame : List.Forall₂ (SameResponse rt) raws filtereds)
    (ending : StreamEnd) (h : NoneDelivered ⟨raws, ending⟩) :
    ∃ e, searchRawTransaction txId ⟨raws, ending⟩ = .error e ∧
      searchTransaction txId (streamFilteredBlocks ⟨filtereds, ending⟩) = .error e := by
  induction hsame with
  | nil => exact ⟨_, searchRaw_nil txId ending, search_nil ending txId⟩
  | @cons raw filtered raws filtereds hfirst _ ih =>
      unfold NoneDelivered at h ih
      by_cases hstatus : raw.getStatus = 0
      · rw [List.takeWhile_cons_of_pos (by simpa using hstatus), List.forall_mem_cons] at h
        rw [searchRaw_cons_empty txId raws ending hstatus h.1]
        have hskipped : filtered.Skipped txId := by
          cases hfirst with
          | @block block filtered htxs =>
              have hnil : block.data.data = [] := h.1
              rw [hnil, List.forall₂_nil_left_iff] at htxs
              refine ⟨rfl, ⟨filtered.channelId, filtered.number, []⟩, ?_,
                fun _ hmem => absurd hmem List.not_mem_nil⟩
              rw [FilteredBlock.fromProto, DeliverResponse.getFilteredBlock, htxs]
              rfl
          | status s => exact ⟨hstatus, _, rfl, fun _ hmem => absurd hmem List.not_mem_nil⟩
        rw [search_cons_skipped filtereds ending hskipped]
        exact ih h.2
      · cases hfirst with
        | block htxs => exact absurd rfl hstatus
        | status s =>
            exact ⟨_, searchRaw_cons_status txId raws ending hstatus,
              search_cons_status filtereds ending hstatus⟩

variable {rt} in
/-- **When the searches of two streams find the same**: exactly when no transaction is delivered. -/
theorem sameFinding_streams {raw : Stream BlockDeliverResponse} {filtered : Stream DeliverResponse}
    (h : SameStream rt raw filtered) (txId : String) :
    SameFinding rt txId raw filtered (searchRawTransaction txId raw)
        (searchTransaction txId (streamFilteredBlocks filtered)) ↔ NoneDelivered raw := by
  obtain ⟨raws, ending⟩ := raw
  obtain ⟨filtereds, _⟩ := filtered
  obtain ⟨hresponses, rfl⟩ := h
  by_cases hnone : NoneDelivered ⟨raws, ending⟩
  · obtain ⟨e, hraw, hfiltered⟩ := searches_of_noneDelivered rt txId hresponses ending hnone
    refine iff_of_true ?_ hnone
    rw [hraw, hfiltered]
    exact rfl
  · refine iff_of_false (fun hsame => ?_) hnone
    rw [searchRaw_of_delivered txId hnone] at hsame
    cases hsearch : searchTransaction txId (streamFilteredBlocks ⟨filtereds, ending⟩) with
    | ok tx =>
        rw [hsearch] at hsame
        exact hsame
    | error e =>
        rw [hsearch] at hsame
        obtain rfl : _ = e := hsame
        -- No search of filtered blocks lacks an attribute.
        obtain h | ⟨s, h⟩ | ⟨n, h⟩ := search_error_cases hsearch
        · cases ending <;> cases h
        · cases h
        · cases h

/-! ## The hubs -/

variable {rt} in
/-- A hub of whole blocks that can build its envelope searches the stream that the envelope
opens. -/
theorem EventHub.getTransaction_raw {hub : EventHub} {start : Option Int} {behavior : SeekBehavior}
    {nonce : Bytes} {timestamp : Timestamp} {envelope : Envelope}
    (h : hub.getConnectionEnvelope rt behavior start (some INDEFINITE_STOP_POSITION) nonce timestamp =
      .ok envelope) (deliver : Envelope → Stream BlockDeliverResponse) (txId : String) :
    hub.getTransaction rt RawBlock.transactions readBytesTxId txId deliver streamRawBlocks start behavior
      nonce timestamp = searchRawTransaction txId (deliver envelope) := by
  rw [EventHub.getTransaction, EventHub.streamBlocks, h]
  rfl

variable {rt} in
/-- **When the hubs find the same transaction.** For every stream of well-formed filtered blocks and
every stream of the same blocks as a whole, of a peer or of an orderer, `get_transaction` finds the
same in both exactly when no block that is delivered holds a transaction: the search of whole blocks
fails at the first transaction of any id. -/
theorem hubs_sameFinding_iff (requestor : User) (channel : Option Channel) (txId : String)
    (start : Option Int) (behavior : SeekBehavior) (filteredPeer : Peer)
    (deliverFiltered : Envelope → Stream DeliverResponse) (filteredNonce : Bytes)
    (filteredTimestamp : Timestamp) {filteredEnvelope : Envelope}
    (hfiltered : (peerFilteredEvents requestor channel filteredPeer).getConnectionEnvelope rt behavior
      start (some INDEFINITE_STOP_POSITION) filteredNonce filteredTimestamp = .ok filteredEnvelope) :
    let filtered := deliverFiltered filteredEnvelope
    let found := PeerFilteredEvents.getTransaction rt requestor channel filteredPeer deliverFiltered txId
      start behavior filteredNonce filteredTimestamp
    (∀ peer deliver nonce timestamp envelope,
      (peerEvents requestor channel peer).getConnectionEnvelope rt behavior start
        (some INDEFINITE_STOP_POSITION) nonce timestamp = .ok envelope →
      SameStream rt (deliver envelope) filtered →
      (SameFinding rt txId (deliver envelope) filtered
          (PeerEvents.getTransaction rt requestor channel peer deliver txId start behavior nonce timestamp)
          found ↔
        NoneDelivered (deliver envelope))) ∧
    ∀ orderer deliver nonce timestamp envelope,
      (ordererEvents requestor channel orderer).getConnectionEnvelope rt behavior start
        (some INDEFINITE_STOP_POSITION) nonce timestamp = .ok envelope →
      SameStream rt (deliver envelope) filtered →
      (SameFinding rt txId (deliver envelope) filtered
          (OrdererEvents.getTransaction rt requestor channel orderer deliver txId start behavior nonce
            timestamp)
          found ↔
        NoneDelivered (deliver envelope)) := by
  intro filtered found
  have hfound : found = searchTransaction txId (streamFilteredBlocks filtered) := by
    show PeerFilteredEvents.getTransaction rt requestor channel filteredPeer deliverFiltered txId start
      behavior filteredNonce filteredTimestamp = _
    rw [PeerFilteredEvents.getTransaction_eq, hfiltered]
  rw [hfound]
  refine ⟨fun peer deliver nonce timestamp envelope henvelope hsame => ?_,
    fun orderer deliver nonce timestamp envelope henvelope hsame => ?_⟩
  · rw [PeerEvents.getTransaction, EventHub.getTransaction_raw henvelope]
    exact sameFinding_streams hsame txId
  · rw [OrdererEvents.getTransaction, EventHub.getTransaction_raw henvelope]
    exact sameFinding_streams hsame txId

/-- A transaction of the keyed user's organisation with an opaque message. -/
def messageTx : DecodedTX where
  signature := [12]
  payload := {
    header := ⟨{ type := TransactionType.message.value, txId := "tx" }, ⟨{ mspid := "Org1MSP" }, [9]⟩⟩
    data := .bytes [13] }

/-- The hub of filtered blocks of the keyed user, when the peer streams some responses and
closes. -/
def findFiltered (responses : List DeliverResponse) : Except Exc FilteredTX :=
  PeerFilteredEvents.getTransaction (wireRuntime id) keyedUser (some ⟨"channel"⟩)
    { endpoint := "peer:7051" } (fun _ => ⟨responses, .closed⟩) "tx" none .blockUntilReady [9] {}

/-- The hub of whole blocks of the keyed user, when the peer streams some responses and closes. -/
def findRaw (responses : List BlockDeliverResponse) : Except Exc Bytes :=
  PeerEvents.getTransaction (wireRuntime id) keyedUser (some ⟨"channel"⟩) { endpoint := "peer:7051" }
    (fun _ => ⟨responses, .closed⟩) "tx" none .blockUntilReady [9] {}

/-- The peer delivers one block with the transaction: the hub of filtered blocks returns it, and the
hub of whole blocks raises. -/
theorem raw_search_raises :
    let raw : List BlockDeliverResponse :=
      [.block { data := { data := [messageTx.encode (wireRuntime id)] } }]
    let filtered : List DeliverResponse := [.filteredBlock { filteredTransactions := [{ txid := "tx" }] }]
    SameStream (wireRuntime id) ⟨raw, .closed⟩ ⟨filtered, .closed⟩ ∧
    findFiltered filtered = .ok ⟨"tx", .message, 0, {}⟩ ∧
    findRaw raw = .error (.attributeError "'bytes' object has no attribute 'tx_id'") ∧
    ¬ SameFinding (wireRuntime id) "tx" ⟨raw, .closed⟩ ⟨filtered, .closed⟩ (findRaw raw)
      (findFiltered filtered) := by
  intro raw filtered
  have hdecode : DecodedTX.decode (wireRuntime id) (messageTx.encode (wireRuntime id)) = .ok messageTx :=
    DecodedTX.decode_encode (wireRuntime_roundTrip id) ⟨.message, rfl, _, rfl⟩
  have hfiltered : findFiltered filtered = .ok ⟨"tx", .message, 0, {}⟩ := by decide +kernel
  have hraw : findRaw raw = .error (.attributeError "'bytes' object has no attribute 'tx_id'") := by
    decide +kernel
  refine ⟨⟨.cons (.block (.cons ⟨⟨messageTx, hdecode, rfl⟩, rfl⟩ .nil)) .nil, rfl⟩, hfiltered, hraw, ?_⟩
  rw [hfiltered, hraw]
  exact id

/-- The peer delivers one block without transactions: both searches raise the same error. -/
theorem hubs_sameFinding_iff_empty :
    SameFinding (wireRuntime id) "tx" ⟨[.block {}], .closed⟩ ⟨[.filteredBlock {}], .closed⟩
      (findRaw [.block {}]) (findFiltered [.filteredBlock {}]) :=
  ((hubs_sameFinding_iff keyedUser (some ⟨"channel"⟩) "tx" none .blockUntilReady
    { endpoint := "peer:7051" } (fun _ => ⟨[.filteredBlock {}], .closed⟩) [9] {} rfl).1
    { endpoint := "peer:7051" } (fun _ => ⟨[.block {}], .closed⟩) [9] {} _ rfl
    ⟨.cons (.block .nil) .nil, rfl⟩).mpr (by
      rw [NoneDelivered]
      decide +kernel)

end Snakeskin
