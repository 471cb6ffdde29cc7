import Snakeskin.Events

/-! # Searches of filtered streams

`get_transaction` of the hub of filtered blocks reads the responses of a stream one after the other.
A filtered block is converted as a whole before it is searched, the transactions of other clients
with it. This file says what the search goes past, where it ends, and what it comes upon on its
way. -/

namespace Snakeskin

open Wire

/-! ## What a search looks for -/

/-- The block holds a transaction with the id. -/
def FilteredBlockProto.Holds (txId : String) (block : FilteredBlockProto) : Prop :=
  ∃ tx ∈ block.filteredTransactions, tx.txid = txId

instance (txId : String) (block : FilteredBlockProto) : Decidable (block.Holds txId) :=
  inferInstanceAs (Decidable (∃ tx ∈ block.filteredTransactions, tx.txid = txId))

/-- A block that holds the transaction has a first one. -/
theorem FilteredBlockProto.holds_iff_find? {txId : String} {block : FilteredBlockProto} :
    block.Holds txId ↔ ∃ p, block.filteredTransactions.find? (·.txid = txId) = some p := by
  rw [← Option.isSome_iff_exists, List.find?_isSome]
  simp [FilteredBlockProto.Holds]

/-- The response is passed over by a search: it has no status, and no transaction with the id. -/
def DeliverResponse.PassesOver (txId : String) (resp : DeliverResponse) : Prop :=
  resp.getStatus = 0 ∧ ¬ resp.getFilteredBlock.Holds txId

/-- The transaction is the first with the id in stream order, and no status comes before its
block. -/
def FirstMatch (txId : String) (responses : List DeliverResponse) (tx : FilteredTXProto) : Prop :=
  ∃ before block after, responses = before ++ .filteredBlock block :: after ∧
    (∀ resp ∈ before, resp.PassesOver txId) ∧
    block.filteredTransactions.find? (·.txid = txId) = some tx

/-- The status is the first other than zero, and no transaction with the id comes before it. -/
def FirstStatus (txId : String) (responses : List DeliverResponse) (s : Int32) : Prop :=
  s ≠ 0 ∧ ∃ before after, responses = before ++ .status s :: after ∧
    ∀ resp ∈ before, resp.PassesOver txId

/-- There is neither a status nor a transaction with the id. -/
def Undecided (txId : String) (responses : List DeliverResponse) : Prop :=
  ∀ resp ∈ responses, resp.PassesOver txId

/-! ## Blocks that convert -/

/-- A block whose types are all declared converts, its transactions one by one. -/
theorem FilteredBlock.exists_fromProto {block : FilteredBlockProto}
    (h : ∀ p ∈ block.filteredTransactions, (TransactionType.ofValue? p.type).isSome = true) :
    ∃ b, FilteredBlock.fromProto block = .ok b ∧
      List.Forall₂ (fun p tx => FilteredTX.fromProto p = .ok tx) block.filteredTransactions
        b.transactions := by
  obtain ⟨txs, htxs⟩ : ∃ txs, block.filteredTransactions.mapM FilteredTX.fromProto = .ok txs := by
    rw [exists_mapM_ok_iff]
    intro p hp
    obtain ⟨type, htype⟩ := Option.isSome_iff_exists.mp (h p hp)
    rw [FilteredTX.fromProto, htype]
    exact ⟨_, rfl⟩
  refine ⟨⟨block.channelId, block.number, txs⟩, ?_, forall₂_of_mapM htxs⟩
  rw [FilteredBlock.fromProto, htxs]
  rfl

/-- The first transaction with an id converts to the first with the id. -/
theorem find?_of_forall₂ {txId : String} {ps : List FilteredTXProto} {txs : List FilteredTX}
    (h : List.Forall₂ (fun p tx => FilteredTX.fromProto p = .ok tx) ps txs)
    {p : FilteredTXProto} (hp : ps.find? (·.txid = txId) = some p) :
    ∃ tx, FilteredTX.fromProto p = .ok tx ∧ txs.find? (·.txId = txId) = some tx := by
  induction h with
  | nil => cases hp
  | @cons p' tx' ps txs hfirst _ ih =>
      have hid := FilteredTX.txId_of_fromProto hfirst
      by_cases htxId : p'.txid = txId
      · rw [List.find?_cons_of_pos (by simpa using htxId)] at hp
        cases hp
        exact ⟨tx', hfirst, List.find?_cons_of_pos (by simpa [hid] using htxId)⟩
      · rw [List.find?_cons_of_neg (by simpa using htxId)] at hp
        obtain ⟨tx, htx, hfind⟩ := ih hp
        refine ⟨tx, htx, ?_⟩
        rw [List.find?_cons_of_neg (by simpa [hid] using htxId), hfind]

/-- A block that does not convert has a transaction of an undeclared type. -/
theorem FilteredBlock.eq_notValid_of_fromProto {block : FilteredBlockProto} {e : Exc}
    (h : FilteredBlock.fromProto block = .error e) : ∃ n, e = TransactionType.notValid n := by
  obtain h | ⟨txs, -, h⟩ := bind_eq_error.mp h
  · obtain ⟨p, -, hp⟩ := exists_of_mapM_eq_error h
    unfold FilteredTX.fromProto at hp
    split at hp
    · cases hp
    · cases hp
      exact ⟨_, rfl⟩
  · cases h

/-- The first transaction of a block whose header type is not declared. -/
def FilteredBlockProto.undeclared? (block : FilteredBlockProto) : Option FilteredTXProto :=
  block.filteredTransactions.find? fun tx => (TransactionType.ofValue? tx.type).isNone

/-- A block with a transaction of an undeclared type is refused for the first such type. -/
theorem FilteredBlock.fromProto_of_undeclared {block : FilteredBlockProto} {p : FilteredTXProto}
    (h : block.undeclared? = some p) :
    FilteredBlock.fromProto block = .error (TransactionType.notValid p.type) := by
  have hmap : ∀ ps : List FilteredTXProto,
      ps.find? (fun tx => (TransactionType.ofValue? tx.type).isNone) = some p →
      ps.mapM FilteredTX.fromProto = .error (TransactionType.notValid p.type) := by
    intro ps hps
    induction ps with
    | nil => cases hps
    | cons first ps ih =>
        rw [List.mapM_cons]
        cases htype : TransactionType.ofValue? first.type with
        | none =>
            rw [List.find?_cons_of_pos (by rw [htype]; rfl)] at hps
            cases hps
            rw [FilteredTX.fromProto, htype]
            rfl
        | some type =>
            rw [List.find?_cons_of_neg (by rw [htype]; exact Bool.false_ne_true)] at hps
            rw [FilteredTX.fromProto, htype, ok_bind, ih hps]
            rfl
  rw [FilteredBlock.fromProto, hmap _ h]
  rfl

/-- Without an undeclared one all types are declared. -/
theorem FilteredBlockProto.declared_of_undeclared? {block : FilteredBlockProto}
    (h : block.undeclared? = none) :
    ∀ p ∈ block.filteredTransactions, (TransactionType.ofValue? p.type).isSome = true := by
  intro p hp
  have hdeclared := List.find?_eq_none.mp h p hp
  rwa [Bool.not_eq_true, Option.isNone_eq_false_iff] at hdeclared

/-! ## One response after another -/

section Responses

variable {txId : String} {resp : DeliverResponse} (rest : List DeliverResponse) (ending : StreamEnd)

/-- A search goes past the response: it has no status, and its block converts and does not hold the
transaction. -/
def DeliverResponse.Skipped (txId : String) (resp : DeliverResponse) : Prop :=
  resp.getStatus = 0 ∧ ∃ block, FilteredBlock.fromProto resp.getFilteredBlock = .ok block ∧
    ∀ tx ∈ block.transactions, tx.txId ≠ txId

/-- A response whose block converts is yielded as that block. -/
theorem streamFilteredBlocks_cons (hstatus : resp.getStatus = 0) {block : FilteredBlock}
    (hblock : FilteredBlock.fromProto resp.getFilteredBlock = .ok block) :
    streamFilteredBlocks ⟨resp :: rest, ending⟩ =
      ⟨block :: (streamFilteredBlocks ⟨rest, ending⟩).blocks,
        (streamFilteredBlocks ⟨rest, ending⟩).error⟩ := by
  rw [streamFilteredBlocks, streamBlocks, if_neg (not_not.mpr hstatus), hblock]
  rfl

/-- The search of a stream is that of the stream after a response that it goes past. -/
theorem search_cons_skipped (h : resp.Skipped txId) :
    searchTransaction txId (streamFilteredBlocks ⟨resp :: rest, ending⟩) =
      searchTransaction txId (streamFilteredBlocks ⟨rest, ending⟩) := by
  obtain ⟨hstatus, block, hblock, hnone⟩ := h
  have hfind : block.transactions.find? (fun tx => tx.txId = txId) = none := by
    rw [List.find?_eq_none]
    intro tx htx
    simpa using hnone tx htx
  rw [streamFilteredBlocks_cons rest ending hstatus hblock]
  unfold searchTransaction findTransaction
  rw [List.findSome?_cons, hfind]

/-- It is that of the stream after any number of them, by induction on them. -/
theorem search_append_skipped {before : List DeliverResponse}
    (h : ∀ resp ∈ before, resp.Skipped txId) :
    searchTransaction txId (streamFilteredBlocks ⟨before ++ rest, ending⟩) =
      searchTransaction txId (streamFilteredBlocks ⟨rest, ending⟩) := by
  induction before with
  | nil => rfl
  | cons resp before ih =>
      rw [List.cons_append, search_cons_skipped _ _ (h resp List.mem_cons_self)]
      exact ih fun resp' hmem => h resp' (List.mem_cons_of_mem _ hmem)

/-- The search ends at a block that holds the transaction. -/
theorem search_cons_found (hstatus : resp.getStatus = 0) {block : FilteredBlock}
    (hblock : FilteredBlock.fromProto resp.getFilteredBlock = .ok block) {tx : FilteredTX}
    (htx : block.transactions.find? (fun tx => tx.txId = txId) = some tx) :
    searchTransaction txId (streamFilteredBlocks ⟨resp :: rest, ending⟩) = .ok tx := by
  rw [streamFilteredBlocks_cons rest ending hstatus hblock]
  unfold searchTransaction findTransaction
  rw [List.findSome?_cons, htx]

/-- The search ends at a status. -/
theorem search_cons_status (hstatus : resp.getStatus ≠ 0) :
    searchTransaction txId (streamFilteredBlocks ⟨resp :: rest, ending⟩) =
      .error (.blockRetrievalError "Failed to retrieve block" (some resp.getStatus)) := by
  rw [streamFilteredBlocks, streamBlocks_of_status hstatus]
  rfl

/-- The search ends at a block that does not convert. -/
theorem search_cons_error (hstatus : resp.getStatus = 0) {e : Exc}
    (hblock : FilteredBlock.fromProto resp.getFilteredBlock = .error e) :
    searchTransaction txId (streamFilteredBlocks ⟨resp :: rest, ending⟩) = .error e := by
  rw [streamFilteredBlocks, streamBlocks, if_neg (not_not.mpr hstatus), hblock]
  rfl

/-- The error with which a search falls off the end of a stream. -/
def StreamEnd.searchError : StreamEnd → Exc
  | .closed => .runtimeError "Could not get transaction"
  | .rpcError e => e.toExc
  | .cancelled => .cancelledError

/-- The search of an empty stream raises what its end makes of it. -/
theorem search_nil (txId : String) :
    searchTransaction txId (streamFilteredBlocks ⟨[], ending⟩) = .error ending.searchError := by
  cases ending <;> rfl

end Responses

/-- A search goes past a response whose types are declared and that does not hold the transaction:
its block converts, with the ids it has. -/
theorem DeliverResponse.Skipped.of_declared {txId : String} {resp : DeliverResponse}
    (hstatus : resp.getStatus = 0)
    (hdeclared : ∀ p ∈ resp.getFilteredBlock.filteredTransactions,
      (TransactionType.ofValue? p.type).isSome = true)
    (hholds : ¬ resp.getFilteredBlock.Holds txId) : resp.Skipped txId := by
  obtain ⟨block, hblock, -⟩ := FilteredBlock.exists_fromProto hdeclared
  refine ⟨hstatus, block, hblock, fun tx htx hid => hholds ?_⟩
  have hmem : txId ∈ block.transactions.map (·.txId) := List.mem_map.mpr ⟨tx, htx, hid⟩
  rw [FilteredBlock.txIds_of_fromProto hblock] at hmem
  exact List.mem_map.mp hmem

/-- **What a search raises**: what the end of the stream makes of it, a status, or the refusal of an
undeclared type; by induction on the responses. -/
theorem search_error_cases {txId : String} {responses : List DeliverResponse} {ending : StreamEnd}
    {e : Exc} (h : searchTransaction txId (streamFilteredBlocks ⟨responses, ending⟩) = .error e) :
    e = ending.searchError ∨ (∃ s, e = .blockRetrievalError "Failed to retrieve block" (some s)) ∨
      ∃ n, e = TransactionType.notValid n := by
  induction responses with
  | nil =>
      rw [search_nil] at h
      cases h
      exact .inl rfl
  | cons resp rest ih =>
      by_cases hstatus : resp.getStatus = 0
      · cases hblock : FilteredBlock.fromProto resp.getFilteredBlock with
        | error e' =>
            rw [search_cons_error rest ending hstatus hblock] at h
            cases h
            exact .inr (.inr (FilteredBlock.eq_notValid_of_fromProto hblock))
        | ok block =>
            cases hfind : block.transactions.find? (fun tx => tx.txId = txId) with
            | some tx =>
                rw [search_cons_found rest ending hstatus hblock hfind] at h
                cases h
            | none =>
                have hskipped : resp.Skipped txId :=
                  ⟨hstatus, block, hblock, fun tx htx => by simpa using List.find?_eq_none.mp hfind tx htx⟩
                rw [search_cons_skipped rest ending hskipped] at h
                exact ih h
      · rw [search_cons_status rest ending hstatus] at h
        cases h
        exact .inr (.inl ⟨_, rfl⟩)

/-! ## What a search comes upon -/

/-- The first header type that is not declared, in the blocks that a search reads: those up to the
first that holds the transaction, and none from a status on. -/
def firstUndeclared (txId : String) : List DeliverResponse → Option Int32
  | [] => none
  | resp :: rest =>
      if resp.getStatus ≠ 0 then none
      else match resp.getFilteredBlock.undeclared? with
        | some tx => some tx.type
        | none => if resp.getFilteredBlock.Holds txId then none else firstUndeclared txId rest

section Responses

variable {txId : String} {resp : DeliverResponse} (rest : List DeliverResponse) (ending : StreamEnd)

/-- Nothing is read from a status on. -/
theorem firstUndeclared_cons_status (hstatus : resp.getStatus ≠ 0) :
    firstUndeclared txId (resp :: rest) = none := by
  rw [firstUndeclared, if_pos hstatus]

/-- The first undeclared type of a block is the first of the stream. -/
theorem firstUndeclared_cons_undeclared (hstatus : resp.getStatus = 0) {p : FilteredTXProto}
    (hp : resp.getFilteredBlock.undeclared? = some p) :
    firstUndeclared txId (resp :: rest) = some p.type := by
  rw [firstUndeclared, if_neg (not_not.mpr hstatus), hp]

/-- Nothing is read after a block that holds the transaction. -/
theorem firstUndeclared_cons_holds (hstatus : resp.getStatus = 0)
    (hdeclared : resp.getFilteredBlock.undeclared? = none) (hholds : resp.getFilteredBlock.Holds txId) :
    firstUndeclared txId (resp :: rest) = none := by
  rw [firstUndeclared, if_neg (not_not.mpr hstatus), hdeclared]
  exact if_pos hholds

/-- After any other block the search goes on. -/
theorem firstUndeclared_cons_skipped (hstatus : resp.getStatus = 0)
    (hdeclared : resp.getFilteredBlock.undeclared? = none)
    (hholds : ¬ resp.getFilteredBlock.Holds txId) :
    firstUndeclared txId (resp :: rest) = firstUndeclared txId rest := by
  rw [firstUndeclared, if_neg (not_not.mpr hstatus), hdeclared]
  exact if_neg hholds

/-- A search goes past a response without an undeclared type that does not hold the transaction. -/
theorem DeliverResponse.Skipped.of_undeclared_eq_none (hstatus : resp.getStatus = 0)
    (hdeclared : resp.getFilteredBlock.undeclared? = none)
    (hholds : ¬ resp.getFilteredBlock.Holds txId) : resp.Skipped txId :=
  .of_declared hstatus (FilteredBlockProto.declared_of_undeclared? hdeclared) hholds

/-- A block whose types are declared and that holds the transaction ends the search with the first
one of that id, converted. -/
theorem search_cons_holds (hstatus : resp.getStatus = 0)
    (hdeclared : resp.getFilteredBlock.undeclared? = none) {p : FilteredTXProto}
    (hp : resp.getFilteredBlock.filteredTransactions.find? (·.txid = txId) = some p) :
    ∃ tx, FilteredTX.fromProto p = .ok tx ∧
      searchTransaction txId (streamFilteredBlocks ⟨resp :: rest, ending⟩) = .ok tx := by
  obtain ⟨block, hblock, htxs⟩ :=
    FilteredBlock.exists_fromProto (FilteredBlockProto.declared_of_undeclared? hdeclared)
  obtain ⟨tx, htx, hfind⟩ := find?_of_forall₂ htxs hp
  exact ⟨tx, htx, search_cons_found rest ending hstatus hblock hfind⟩

end Responses

/-- How a search reads a stream: it goes past responses up to the end of the stream, a status, a
block with an undeclared type, or a block that holds the transaction. -/
inductive Reading (txId : String) : List DeliverResponse → Prop
  | exhausted : Reading txId []
  | status {resp : DeliverResponse} (rest : List DeliverResponse) (hstatus : resp.getStatus ≠ 0) :
      Reading txId (resp :: rest)
  | undeclared {resp : DeliverResponse} (rest : List DeliverResponse) (hstatus : resp.getStatus = 0)
      {p : FilteredTXProto} (hp : resp.getFilteredBlock.undeclared? = some p) :
      Reading txId (resp :: rest)
  | found {resp : DeliverResponse} (rest : List DeliverResponse) (hstatus : resp.getStatus = 0)
      (hdeclared : resp.getFilteredBlock.undeclared? = none)
      (hholds : resp.getFilteredBlock.Holds txId) : Reading txId (resp :: rest)
  | skipped {resp : DeliverResponse} {rest : List DeliverResponse} (hstatus : resp.getStatus = 0)
      (hdeclared : resp.getFilteredBlock.undeclared? = none)
      (hholds : ¬ resp.getFilteredBlock.Holds txId) (hrest : Reading txId rest) :
      Reading txId (resp :: rest)

/-- Every stream is read so, by induction on its responses. -/
theorem reading (txId : String) (responses : List DeliverResponse) : Reading txId responses := by
  induction responses with
  | nil => exact .exhausted
  | cons resp rest ih =>
      by_cases hstatus : resp.getStatus = 0
      · cases hfirst : resp.getFilteredBlock.undeclared? with
        | some p => exact .undeclared rest hstatus hfirst
        | none =>
            by_cases hholds : resp.getFilteredBlock.Holds txId
            · exact .found rest hstatus hfirst hholds
            · exact .skipped hstatus hfirst hholds ih
      · exact .status rest hstatus

/-- **A search that comes upon an undeclared type raises its refusal**, whoever sent the
transaction; by induction on how the stream is read. -/
theorem search_of_undeclared {txId : String} {responses : List DeliverResponse} {n : Int32}
    (h : firstUndeclared txId responses = some n) (ending : StreamEnd) :
    searchTransaction txId (streamFilteredBlocks ⟨responses, ending⟩) =
      .error (TransactionType.notValid n) := by
  induction reading txId responses with
  | exhausted => cases h
  | status rest hstatus =>
      rw [firstUndeclared_cons_status rest hstatus] at h
      cases h
  | undeclared rest hstatus hp =>
      rw [firstUndeclared_cons_undeclared rest hstatus hp] at h
      cases h
      exact search_cons_error rest ending hstatus (FilteredBlock.fromProto_of_undeclared hp)
  | found rest hstatus hdeclared hholds =>
      rw [firstUndeclared_cons_holds rest hstatus hdeclared hholds] at h
      cases h
  | skipped hstatus hdeclared hholds hrest ih =>
      rw [firstUndeclared_cons_skipped _ hstatus hdeclared hholds] at h
      rw [search_cons_skipped _ ending (.of_undeclared_eq_none hstatus hdeclared hholds)]
      exact ih h

/-- When a search comes upon no undeclared type, a block that it reads has none, and unless the
block holds the transaction the search of the rest comes upon none. -/
theorem declared_of_firstUndeclared {txId : String} {resp : DeliverResponse}
    {rest : List DeliverResponse} (h : firstUndeclared txId (resp :: rest) = none)
    (hstatus : resp.getStatus = 0) : resp.getFilteredBlock.undeclared? = none ∧
      (resp.getFilteredBlock.Holds txId ∨ firstUndeclared txId rest = none) := by
  cases hfirst : resp.getFilteredBlock.undeclared? with
  | some p =>
      rw [firstUndeclared_cons_undeclared rest hstatus hfirst] at h
      cases h
  | none =>
      by_cases hholds : resp.getFilteredBlock.Holds txId
      · exact ⟨rfl, .inl hholds⟩
      · rw [firstUndeclared_cons_skipped rest hstatus hfirst hholds] at h
        exact ⟨rfl, .inr h⟩

/-- When a search comes upon no undeclared type, it goes past the responses that it passes over, by
induction on them. -/
theorem skipped_of_firstUndeclared {txId : String} {before rest : List DeliverResponse}
    (h : firstUndeclared txId (before ++ rest) = none) (hbefore : ∀ resp ∈ before, resp.PassesOver txId) :
    (∀ resp ∈ before, resp.Skipped txId) ∧ firstUndeclared txId rest = none := by
  induction before with
  | nil => exact ⟨List.forall_mem_nil _, h⟩
  | cons resp before ih =>
      obtain ⟨⟨hstatus, hholds⟩, hbefore⟩ := List.forall_mem_cons.mp hbefore
      obtain ⟨hdeclared, hrest⟩ := declared_of_firstUndeclared h hstatus
      obtain ⟨hskipped, hnone⟩ := ih (hrest.resolve_left hholds) hbefore
      exact ⟨List.forall_mem_cons.mpr ⟨.of_undeclared_eq_none hstatus hdeclared hholds, hskipped⟩, hnone⟩

/-! ## Where the search ends -/

section Ends

variable {txId : String} {responses : List DeliverResponse}

/-- **When a delivered transaction is returned**: one that is the first with its id, exactly when
the search comes upon no undeclared type. -/
theorem search_returns_iff {p : FilteredTXProto} (hmatch : FirstMatch txId responses p)
    (ending : StreamEnd) :
    (∃ tx, FilteredTX.fromProto p = .ok tx ∧
        searchTransaction txId (streamFilteredBlocks ⟨responses, ending⟩) = .ok tx) ↔
      firstUndeclared txId responses = none := by
  constructor
  · rintro ⟨tx, -, hsearch⟩
    cases h : firstUndeclared txId responses with
    | none => rfl
    | some n =>
        rw [search_of_undeclared h ending] at hsearch
        cases hsearch
  · intro h
    obtain ⟨before, block, after, rfl, hbefore, hp⟩ := hmatch
    obtain ⟨hskipped, hrest⟩ := skipped_of_firstUndeclared h hbefore
    rw [search_append_skipped _ ending hskipped]
    exact search_cons_holds after ending rfl (declared_of_firstUndeclared hrest rfl).1 hp

/-- A search that comes upon no undeclared type raises the first status. -/
theorem search_of_firstStatus (hdeclared : firstUndeclared txId responses = none) {s : Int32}
    (h : FirstStatus txId responses s) (ending : StreamEnd) :
    searchTransaction txId (streamFilteredBlocks ⟨responses, ending⟩) =
      .error (.blockRetrievalError "Failed to retrieve block" (some s)) := by
  obtain ⟨hs, before, after, rfl, hbefore⟩ := h
  rw [search_append_skipped _ ending (skipped_of_firstUndeclared hdeclared hbefore).1]
  exact search_cons_status after ending hs

/-- A search that comes upon no undeclared type raises what the end of an undecided stream does. -/
theorem search_of_undecided (hdeclared : firstUndeclared txId responses = none)
    (h : Undecided txId responses) (ending : StreamEnd) :
    searchTransaction txId (streamFilteredBlocks ⟨responses, ending⟩) = .error ending.searchError := by
  rw [← List.append_nil responses] at hdeclared ⊢
  rw [search_append_skipped _ ending (skipped_of_firstUndeclared hdeclared h).1]
  exact search_nil ending txId

/-- Among blocks of which one holds the transaction there is a first match, by induction on the
blocks. -/
theorem exists_firstMatch {blocks : List FilteredBlockProto} (h : ∃ block ∈ blocks, block.Holds txId) :
    ∃ p, FirstMatch txId (blocks.map .filteredBlock) p := by
  induction blocks with
  | nil =>
      obtain ⟨block, hmem, -⟩ := h
      cases hmem
  | cons first blocks ih =>
      by_cases hfirst : first.Holds txId
      · obtain ⟨p, hp⟩ := FilteredBlockProto.holds_iff_find?.mp hfirst
        exact ⟨p, [], first, blocks.map .filteredBlock, rfl, List.forall_mem_nil _, hp⟩
      · have hrest : ∃ block ∈ blocks, block.Holds txId :=
          ((List.exists_mem_cons_iff _ _ _).mp h).resolve_left hfirst
        obtain ⟨p, before, block, after, hblocks, hbefore, hp⟩ := ih hrest
        refine ⟨p, .filteredBlock first :: before, block, after, ?_, ?_, hp⟩
        · rw [List.map_cons, hblocks, List.cons_append]
        · exact List.forall_mem_cons.mpr ⟨⟨rfl, hfirst⟩, hbefore⟩

/-- **When a stream of blocks gives the transaction**: exactly when one of them holds it, and the
search comes upon no undeclared type. -/
theorem search_blocks_ok_iff {blocks : List FilteredBlockProto} (ending : StreamEnd) :
    (∃ tx, searchTransaction txId (streamFilteredBlocks ⟨blocks.map .filteredBlock, ending⟩) = .ok tx) ↔
      (∃ block ∈ blocks, block.Holds txId) ∧
        firstUndeclared txId (blocks.map .filteredBlock) = none := by
  constructor
  · rintro ⟨tx, hsearch⟩
    have hdeclared : firstUndeclared txId (blocks.map .filteredBlock) = none := by
      by_contra hsome
      obtain ⟨n, hn⟩ := Option.ne_none_iff_exists'.mp hsome
      rw [search_of_undeclared hn ending] at hsearch
      cases hsearch
    refine ⟨?_, hdeclared⟩
    by_contra hnone
    -- Otherwise the search passes over all blocks and falls off the end of the stream.
    have hundecided : Undecided txId (blocks.map .filteredBlock) := by
      intro resp hmem
      obtain ⟨block, hblock, rfl⟩ := List.mem_map.mp hmem
      exact ⟨rfl, fun hholds => hnone ⟨block, hblock, hholds⟩⟩
    rw [search_of_undecided hdeclared hundecided ending] at hsearch
    cases hsearch
  · rintro ⟨hholds, hdeclared⟩
    obtain ⟨p, hmatch⟩ := exists_firstMatch hholds
    obtain ⟨tx, -, hsearch⟩ := (search_returns_iff hmatch ending).mpr hdeclared
    exact ⟨tx, hsearch⟩

end Ends

end Snakeskin
