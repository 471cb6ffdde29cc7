import Snakeskin.HubSearches

/-! # The verdict on a transaction

`check_transaction` tells a client whether its ledger write happened. Its five outcomes compete by
their position in the stream: the transaction, a status, the failure of the stream, its end. This
file says which one wins, for every stream. -/

namespace Snakeskin

open Wire

variable (rt : Runtime) (network : Network)

/-! ## Streams of filtered blocks -/

/-- The response is a filtered block whose header types and validation codes are declared, or a
status other than zero. -/
def DeliverResponse.Declared : DeliverResponse → Prop
  | .filteredBlock block => ∀ tx ∈ block.filteredTransactions,
      (TransactionType.ofValue? tx.type).isSome = true ∧
        tx.txValidationCode ∈ declaredValidationCodes
  | .status s => s ≠ 0
  | .unset => False

/-- A declared stream has a first match, a first status, or is undecided, by induction on its
responses. -/
theorem verdict_cases (txId : String) {responses : List DeliverResponse}
    (h : ∀ resp ∈ responses, resp.Declared) :
    (∃ tx, FirstMatch txId responses tx) ∨ (∃ s, FirstStatus txId responses s) ∨
      Undecided txId responses := by
  induction responses with
  | nil => exact .inr (.inr fun _ hmem => (by cases hmem))
  | cons first rest ih =>
      cases first with
      | unset => exact absurd (h _ List.mem_cons_self) id
      | status s => exact .inr (.inl ⟨s, h _ List.mem_cons_self, [], rest, rfl, by simp⟩)
      | filteredBlock block =>
          rcases hfind : block.filteredTransactions.find? (·.txid = txId) with _ | tx
          · have hfirst : (DeliverResponse.filteredBlock block).PassesOver txId := by
              refine ⟨rfl, fun ⟨tx, hmem, htx⟩ => absurd htx ?_⟩
              simpa using List.find?_eq_none.mp hfind tx hmem
            have hcons : ∀ {before : List DeliverResponse}, (∀ resp ∈ before, resp.PassesOver txId) →
                ∀ resp ∈ .filteredBlock block :: before, resp.PassesOver txId :=
              fun hbefore => List.forall_mem_cons.mpr ⟨hfirst, hbefore⟩
            -- The first block is passed over, so the verdict is that of the rest.
            obtain ⟨tx, before, block', after, rfl, hbefore, htx⟩ |
              ⟨s, hs, before, after, rfl, hbefore⟩ | hrest :=
                ih fun resp hmem => h resp (List.mem_cons_of_mem _ hmem)
            · exact .inl ⟨tx, _ :: before, block', after, rfl, hcons hbefore, htx⟩
            · exact .inr (.inl ⟨s, hs, _ :: before, after, rfl, hcons hbefore⟩)
            · exact .inr (.inr (hcons hrest))
          · exact .inl ⟨tx, [], block, rest, rfl, by simp, hfind⟩

/-- A search of a declared stream comes upon no undeclared type, by induction on its responses. -/
theorem firstUndeclared_of_declared (txId : String) {responses : List DeliverResponse}
    (h : ∀ resp ∈ responses, resp.Declared) : firstUndeclared txId responses = none := by
  induction responses with
  | nil => rfl
  | cons first rest ih =>
      obtain ⟨hfirst, hrest⟩ := List.forall_mem_cons.mp h
      cases first with
      | unset => exact absurd hfirst id
      | status s => exact firstUndeclared_cons_status rest hfirst
      | filteredBlock block =>
          have hblock : block.undeclared? = none := by
            refine List.find?_eq_none.mpr fun tx htx => ?_
            rw [Bool.not_eq_true, Option.isNone_eq_false_iff]
            exact (hfirst tx htx).1
          by_cases hholds : block.Holds txId
          · exact firstUndeclared_cons_holds rest rfl hblock hholds
          · have hskipped : firstUndeclared txId (.filteredBlock block :: rest) = _ :=
              firstUndeclared_cons_skipped rest rfl hblock hholds
            exact hskipped.trans (ih hrest)

/-! ## What the check makes of it -/

/-- A check with time to wait is observed to end as the search of the stream does, a cancellation
turned into a timeout and an invalid transaction into an error. -/
theorem observe_checkTransaction {requestor : User} {channel : Option Channel} {peer : Peer}
    {txId : String} {timeout : Int} (htimeout : 0 < timeout) {start : Option Int}
    {behavior : SeekBehavior} {sends : List Request} {envelope : Envelope}
    (henvelope : (peerFilteredEvents requestor channel peer).getConnectionEnvelope rt behavior start
      (some INDEFINITE_STOP_POSITION) (network sends .entropy : Bytes × Timestamp).1
      (network sends .entropy : Bytes × Timestamp).2 = .ok envelope) :
    (Coro.observe network
      (checkTransaction rt requestor channel peer txId timeout start behavior) () sends).1 =
      match searchTransaction txId (streamFilteredBlocks
        (network (sends ++ [.entropy]) (.deliverFiltered peer envelope))) with
      | .ok tx =>
          if tx.txValidationCode ≠ VALID then .error (mkTransactionValidationError tx.txValidationCode)
          else .ok tx
      | .error e => .error (if e = .cancelledError then .timeoutError else e) := by
  rw [checkTransaction, Coro.bind_eq, Coro.observe_bind, observe_waitFor, if_neg (by omega),
    observe_getTransaction]
  dsimp only
  rw [henvelope]
  dsimp only
  generalize searchTransaction txId _ = found
  cases found with
  | error e => rfl
  | ok tx =>
      dsimp only
      split <;> rfl

/-- The first match is a transaction of a declared block, whose code is declared. -/
theorem declared_of_firstMatch {txId : String} {responses : List DeliverResponse}
    (hdeclared : ∀ resp ∈ responses, resp.Declared) {p : FilteredTXProto}
    (h : FirstMatch txId responses p) : p.txValidationCode ∈ declaredValidationCodes := by
  obtain ⟨before, block, after, rfl, -, hfind⟩ := h
  exact (hdeclared _ (List.mem_append_right _ List.mem_cons_self) p
    (List.mem_of_find?_eq_some hfind)).2

/-- What a check of a stream makes of each verdict. -/
structure Judges (txId : String) (responses : List DeliverResponse) (ending : StreamEnd)
    (outcome : Except Exc FilteredTX) : Prop where
  ofMatch : ∀ p, FirstMatch txId responses p → ∃ tx, FilteredTX.fromProto p = .ok tx ∧
    outcome = if p.txValidationCode = VALID then .ok tx
      else .error (.transactionValidationError p.txValidationCode)
  ofStatus : ∀ s, FirstStatus txId responses s →
    outcome = .error (.blockRetrievalError "Failed to retrieve block" (some s))
  ofClosed : Undecided txId responses → ending = .closed →
    outcome = .error (.runtimeError "Could not get transaction")
  ofFailure : ∀ e, Undecided txId responses → ending = .rpcError e →
    outcome = .error (.blockchainConnectionError e.code e.details)

/-- **A check judges a declared stream** that it opens, when the timeout does not elapse. -/
theorem judges_checkTransaction {requestor : User} {channel : Option Channel} {peer : Peer}
    {txId : String} {timeout : Int} (htimeout : 0 < timeout) {start : Option Int}
    {behavior : SeekBehavior} {sends : List Request} {envelope : Envelope}
    (henvelope : (peerFilteredEvents requestor channel peer).getConnectionEnvelope rt behavior start
      (some INDEFINITE_STOP_POSITION) (network sends .entropy : Bytes × Timestamp).1
      (network sends .entropy : Bytes × Timestamp).2 = .ok envelope)
    {responses : List DeliverResponse} {ending : StreamEnd}
    (hstream : network (sends ++ [.entropy]) (.deliverFiltered peer envelope) =
      (⟨responses, ending⟩ : Stream DeliverResponse))
    (hdeclared : ∀ resp ∈ responses, resp.Declared) :
    Judges txId responses ending (Coro.observe network
      (checkTransaction rt requestor channel peer txId timeout start behavior) () sends).1 := by
  rw [observe_checkTransaction rt network htimeout henvelope, hstream]
  have hnone := firstUndeclared_of_declared txId hdeclared
  refine ⟨fun p hp => ?_, fun s hs => ?_, ?_, ?_⟩
  · obtain ⟨tx, htx, hsearch⟩ := (search_returns_iff hp ending).mpr hnone
    refine ⟨tx, htx, ?_⟩
    rw [hsearch]
    dsimp only
    rw [ite_not, FilteredTX.txValidationCode_of_fromProto htx, mkTransactionValidationError,
      if_pos (declared_of_firstMatch hdeclared hp)]
  · rw [search_of_firstStatus hnone hs ending]
    rfl
  · rintro hundecided rfl
    rw [search_of_undecided hnone hundecided]
    rfl
  · rintro e hundecided rfl
    rw [search_of_undecided hnone hundecided]
    rfl

/-- One of five holds of what is judged, so that each outcome tells which. -/
theorem Judges.cases {txId : String} {responses : List DeliverResponse} {ending : StreamEnd}
    {outcome : Except Exc FilteredTX} (h : Judges txId responses ending outcome)
    (hdeclared : ∀ resp ∈ responses, resp.Declared) (hending : ending ≠ .cancelled) :
    (∃ p tx, FirstMatch txId responses p ∧ p.txValidationCode = VALID ∧
      FilteredTX.fromProto p = .ok tx ∧ outcome = .ok tx) ∨
    (∃ p, FirstMatch txId responses p ∧ p.txValidationCode ≠ VALID ∧
      outcome = .error (.transactionValidationError p.txValidationCode)) ∨
    (∃ s, FirstStatus txId responses s ∧
      outcome = .error (.blockRetrievalError "Failed to retrieve block" (some s))) ∨
    (∃ e, Undecided txId responses ∧ ending = .rpcError e ∧
      outcome = .error (.blockchainConnectionError e.code e.details)) ∨
    (Undecided txId responses ∧ ending = .closed ∧
      outcome = .error (.runtimeError "Could not get transaction")) := by
  obtain ⟨p, hp⟩ | ⟨s, hs⟩ | hundecided := verdict_cases txId hdeclared
  · obtain ⟨tx, htx, ho⟩ := h.ofMatch p hp
    by_cases hvalid : p.txValidationCode = VALID
    · exact .inl ⟨p, tx, hp, hvalid, htx, by rw [ho, if_pos hvalid]⟩
    · exact .inr (.inl ⟨p, hp, hvalid, by rw [ho, if_neg hvalid]⟩)
  · exact .inr (.inr (.inl ⟨s, hs, h.ofStatus s hs⟩))
  · cases ending with
    | closed => exact .inr (.inr (.inr (.inr ⟨hundecided, rfl, h.ofClosed hundecided rfl⟩)))
    | rpcError e => exact .inr (.inr (.inr (.inl ⟨e, hundecided, rfl, h.ofFailure e hundecided rfl⟩)))
    | cancelled => exact absurd rfl hending

section Outcomes

variable {txId : String} {responses : List DeliverResponse} {ending : StreamEnd}
  {outcome : Except Exc FilteredTX}

/-- A judged stream gives a transaction for a valid first match, and for that only. -/
theorem Judges.ok_iff (h : Judges txId responses ending outcome)
    (hdeclared : ∀ resp ∈ responses, resp.Declared) (hending : ending ≠ .cancelled)
    (tx : FilteredTX) :
    outcome = .ok tx ↔ ∃ p, FirstMatch txId responses p ∧ p.txValidationCode = VALID ∧
      FilteredTX.fromProto p = .ok tx := by
  constructor
  · intro hok
    obtain ⟨p, tx', hp, hvalid, htx, ho⟩ | ⟨p, -, -, ho⟩ | ⟨s, -, ho⟩ | ⟨e, -, -, ho⟩ |
      ⟨-, -, ho⟩ := h.cases hdeclared hending
    all_goals cases ho.symm.trans hok
    exact ⟨p, hp, hvalid, htx⟩
  · rintro ⟨p, hp, hvalid, htx⟩
    obtain ⟨tx', htx', ho⟩ := h.ofMatch p hp
    rw [ho, if_pos hvalid, ← htx', htx]

/-- A judged stream gives a validation error for a first match that is not valid, and for that
only. -/
theorem Judges.transactionValidationError_iff (h : Judges txId responses ending outcome)
    (hdeclared : ∀ resp ∈ responses, resp.Declared) (hending : ending ≠ .cancelled)
    (code : Int32) :
    outcome = .error (.transactionValidationError code) ↔
      ∃ p, FirstMatch txId responses p ∧ p.txValidationCode = code ∧ code ≠ VALID := by
  constructor
  · intro herror
    obtain ⟨p, tx', -, -, -, ho⟩ | ⟨p, hp, hvalid, ho⟩ | ⟨s, -, ho⟩ | ⟨e, -, -, ho⟩ |
      ⟨-, -, ho⟩ := h.cases hdeclared hending
    all_goals cases ho.symm.trans herror
    exact ⟨p, hp, rfl, hvalid⟩
  · rintro ⟨p, hp, rfl, hvalid⟩
    obtain ⟨tx, -, ho⟩ := h.ofMatch p hp
    rw [ho, if_neg hvalid]

/-- A judged stream gives a retrieval error for a first status, and for that only. -/
theorem Judges.blockRetrievalError_iff (h : Judges txId responses ending outcome)
    (hdeclared : ∀ resp ∈ responses, resp.Declared) (hending : ending ≠ .cancelled)
    (msg : String) (status : Option Int32) :
    outcome = .error (.blockRetrievalError msg status) ↔
      ∃ s, FirstStatus txId responses s ∧ status = some s ∧ msg = "Failed to retrieve block" := by
  constructor
  · intro herror
    obtain ⟨p, tx', -, -, -, ho⟩ | ⟨p, -, -, ho⟩ | ⟨s, hs, ho⟩ | ⟨e, -, -, ho⟩ | ⟨-, -, ho⟩ :=
      h.cases hdeclared hending
    all_goals cases ho.symm.trans herror
    exact ⟨s, hs, rfl, rfl⟩
  · rintro ⟨s, hs, rfl, rfl⟩
    exact h.ofStatus s hs

/-- A judged stream gives a connection error when it fails undecided, and then only. -/
theorem Judges.blockchainConnectionError_iff (h : Judges txId responses ending outcome)
    (hdeclared : ∀ resp ∈ responses, resp.Declared) (hending : ending ≠ .cancelled)
    (code : Int) (details : String) :
    outcome = .error (.blockchainConnectionError code details) ↔
      Undecided txId responses ∧ ending = .rpcError ⟨code, details⟩ := by
  constructor
  · intro herror
    obtain ⟨p, tx', -, -, -, ho⟩ | ⟨p, -, -, ho⟩ | ⟨s, -, ho⟩ | ⟨e, hu, hend, ho⟩ | ⟨-, -, ho⟩ :=
      h.cases hdeclared hending
    all_goals cases ho.symm.trans herror
    exact ⟨hu, hend⟩
  · rintro ⟨hu, hend⟩
    exact h.ofFailure _ hu hend

/-- A judged stream gives a runtime error when it closes undecided, and then only. -/
theorem Judges.runtimeError_iff (h : Judges txId responses ending outcome)
    (hdeclared : ∀ resp ∈ responses, resp.Declared) (hending : ending ≠ .cancelled)
    (msg : String) :
    outcome = .error (.runtimeError msg) ↔
      Undecided txId responses ∧ ending = .closed ∧ msg = "Could not get transaction" := by
  constructor
  · intro herror
    obtain ⟨p, tx', -, -, -, ho⟩ | ⟨p, -, -, ho⟩ | ⟨s, -, ho⟩ | ⟨e, -, -, ho⟩ | ⟨hu, hend, ho⟩ :=
      h.cases hdeclared hending
    all_goals cases ho.symm.trans herror
    exact ⟨hu, hend, rfl⟩
  · rintro ⟨hu, hend, rfl⟩
    exact h.ofClosed hu hend

end Outcomes

/-- **The exact outcome of a check.** For a declared stream and no timeout, the check returns the
first transaction with the id exactly when it comes before any status and is valid; it raises a
validation error with its code exactly when it comes first and is not valid; it raises a retrieval
error exactly for the first status, when the transaction does not come before it; and with neither,
it raises a connection error exactly when the stream fails, and a runtime error exactly when it
closes. -/
theorem checkTransaction_verdict {requestor : User} {channel : Option Channel} {peer : Peer}
    {txId : String} {timeout : Int} (htimeout : 0 < timeout) {start : Option Int}
    {behavior : SeekBehavior} {sends : List Request} {envelope : Envelope}
    (henvelope : (peerFilteredEvents requestor channel peer).getConnectionEnvelope rt behavior start
      (some INDEFINITE_STOP_POSITION) (network sends .entropy : Bytes × Timestamp).1
      (network sends .entropy : Bytes × Timestamp).2 = .ok envelope)
    {responses : List DeliverResponse} {ending : StreamEnd}
    (hstream : network (sends ++ [.entropy]) (.deliverFiltered peer envelope) =
      (⟨responses, ending⟩ : Stream DeliverResponse))
    (hdeclared : ∀ resp ∈ responses, resp.Declared) (hending : ending ≠ .cancelled) :
    let outcome := (Coro.observe network
      (checkTransaction rt requestor channel peer txId timeout start behavior) () sends).1
    (∀ tx, outcome = .ok tx ↔ ∃ p, FirstMatch txId responses p ∧ p.txValidationCode = VALID ∧
      FilteredTX.fromProto p = .ok tx) ∧
    (∀ code, outcome = .error (.transactionValidationError code) ↔
      ∃ p, FirstMatch txId responses p ∧ p.txValidationCode = code ∧ code ≠ VALID) ∧
    (∀ msg status, outcome = .error (.blockRetrievalError msg status) ↔
      ∃ s, FirstStatus txId responses s ∧ status = some s ∧ msg = "Failed to retrieve block") ∧
    (∀ code details, outcome = .error (.blockchainConnectionError code details) ↔
      Undecided txId responses ∧ ending = .rpcError ⟨code, details⟩) ∧
    ∀ msg, outcome = .error (.runtimeError msg) ↔
      Undecided txId responses ∧ ending = .closed ∧ msg = "Could not get transaction" := by
  intro outcome
  have hjudges : Judges txId responses ending outcome :=
    judges_checkTransaction rt network htimeout henvelope hstream hdeclared
  exact ⟨hjudges.ok_iff hdeclared hending, hjudges.transactionValidationError_iff hdeclared hending,
    hjudges.blockRetrievalError_iff hdeclared hending,
    hjudges.blockchainConnectionError_iff hdeclared hending,
    hjudges.runtimeError_iff hdeclared hending⟩

/-- A network whose peers stream some responses and close. -/
def respondingNetwork (responses : List DeliverResponse) : Network
  | _, .deliverFiltered _ _ => ⟨responses, .closed⟩
  | _, request => acceptingAnswer request

/-- A block without transactions, one with a valid transaction, and a status. -/
def responsesWithTx : List DeliverResponse := [
  .filteredBlock { number := 1 },
  .filteredBlock { number := 2, filteredTransactions := [{ txid := "tx", type := 3 }] },
  .status 503]

/-- The transaction is returned: the status comes after it. -/
theorem checkTransaction_verdict_valid :
    (Coro.observe (respondingNetwork responsesWithTx)
      (checkTransaction (wireRuntime id) keyedUser (some ⟨"channel"⟩) { endpoint := "peer:7051" } "tx"
        30 none .blockUntilReady) () []).1 =
      .ok { txId := "tx", type := .endorserTransaction, txValidationCode := 0 } := by
  have hdeclared : ∀ resp ∈ responsesWithTx, resp.Declared := by
    simp [responsesWithTx, DeliverResponse.Declared, TransactionType.ofValue?,
      declaredValidationCodes]
  have hmatch : FirstMatch "tx" responsesWithTx { txid := "tx", type := 3 } :=
    ⟨[.filteredBlock { number := 1 }], _, [.status 503], rfl, by
      simp [DeliverResponse.PassesOver, DeliverResponse.getStatus, DeliverResponse.getFilteredBlock,
        FilteredBlockProto.Holds], rfl⟩
  exact ((checkTransaction_verdict (wireRuntime id) (respondingNetwork responsesWithTx)
    (show (0 : Int) < 30 by decide)
    (show EventHub.getConnectionEnvelope (wireRuntime id)
      (peerFilteredEvents keyedUser (some ⟨"channel"⟩) { endpoint := "peer:7051" }) .blockUntilReady
      none (some INDEFINITE_STOP_POSITION)
      (respondingNetwork responsesWithTx [] .entropy : Bytes × Timestamp).1
      (respondingNetwork responsesWithTx [] .entropy : Bytes × Timestamp).2 = .ok _ from rfl)
    rfl hdeclared (by decide)).1 _).mpr ⟨_, hmatch, rfl, rfl⟩

end Snakeskin
