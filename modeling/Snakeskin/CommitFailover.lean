import Snakeskin.HubSearches

/-! # Failover of the commit wait

`wait_for_commit` asks the endorsing peers one after the other for the transaction. This file says
what the loop makes of the streams of all of them, with and without the check of the validation
code, and when a peer that would deliver the transaction is reached. -/

namespace Snakeskin

open Wire

variable (rt : Runtime) (network : Network)

/-! ## The streams of the peers -/

/-- The stream that a peer opens for a search, when the search has sent some requests before. -/
def openedStream (requestor : User) (channel : Option Channel) (sends : List Request) (peer : Peer) :
    Except Exc (Stream DeliverResponse) :=
  let drawn : Bytes × Timestamp := network sends .entropy
  match (peerFilteredEvents requestor channel peer).getConnectionEnvelope rt .blockUntilReady none
    (some INDEFINITE_STOP_POSITION) drawn.1 drawn.2 with
  | .error e => .error e
  | .ok envelope => .ok (network (sends ++ [.entropy]) (.deliverFiltered peer envelope))

/-- The requests sent once a peer has been asked. -/
def askPeer (requestor : User) (channel : Option Channel) (sends : List Request) (peer : Peer) :
    List Request :=
  let drawn : Bytes × Timestamp := network sends .entropy
  match (peerFilteredEvents requestor channel peer).getConnectionEnvelope rt .blockUntilReady none
    (some INDEFINITE_STOP_POSITION) drawn.1 drawn.2 with
  | .error _ => sends ++ [.entropy]
  | .ok envelope => sends ++ [.entropy] ++ [.deliverFiltered peer envelope]

/-- The streams of some peers, when each is asked in turn. -/
def openedStreams (requestor : User) (channel : Option Channel) :
    List Request → List Peer → List (Except Exc (Stream DeliverResponse))
  | _, [] => []
  | sends, peer :: peers =>
      openedStream rt network requestor channel sends peer ::
        openedStreams requestor channel (askPeer rt network requestor channel sends peer) peers

/-- The requests sent once some peers have been asked in turn. -/
def askPeers (requestor : User) (channel : Option Channel) (sends : List Request) (peers : List Peer) :
    List Request :=
  peers.foldl (askPeer rt network requestor channel) sends

/-- A stream delivers a transaction: the first with its id, before which no status comes, with a
valid code where that is checked. -/
def Delivers (raiseErrors : Bool) (txId : String) (stream : Stream DeliverResponse)
    (p : FilteredTXProto) : Prop :=
  FirstMatch txId stream.responses p ∧ (raiseErrors = true → p.txValidationCode = VALID)

/-- A stream closes without the transaction. -/
def ClosesWithout (txId : String) (stream : Stream DeliverResponse) : Prop :=
  Undecided txId stream.responses ∧ stream.ending = .closed

/-- The connection of a stream fails before the transaction comes. -/
def LosesConnection (txId : String) (stream : Stream DeliverResponse) : Prop :=
  Undecided txId stream.responses ∧ ∃ e, stream.ending = .rpcError e

/-- A status comes in a stream before the transaction. -/
def ReceivesStatus (txId : String) (stream : Stream DeliverResponse) : Prop :=
  ∃ s, FirstStatus txId stream.responses s

/-- The transaction is not received from an opened stream, in one of three ways. -/
def FailsToReceive (txId : String) (opened : Except Exc (Stream DeliverResponse)) : Prop :=
  ∃ stream, opened = .ok stream ∧
    (LosesConnection txId stream ∨ ReceivesStatus txId stream ∨ ClosesWithout txId stream)

/-- A stream is legible: in the blocks up to the first that holds the transaction, or to a status,
all header types are declared. -/
def Legible (txId : String) (stream : Stream DeliverResponse) : Prop :=
  firstUndeclared txId stream.responses = none

/-! ## What one peer comes to -/

/-- What waiting on a peer comes to, given the stream that it opens. -/
def waitVerdict (raiseErrors : Bool) (txId : String) (opened : Except Exc (Stream DeliverResponse)) :
    Except Exc FilteredTX :=
  match opened.bind fun stream => searchTransaction txId (streamFilteredBlocks stream) with
  | .error e => .error (if e = .cancelledError then .timeoutError else e)
  | .ok tx =>
      if raiseErrors = true ∧ tx.txValidationCode ≠ VALID then
        .error (mkTransactionValidationError tx.txValidationCode)
      else .ok tx

/-- A search is observed to ask the peer and to search the stream that it opens. -/
theorem observe_getTransaction_opened (requestor : User) (channel : Option Channel) (peer : Peer)
    (txId : String) (sends : List Request) :
    Coro.observe network (getTransaction rt requestor channel peer txId none .blockUntilReady) () sends =
      ((openedStream rt network requestor channel sends peer).bind fun stream =>
          searchTransaction txId (streamFilteredBlocks stream), (),
        askPeer rt network requestor channel sends peer) := by
  rw [observe_getTransaction, openedStream, askPeer]
  dsimp only
  cases (peerFilteredEvents requestor channel peer).getConnectionEnvelope rt .blockUntilReady none
    (some INDEFINITE_STOP_POSITION) _ _ with
  | error e => rfl
  | ok envelope => rfl

variable {L : Type} (builder : GatewayTXBuilder)

/-- Waiting on a peer with time to wait is observed to come to the verdict. -/
theorem observe_awaitTransaction {requestor : User}
    (hrequestor : builder.gateway.requestor = some requestor) (raiseErrors : Bool) {timeout : Int}
    (htimeout : 0 < timeout) (txId : String) (peer : Peer) (sends : List Request) :
    Coro.observe network (builder.awaitTransaction rt raiseErrors timeout txId peer) () sends =
      (waitVerdict raiseErrors txId
          (openedStream rt network requestor builder.gateway.channel sends peer), (),
        askPeer rt network requestor builder.gateway.channel sends peer) := by
  have hwait : Coro.observe network (waitFor (getTransaction rt requestor builder.gateway.channel peer
      txId none .blockUntilReady) timeout) () sends = _ := observe_waitFor network _ timeout sends
  rw [if_neg (by omega), observe_getTransaction_opened] at hwait
  unfold GatewayTXBuilder.awaitTransaction waitVerdict
  rw [hrequestor]
  generalize (openedStream rt network requestor builder.gateway.channel sends peer).bind _ = found
    at hwait ⊢
  cases raiseErrors with
  | true =>
      dsimp only
      rw [if_pos rfl, checkTransaction, Coro.bind_eq, Coro.observe_bind, hwait]
      cases found with
      | error e => rfl
      | ok tx =>
          dsimp only
          by_cases hvalid : tx.txValidationCode = VALID
          · rw [if_neg (not_not.mpr hvalid), if_neg fun h => h.2 hvalid]
            rfl
          · rw [if_pos hvalid, if_pos ⟨rfl, hvalid⟩]
            rfl
  | false =>
      dsimp only
      rw [if_neg Bool.false_ne_true, hwait]
      cases found with
      | error e => rfl
      | ok tx =>
          dsimp only
          rw [if_neg fun h => Bool.false_ne_true h.1]

section Verdicts

variable {raiseErrors : Bool} {txId : String} {stream : Stream DeliverResponse}

/-- What a stream comes to is what its search does, apart from a timeout. -/
theorem waitVerdict_of_search_error {e : Exc}
    (h : searchTransaction txId (streamFilteredBlocks stream) = .error e)
    (hcancelled : e ≠ .cancelledError) :
    waitVerdict raiseErrors txId (.ok stream) = .error e := by
  unfold waitVerdict Except.bind
  dsimp only
  rw [h]
  dsimp only
  rw [if_neg hcancelled]

/-- A stream that is not legible comes to the refusal of a type, which ends the loop. -/
theorem waitVerdict_of_not_legible (h : ¬ Legible txId stream) :
    ∃ e, waitVerdict raiseErrors txId (.ok stream) = .error e ∧ e.isStreamFailure = false := by
  obtain ⟨n, hn⟩ := Option.ne_none_iff_exists'.mp h
  exact ⟨_, waitVerdict_of_search_error (search_of_undeclared hn stream.ending) nofun, rfl⟩

/-- A legible stream that delivers a transaction comes to that transaction. -/
theorem waitVerdict_of_delivers (hlegible : Legible txId stream) {p : FilteredTXProto}
    (h : Delivers raiseErrors txId stream p) :
    ∃ tx, FilteredTX.fromProto p = .ok tx ∧ waitVerdict raiseErrors txId (.ok stream) = .ok tx := by
  obtain ⟨hmatch, hvalid⟩ := h
  obtain ⟨tx, htx, hsearch⟩ := (search_returns_iff hmatch stream.ending).mpr hlegible
  refine ⟨tx, htx, ?_⟩
  rw [← FilteredTX.txValidationCode_of_fromProto htx] at hvalid
  unfold waitVerdict Except.bind
  dsimp only
  rw [hsearch]
  exact if_neg fun h => h.2 (hvalid h.1)

/-- A legible stream that closes without the transaction comes to an error that ends the loop. -/
theorem waitVerdict_of_closes (hlegible : Legible txId stream) (h : ClosesWithout txId stream) :
    waitVerdict raiseErrors txId (.ok stream) =
      .error (.runtimeError "Could not get transaction") := by
  obtain ⟨responses, _⟩ := stream
  obtain ⟨hundecided, rfl⟩ := h
  exact waitVerdict_of_search_error (search_of_undecided hlegible hundecided .closed) nofun

/-- A legible stream that fails otherwise comes to an error that the loop catches. -/
theorem waitVerdict_of_fails (hlegible : Legible txId stream)
    (h : LosesConnection txId stream ∨ ReceivesStatus txId stream) :
    ∃ e, waitVerdict raiseErrors txId (.ok stream) = .error e ∧ e.isStreamFailure = true := by
  obtain ⟨responses, ending⟩ := stream
  obtain ⟨hundecided, e, rfl⟩ | ⟨s, hs⟩ := h
  · have hsearch := search_of_undecided hlegible hundecided (.rpcError e)
    exact ⟨e.toExc, waitVerdict_of_search_error hsearch nofun, rfl⟩
  · exact ⟨_, waitVerdict_of_search_error (search_of_firstStatus hlegible hs ending) nofun, rfl⟩

/-- A stream that fails to receive the transaction comes to an error. -/
theorem waitVerdict_of_failsToReceive {opened : Except Exc (Stream DeliverResponse)}
    (h : FailsToReceive txId opened) : ∃ e, waitVerdict raiseErrors txId opened = .error e := by
  obtain ⟨stream, rfl, hfails⟩ := h
  by_cases hlegible : Legible txId stream
  · obtain hlost | hstatus | hcloses := hfails
    · exact (waitVerdict_of_fails hlegible (.inl hlost)).imp fun _ => And.left
    · exact (waitVerdict_of_fails hlegible (.inr hstatus)).imp fun _ => And.left
    · exact ⟨_, waitVerdict_of_closes hlegible hcloses⟩
  · exact (waitVerdict_of_not_legible hlegible).imp fun _ => And.left

end Verdicts

/-! ## What the loop comes to -/

section Loop

variable {requestor : User} {s : BuilderState L} {endorsedTx : EndorsedTX} {timeout : Int}
  (raiseErrors : Bool)

/-- One round of the loop: the peer is asked, and its verdict is stored, handed on to the next
round, or raised. -/
theorem observe_waitLoop_cons (hrequestor : builder.gateway.requestor = some requestor)
    (hendorsed : s.endorsedTx = some endorsedTx) (htimeout : 0 < timeout) (error : Exc) (peer : Peer)
    (peers : List Peer) (sends : List Request) :
    let asked := askPeer rt network requestor builder.gateway.channel sends peer
    Coro.observe network (builder.waitLoop rt raiseErrors timeout error (peer :: peers)) s sends =
      match waitVerdict raiseErrors endorsedTx.txId
        (openedStream rt network requestor builder.gateway.channel sends peer) with
      | .ok tx => (.ok (), { s with filteredTx := some tx }, asked)
      | .error e =>
          if e.isStreamFailure then
            Coro.observe network (builder.waitLoop rt raiseErrors timeout e peers) s asked
          else (.error e, s, asked) := by
  intro asked
  simp only [GatewayTXBuilder.waitLoop, GatewayTXBuilder.waitOnPeer, Coro.observe_tryCatch,
    Coro.bind_eq, Coro.observe_bind, Coro.observe_read, hendorsed, Coro.observe_lift,
    observe_awaitTransaction rt network builder hrequestor raiseErrors htimeout]
  cases waitVerdict raiseErrors endorsedTx.txId
    (openedStream rt network requestor builder.gateway.channel sends peer) with
  | ok tx =>
      simp only [Coro.observe_modify, hendorsed]
      rfl
  | error e =>
      dsimp only
      by_cases he : e.isStreamFailure = true
      · rw [if_pos he, if_pos he]
      · rw [if_neg he, if_neg he]
        rfl

/-- The loop reaches a peer that comes to a transaction when the errors of the peers before it are
all caught, and asks nobody after it; by induction on the peers. -/
theorem observe_waitLoop_reaches (hrequestor : builder.gateway.requestor = some requestor)
    (hendorsed : s.endorsedTx = some endorsedTx) (htimeout : 0 < timeout) (error : Exc)
    (peers : List Peer) (sends : List Request) {before after : List (Except Exc (Stream DeliverResponse))}
    {opened : Except Exc (Stream DeliverResponse)} {tx : FilteredTX}
    (hstreams : openedStreams rt network requestor builder.gateway.channel sends peers =
      before ++ opened :: after)
    (hbefore : ∀ x ∈ before, ∃ e, waitVerdict raiseErrors endorsedTx.txId x = .error e ∧
      e.isStreamFailure = true)
    (hopened : waitVerdict raiseErrors endorsedTx.txId opened = .ok tx) :
    Coro.observe network (builder.waitLoop rt raiseErrors timeout error peers) s sends =
      (.ok (), { s with filteredTx := some tx },
        askPeers rt network requestor builder.gateway.channel sends (peers.take (before.length + 1))) := by
  induction peers generalizing error sends before with
  | nil => exact absurd hstreams (by simp [openedStreams])
  | cons peer peers ih =>
      rw [observe_waitLoop_cons rt network builder raiseErrors hrequestor hendorsed htimeout]
      cases before with
      | nil =>
          obtain ⟨hfirst, -⟩ := List.cons_eq_cons.mp hstreams
          rw [hfirst, hopened]
          rfl
      | cons first before =>
          obtain ⟨hfirst, hrest⟩ := List.cons_eq_cons.mp hstreams
          obtain ⟨e, he, hfailure⟩ := hbefore first List.mem_cons_self
          rw [hfirst, he]
          dsimp only
          rw [if_pos hfailure]
          exact ih e _ hrest fun x hx => hbefore x (List.mem_cons_of_mem _ hx)

/-- The loop raises when some peers in a row come to errors, and they are all there are or one of
the errors is not caught; by induction on the peers. -/
theorem observe_waitLoop_raises (hrequestor : builder.gateway.requestor = some requestor)
    (hendorsed : s.endorsedTx = some endorsedTx) (htimeout : 0 < timeout) (error : Exc)
    (peers : List Peer) (sends : List Request) {before after : List (Except Exc (Stream DeliverResponse))}
    (hstreams : openedStreams rt network requestor builder.gateway.channel sends peers = before ++ after)
    (hbefore : ∀ x ∈ before, ∃ e, waitVerdict raiseErrors endorsedTx.txId x = .error e)
    (hstops : after = [] ∨ ∃ x ∈ before, ∃ e, waitVerdict raiseErrors endorsedTx.txId x = .error e ∧
      e.isStreamFailure = false) :
    ∃ e sends', Coro.observe network (builder.waitLoop rt raiseErrors timeout error peers) s sends =
      (.error e, s, sends') := by
  induction peers generalizing error sends before with
  | nil => exact ⟨error, sends, rfl⟩
  | cons peer peers ih =>
      rw [observe_waitLoop_cons rt network builder raiseErrors hrequestor hendorsed htimeout]
      cases before with
      | nil =>
          -- No peer has come to an error, so there would be no peer at all.
          obtain rfl | ⟨x, hx, -⟩ := hstops
          · cases hstreams
          · cases hx
      | cons first before =>
          obtain ⟨hfirst, hrest⟩ := List.cons_eq_cons.mp hstreams
          obtain ⟨e, he⟩ := hbefore first List.mem_cons_self
          rw [hfirst, he]
          dsimp only
          by_cases hfailure : e.isStreamFailure = true
          · rw [if_pos hfailure]
            refine ih e _ hrest (fun x hx => hbefore x (List.mem_cons_of_mem _ hx)) ?_
            refine hstops.imp_right ?_
            rintro ⟨x, hx, e', he', hfailure'⟩
            obtain rfl | hx := List.mem_cons.mp hx
            · rw [he] at he'
              cases he'
              rw [hfailure] at hfailure'
              cases hfailure'
            · exact ⟨x, hx, e', he', hfailure'⟩
          · rw [if_neg hfailure]
            exact ⟨e, _, rfl⟩

end Loop

/-! ## Failing over to a peer that has the transaction -/

/-- What a caller expects of waiting for a commit, given the streams of the peers: where all peers
before one that delivers the transaction fail to receive it, the transaction of that peer is stored
and no later peer is asked; and where all peers fail to receive it, waiting raises and stores
nothing. -/
def FailsOver (requestor : User) (channel : Option Channel) (raiseErrors : Bool) (txId : String)
    (peers : List Peer) (s : BuilderState L) (sends : List Request)
    (outcome : Except Exc Unit × BuilderState L × List Request) : Prop :=
  let streams := openedStreams rt network requestor channel sends peers
  (∀ before stream after p, streams = before ++ .ok stream :: after →
    (∀ opened ∈ before, FailsToReceive txId opened) → Delivers raiseErrors txId stream p →
    ∃ tx, FilteredTX.fromProto p = .ok tx ∧
      outcome = (.ok (), { s with filteredTx := some tx },
        askPeers rt network requestor channel sends (peers.take (before.length + 1)))) ∧
  ((∀ opened ∈ streams, FailsToReceive txId opened) →
    (∃ e, outcome.1 = .error e) ∧ outcome.2.1.filteredTx = s.filteredTx)

/-- **When the commit wait fails over.** Of a builder whose transaction was submitted, waiting with
time to wait is as expected exactly when, for every peer that delivers the transaction and before
which all peers fail to receive it, none of these closes its stream without it, and their streams
and its own are legible. -/
theorem failsOver_iff {requestor : User} (hrequestor : builder.gateway.requestor = some requestor)
    {s : BuilderState L} (hcommitted : s.committed = true) {endorsedTx : EndorsedTX}
    (hendorsed : s.endorsedTx = some endorsedTx) (raiseErrors : Bool) {timeout : Int}
    (htimeout : 0 < timeout) (sends : List Request) :
    let peers := builder.gateway.endorsingPeers
    let channel := builder.gateway.channel
    FailsOver rt network requestor channel raiseErrors endorsedTx.txId peers s sends
        (Coro.observe network (builder.waitForCommit rt raiseErrors timeout) s sends) ↔
      ∀ before stream after p,
        openedStreams rt network requestor channel sends peers = before ++ .ok stream :: after →
        (∀ opened ∈ before, FailsToReceive endorsedTx.txId opened) →
        Delivers raiseErrors endorsedTx.txId stream p →
        (∀ earlier, .ok earlier ∈ before → ¬ ClosesWithout endorsedTx.txId earlier ∧
          Legible endorsedTx.txId earlier) ∧ Legible endorsedTx.txId stream := by
  intro peers channel
  have hwait : Coro.observe network (builder.waitForCommit rt raiseErrors timeout) s sends =
      Coro.observe network (builder.waitLoop rt raiseErrors timeout
        (.blockchainError "Failed waiting for committed transaction") peers) s sends := by
    rw [GatewayTXBuilder.waitForCommit, Coro.bind_eq, Coro.observe_bind, Coro.observe_read]
    dsimp only
    rw [if_pos hcommitted]
  rw [hwait]
  -- Streams in a row that come to errors, the last of them or one before it to one that is not caught.
  have hraises := fun {before after} => @observe_waitLoop_raises rt network _ builder requestor s
    endorsedTx timeout raiseErrors hrequestor hendorsed htimeout
    (.blockchainError "Failed waiting for committed transaction") peers sends before after
  constructor
  · rintro ⟨hdelivered, -⟩ before stream after p hstreams hbefore hdelivers
    obtain ⟨tx, -, houtcome⟩ := hdelivered before stream after p hstreams hbefore hdelivers
    have herrors : ∀ x ∈ before, ∃ e, waitVerdict raiseErrors endorsedTx.txId x = .error e :=
      fun x hx => waitVerdict_of_failsToReceive (hbefore x hx)
    have hnot : ∀ x ∈ before, ¬ ∃ e, waitVerdict raiseErrors endorsedTx.txId x = .error e ∧
        e.isStreamFailure = false := by
      intro x hx hstops
      obtain ⟨e, sends', hraised⟩ := hraises hstreams herrors (.inr ⟨x, hx, hstops⟩)
      rw [hraised] at houtcome
      cases houtcome
    have hlegible : ∀ earlier, .ok earlier ∈ before → Legible endorsedTx.txId earlier :=
      fun earlier hmem => by_contra fun h => hnot _ hmem (waitVerdict_of_not_legible h)
    refine ⟨fun earlier hmem => ⟨fun hcloses => ?_, hlegible earlier hmem⟩, by_contra fun h => ?_⟩
    · exact hnot _ hmem ⟨_, waitVerdict_of_closes (hlegible earlier hmem) hcloses, rfl⟩
    · -- The delivering stream itself ends the loop.
      obtain ⟨e, he, hfailure⟩ := @waitVerdict_of_not_legible raiseErrors _ _ h
      obtain ⟨e', sends', hraised⟩ := @hraises (before ++ [.ok stream]) after
        (by rw [hstreams, List.append_assoc]; rfl)
        (List.forall_mem_append.mpr ⟨herrors, List.forall_mem_singleton.mpr ⟨e, he⟩⟩)
        (.inr ⟨.ok stream, List.mem_append_right _ (List.mem_singleton_self _), e, he, hfailure⟩)
      rw [hraised] at houtcome
      cases houtcome
  · intro hcondition
    refine ⟨fun before stream after p hstreams hbefore hdelivers => ?_, fun hall => ?_⟩
    · obtain ⟨hearlier, hlegible⟩ := hcondition before stream after p hstreams hbefore hdelivers
      obtain ⟨tx, htx, hverdict⟩ := waitVerdict_of_delivers hlegible hdelivers
      refine ⟨tx, htx, observe_waitLoop_reaches rt network builder raiseErrors hrequestor hendorsed
        htimeout _ peers sends hstreams (fun x hx => ?_) hverdict⟩
      obtain ⟨failing, rfl, hfails⟩ := hbefore x hx
      obtain ⟨hopen, hreadable⟩ := hearlier failing hx
      obtain hlost | hstatus | hcloses := hfails
      · exact waitVerdict_of_fails hreadable (.inl hlost)
      · exact waitVerdict_of_fails hreadable (.inr hstatus)
      · exact absurd hcloses hopen
    · obtain ⟨e, sends', hraised⟩ := hraises (List.append_nil _).symm
        (fun x hx => waitVerdict_of_failsToReceive (hall x hx)) (.inl rfl)
      rw [hraised]
      exact ⟨⟨e, rfl⟩, rfl⟩

/-! ## A stream that closes -/

/-- A peer that has the transaction. -/
def readyPeer : Peer := { endpoint := "ready:7051" }

/-- A peer that closes its streams at once. -/
def closingPeer : Peer := { endpoint := "closing:7051" }

/-- A peer that cannot be reached. -/
def downPeer : Peer := { endpoint := "down:7051" }

/-- The stream of each of these peers. -/
def waitingStream (tx : GeneratedTX) (peer : Peer) : Stream DeliverResponse :=
  if peer = readyPeer then ⟨[.filteredBlock (blockOf tx)], .closed⟩
  else if peer = closingPeer then ⟨[], .closed⟩
  else ⟨[], .rpcError ⟨14, "unavailable"⟩⟩

/-- A network with these peers. -/
def waitingNetwork (tx : GeneratedTX) : Network
  | _, .deliverFiltered peer _ => waitingStream tx peer
  | _, request => acceptingAnswer request

/-- The state of a builder that has submitted its transaction. -/
def submittedState (tx : GeneratedTX) : BuilderState (List Operation) where
  endorsedTx := some ⟨[], tx.proposal, tx.header, tx.txContext⟩
  committed := true

/-- Waiting for a transaction on two peers. -/
def waitOn (tx : GeneratedTX) (peers : List Peer) :
    Except Exc Unit × BuilderState (List Operation) × List Request :=
  Coro.observe (waitingNetwork tx) (GatewayTXBuilder.waitForCommit (wireRuntime id)
    ⟨{ keyedGateway with endorsingPeers := peers }, tx⟩ true 30) (submittedState tx) []

/-- The ready peer delivers the transaction. -/
theorem delivers_readyPeer (tx : GeneratedTX) (raiseErrors : Bool) :
    Delivers raiseErrors tx.txId (waitingStream tx readyPeer) { txid := tx.txId, type := 3 } :=
  ⟨⟨[], blockOf tx, [], rfl, List.forall_mem_nil _, by simp [blockOf]⟩, fun _ => rfl⟩

/-- The first peer closes its stream without the transaction and the second would deliver it:
waiting raises, and the second is not asked. -/
theorem closed_stream_not_failed_over :
    ∃ tx, buildGeneratedTx (wireRuntime id) keyedUser "cc" [[1]] (some ⟨"channel"⟩) none [9] {} =
        .ok tx ∧
      let peers := [closingPeer, readyPeer]
      openedStreams (wireRuntime id) (waitingNetwork tx) keyedUser (some ⟨"channel"⟩) [] peers =
        [.ok ⟨[], .closed⟩, .ok (waitingStream tx readyPeer)] ∧
      (waitOn tx peers).1 = .error (.runtimeError "Could not get transaction") ∧
      (waitOn tx peers).2.1.filteredTx = none ∧
      ¬ FailsOver (wireRuntime id) (waitingNetwork tx) keyedUser (some ⟨"channel"⟩) true tx.txId peers
        (submittedState tx) [] (waitOn tx peers) := by
  refine ⟨_, rfl, ?_⟩
  generalize htx : GeneratedTX.mk _ _ _ _ = tx
  intro peers
  have hstreams : openedStreams (wireRuntime id) (waitingNetwork tx) keyedUser (some ⟨"channel"⟩) []
      peers = [.ok ⟨[], .closed⟩, .ok (waitingStream tx readyPeer)] := by
    subst htx
    rfl
  have hraises : (waitOn tx peers).1 = .error (.runtimeError "Could not get transaction") := by
    subst htx
    decide +kernel
  refine ⟨hstreams, hraises, by subst htx; decide +kernel, fun hfails => ?_⟩
  have hcloses : ∀ opened ∈ [.ok ⟨[], .closed⟩], FailsToReceive tx.txId opened :=
    List.forall_mem_singleton.mpr ⟨_, rfl, .inr (.inr ⟨List.forall_mem_nil _, rfl⟩)⟩
  obtain ⟨_, -, houtcome⟩ := hfails.1 _ _ [] _ hstreams hcloses (delivers_readyPeer tx true)
  rw [houtcome] at hraises
  cases hraises

/-- The first peer cannot be reached and the second delivers the transaction, which is stored. -/
theorem failsOver_iff_down :
    ∃ tx, buildGeneratedTx (wireRuntime id) keyedUser "cc" [[1]] (some ⟨"channel"⟩) none [9] {} =
        .ok tx ∧
      FailsOver (wireRuntime id) (waitingNetwork tx) keyedUser (some ⟨"channel"⟩) true tx.txId
        [downPeer, readyPeer] (submittedState tx) [] (waitOn tx [downPeer, readyPeer]) := by
  refine ⟨_, rfl, ?_⟩
  generalize htx : GeneratedTX.mk _ _ _ _ = tx
  refine (failsOver_iff (wireRuntime id) (waitingNetwork tx)
    ⟨{ keyedGateway with endorsingPeers := [downPeer, readyPeer] }, tx⟩
    (show keyedGateway.requestor = some keyedUser from rfl)
    (s := submittedState tx) rfl rfl true (show (0 : Int) < 30 by decide) []).mpr ?_
  intro before stream after p hstreams hbefore hdelivers
  have hopened : openedStreams (wireRuntime id) (waitingNetwork tx) keyedUser (some ⟨"channel"⟩) []
      [downPeer, readyPeer] =
        [.ok ⟨[], .rpcError ⟨14, "unavailable"⟩⟩, .ok (waitingStream tx readyPeer)] := by
    subst htx
    rfl
  -- Both streams are legible, and neither of them closes without the transaction.
  have hstream : ∀ opened ∈ before ++ .ok stream :: after, ∀ waiting, opened = .ok waiting →
      ¬ ClosesWithout tx.txId waiting ∧ Legible tx.txId waiting := by
    rw [hstreams.symm.trans hopened]
    rintro opened hmem waiting rfl
    obtain hfirst | hmem := List.mem_cons.mp hmem
    · cases hfirst
      exact ⟨fun hcloses => (nomatch hcloses.2), rfl⟩
    · cases List.mem_singleton.mp hmem
      have hholds : (blockOf tx).Holds tx.txId := ⟨_, List.mem_cons_self, rfl⟩
      exact ⟨fun hcloses => (hcloses.1 _ List.mem_cons_self).2 hholds,
        firstUndeclared_cons_holds [] rfl rfl hholds⟩
  exact ⟨fun earlier hmem => hstream _ (List.mem_append_left _ hmem) _ rfl,
    (hstream _ (List.mem_append_right _ List.mem_cons_self) _ rfl).2⟩

end Snakeskin
