import Snakeskin.BuilderInvariant
import Snakeskin.HighLevelPaths
import Snakeskin.BuiltMessages
import Snakeskin.FilteredSearches

/-! # Waiting for a commit

`wait_for_commit` opens the filtered stream of a peer after `submit` has returned, and asks for the
newest block and those after it. Meanwhile the peer appends blocks to its ledger. This file puts a
shared builder beside the ledger of a peer, and says exactly in which of their interleavings the
stream misses a block that holds the transaction. -/

namespace Snakeskin

open Wire

variable (rt : Runtime) (builder : GatewayTXBuilder)

/-! ## The Deliver service -/

/-- The blocks that a stream opened with a seek request delivers: those before it was opened are
given, and those that were appended since. -/
abbrev DeliverService := SeekInfo → (before after : List FilteredBlockProto) → List FilteredBlockProto

/-- A stream from the newest block without end delivers the block that is last when it is opened,
and then every later block, once each and in order. -/
def DeliverService.SeeksNewest (deliver : DeliverService) : Prop :=
  ∀ info before after, info.start = some .newest →
    info.stop = some (.specified ⟨UInt64.ofNat INDEFINITE_STOP_POSITION.toNat⟩) →
    info.behavior = SeekInfo.BLOCK_UNTIL_READY →
    deliver info before after = before.getLast?.toList ++ after

/-- The seek request in an envelope. -/
def Envelope.seekInfo (envelope : Envelope) : Option SeekInfo := do
  let payload ← rt.fromString Payload envelope.payload
  rt.fromString SeekInfo payload.data

/-- The blocks that a stream delivers, given the height of the ledger when it was opened. A request
that is none is not served. -/
def DeliverService.delivered (deliver : DeliverService) (envelope : Envelope)
    (ledger : List FilteredBlockProto) (height : Nat) : List FilteredBlockProto :=
  match envelope.seekInfo rt with
  | some info => deliver info (ledger.take height) (ledger.drop height)
  | none => []

variable {rt}

/-- The envelope that opens a stream carries the seek request it was built for. -/
theorem seekInfo_of_getConnectionEnvelope (hrt : rt.RoundTrip) {hub : EventHub}
    {behavior : SeekBehavior} {start stop : Option Int} {nonce : Bytes} {timestamp : Timestamp}
    {envelope : Envelope}
    (h : hub.getConnectionEnvelope rt behavior start stop nonce timestamp = .ok envelope) :
    ∃ info, buildSeekInfo start stop behavior = .ok info ∧ envelope.seekInfo rt = some info := by
  obtain ⟨info, hinfo, h⟩ := bind_eq_ok.mp h
  obtain ⟨header, -, rfl⟩ := buildEnvelope_cases h
  refine ⟨info, hinfo, ?_⟩
  show (rt.fromString Payload (rt.serializeToString _) >>= fun payload =>
    rt.fromString SeekInfo payload.data) = some info
  rw [hrt]
  exact hrt info

/-- **A stream of the wait operation delivers from the newest block on**: the block below the height
at which it was opened, and those from there. -/
theorem delivered_of_ofWait (hrt : rt.RoundTrip) {deliver : DeliverService}
    (hdeliver : deliver.SeeksNewest) {peer : Peer} {envelope : Envelope}
    (hopened : Event.OfWait rt (.inl (.deliverFiltered peer envelope)))
    {ledger : List FilteredBlockProto} {height : Nat} (hheight : height ≤ ledger.length) :
    deliver.delivered rt envelope ledger height = ledger.drop (height - 1) := by
  obtain ⟨requestor, channel, peer', nonce, timestamp, envelope', heq, henvelope⟩ :=
    hopened.resolve_left id
  cases heq
  obtain ⟨info, hinfo, hseek⟩ := seekInfo_of_getConnectionEnvelope hrt henvelope
  cases hinfo
  unfold DeliverService.delivered
  rw [hseek]
  dsimp only
  rw [hdeliver _ _ _ rfl rfl rfl]
  -- Below the height stands the newest block at that time, if there was one.
  rcases height with _ | last
  · rfl
  · have hlast : last < ledger.length := hheight
    rw [List.take_add_one, List.getElem?_eq_getElem hlast, Option.toList_some, List.getLast?_concat,
      Option.toList_some, List.singleton_append, Nat.add_sub_cancel]
    exact (List.drop_eq_getElem_cons hlast).symm

variable (rt)

/-! ## The race -/

/-- A shared builder beside the ledger of a peer. -/
structure CommitRace where
  /-- The blocks of the peer, oldest first. -/
  ledger : List FilteredBlockProto
  builder : SharedBuilder
  /-- The height of the ledger when the submission began, once it has. -/
  submitBegan : Option Nat
  /-- The height of the ledger when the stream that a task waits for was opened. -/
  opened : Nat → Option Nat

namespace CommitRace

/-- A new builder beside a ledger. -/
def new (ledger : List FilteredBlockProto) : CommitRace := ⟨ledger, .new, none, fun _ => none⟩

/-- The envelope with which a task waits for a stream of the peer. -/
def awaitedStream (peer : Peer) (s : CommitRace) (task : Nat) : Option Envelope :=
  match s.builder.tasks task with
  | some (.suspended frame) =>
      match frame.request with
      -- Streams of other peers are answered as any other request is.
      | .deliverFiltered peer' envelope => if peer' = peer then some envelope else none
      | _ => none
  | _ => none

/-- What may happen next. -/
inductive Label where
  /-- The peer appends a block, of this client or of others. -/
  | append (block : FilteredBlockProto)
  /-- The peer receives the request of a task and opens its stream. -/
  | openStream (task : Nat)
  /-- The stream of a task ends after a number of the blocks that it has to deliver, possibly with a
  failure status. -/
  | endStream (task : Nat) (count : Nat) (failure : Option Int32) (ending : StreamEnd)
  /-- A step of the builder that is not the answer of a stream of the peer: queueing, a task
  starting or being cancelled, the orderer's acknowledgement and other answers. -/
  | act (label : SharedBuilder.Label)

/-- The event is a call of `commit_tx`. -/
def callsCommitTx : Event → Bool
  | .inr (.commitTxCalled _) => true
  | _ => false

/-- A step of the builder; the submission begins with the first call of `commit_tx`. -/
def act (s : CommitRace) (label : SharedBuilder.Label) : CommitRace :=
  let builder' := s.builder.step rt builder label
  { s with
    builder := builder'
    submitBegan := s.submitBegan <|>
      -- The first alternative keeps the height that was noted at an earlier step.
      if builder'.world.trace.any callsCommitTx then some s.ledger.length else none }

/-- The answer of a stream, to whoever waits for one. -/
def streamAnswer (stream : Stream DeliverResponse) : (request : Request) → Answer request
  | .entropy => ([], {})
  | .processProposals _ _ => ⟨fun _ => .error ⟨0, ""⟩, fun _ => 0⟩
  | .broadcast _ _ => ⟨[], .closed⟩
  | .deliverFiltered _ _ => stream
  | .deliver _ _ => ⟨[], .closed⟩

variable (deliver : DeliverService) (peer : Peer)

/-- One step. -/
def step (s : CommitRace) : Label → CommitRace
  | .append block => { s with ledger := s.ledger ++ [block] }
  | .openStream task =>
      match s.awaitedStream peer task, s.opened task with
      -- Opened once: the height at which it was opened stays until the stream ends.
      | some _, none => { s with opened := Function.update s.opened task (some s.ledger.length) }
      | _, _ => s
  | .endStream task count failure ending =>
      match s.awaitedStream peer task, s.opened task with
      | some envelope, some height =>
          let blocks := (deliver.delivered rt envelope s.ledger height).take count
          let stream : Stream DeliverResponse :=
            ⟨blocks.map .filteredBlock ++ failure.toList.map .status, ending⟩
          act rt builder { s with opened := Function.update s.opened task none }
            (.resume task (streamAnswer stream))
      | _, _ => s
  | .act (.resume task answer) =>
      match s.awaitedStream peer task with
      -- A stream of the peer ends as the ledger says, through `endStream` only.
      | some _ => s
      | none => s.act rt builder (.resume task answer)
  | .act label => s.act rt builder label

/-- A sequence of steps. -/
def run (s : CommitRace) (labels : List Label) : CommitRace :=
  labels.foldl (step rt builder deliver peer) s

/-- The blocks appended since the submission began. -/
def sinceSubmit (s : CommitRace) : List FilteredBlockProto :=
  match s.submitBegan with
  | some start => s.ledger.drop start
  | none => []

/-- The transaction was overtaken when a stream was opened at a height: a block appended since the
submission began holds it and had been followed by another by then, and neither that other block nor
a later one holds it. -/
def Overtaken (s : CommitRace) (height : Nat) : Prop :=
  (∃ start, s.submitBegan = some start ∧
    ∃ block ∈ (s.ledger.take (height - 1)).drop start, block.Holds builder.transaction.txId) ∧
  ∀ block ∈ s.ledger.drop (height - 1), ¬ block.Holds builder.transaction.txId

/-- The transaction is obscured in a stream that is opened at a height: a block appended since the
submission began holds it, and a search of the blocks from the newest one on comes upon a header
type that is not declared, in the first block that holds the transaction or in one before it. -/
def Obscured (s : CommitRace) (height : Nat) : Prop :=
  (∃ block ∈ s.sinceSubmit, block.Holds builder.transaction.txId) ∧
  firstUndeclared builder.transaction.txId
    ((s.ledger.drop (height - 1)).map .filteredBlock) ≠ none

/-! ## What holds in every interleaving -/

/-- The invariant of a race: the builder is in order, and streams were opened at heights that the
ledger has reached. -/
structure Inv (s : CommitRace) : Prop where
  governed : s.builder.Governed (builderDiscipline rt builder)
  heights : ∀ task height, s.opened task = some height → height ≤ s.ledger.length

variable {rt builder deliver peer}

/-- A step of the builder keeps the invariant. -/
theorem Inv.act {s : CommitRace} (h : s.Inv rt builder) (label : SharedBuilder.Label) :
    (s.act rt builder label).Inv rt builder :=
  ⟨(h.governed.step (governs_builderDiscipline rt builder) label).1, h.heights⟩

/-- Setting what is known of the stream of one task. -/
theorem Inv.setOpened {s : CommitRace} (h : s.Inv rt builder) (task : Nat) {height : Option Nat}
    (hheight : ∀ n, height = some n → n ≤ s.ledger.length) :
    Inv rt builder { s with opened := Function.update s.opened task height } := by
  refine ⟨h.governed, fun task' n hn => ?_⟩
  change Function.update s.opened task height task' = some n at hn
  by_cases heq : task' = task
  · rw [heq, Function.update_self] at hn
    exact hheight n hn
  · rw [Function.update_of_ne heq] at hn
    exact h.heights task' n hn

/-- **Every step keeps the invariant.** -/
theorem Inv.step {s : CommitRace} (h : s.Inv rt builder) (label : Label) :
    (s.step rt builder deliver peer label).Inv rt builder := by
  cases label with
  | append block =>
      refine ⟨h.governed, fun task height hheight => ?_⟩
      have hle := h.heights task height hheight
      show height ≤ (s.ledger ++ [block]).length
      rw [List.length_append]
      omega
  | openStream task =>
      unfold CommitRace.step
      dsimp only
      split
      · refine h.setOpened task ?_
        rintro n ⟨⟩
        exact Nat.le_refl _
      · exact h
  | endStream task count failure ending =>
      unfold CommitRace.step
      dsimp only
      split
      · have hclosed : Inv rt builder { s with opened := Function.update s.opened task none } :=
          h.setOpened task fun _ hn => (by cases hn)
        exact hclosed.act _
      · exact h
  | act label =>
      cases label with
      | resume task answer =>
          unfold CommitRace.step
          dsimp only
          split
          · exact h
          · exact h.act _
      | queue kind => exact h.act _
      | start => exact h.act _
      | cancel task => exact h.act _

/-- Every interleaving keeps it, by induction on the steps. -/
theorem Inv.run {s : CommitRace} (h : s.Inv rt builder) (labels : List Label) :
    (s.run rt builder deliver peer labels).Inv rt builder := by
  induction labels generalizing s with
  | nil => exact h
  | cons label labels ih => exact ih (h.step label)

variable (rt builder) in
/-- It holds of a new builder beside any ledger. -/
theorem inv_new (ledger : List FilteredBlockProto) : (new ledger).Inv rt builder :=
  ⟨SharedBuilder.governed_new (builderInv_new rt builder), fun _ _ h => nomatch h⟩

/-- A task waits for a stream that the wait operation opened. -/
theorem Inv.ofWait {s : CommitRace} (h : s.Inv rt builder) {task : Nat} {envelope : Envelope}
    (htask : s.awaitedStream peer task = some envelope) :
    Event.OfWait rt (.inl (.deliverFiltered peer envelope)) := by
  unfold awaitedStream at htask
  split at htask
  · rename_i frame hframe
    split at htask
    · rename_i peer' envelope' hrequest
      by_cases hpeer : peer' = peer
      · rw [if_pos hpeer] at htask
        cases htask
        -- A suspended task has made the request that it waits for.
        have hmem := (h.governed.frames task frame hframe).1
        rw [hrequest, hpeer] at hmem
        have hworld : BuilderInv rt builder s.builder.world := h.governed.world
        exact hworld.opened _ hmem trivial
      · rw [if_neg hpeer] at htask
        cases htask
    · cases htask
  · cases htask

/-- **When a stream misses the transaction**: the blocks from the one below the height on hold none
although one was appended since the submission began, exactly when the transaction was overtaken. -/
theorem missed_iff_overtaken (s : CommitRace) (height : Nat) :
    ((∃ block ∈ s.sinceSubmit, block.Holds builder.transaction.txId) →
        ∃ block ∈ s.ledger.drop (height - 1), block.Holds builder.transaction.txId) ↔
      ¬ s.Overtaken builder height := by
  unfold Overtaken sinceSubmit
  cases s.submitBegan with
  | none => simp
  | some start =>
      dsimp only
      constructor
      · rintro hfound ⟨⟨start', hstart, block, hmem, hholds⟩, hnone⟩
        cases hstart
        have hledger : block ∈ s.ledger.drop start :=
          ((List.take_prefix _ _).drop start).subset hmem
        obtain ⟨block', hmem', hholds'⟩ := hfound ⟨block, hledger, hholds⟩
        exact hnone block' hmem' hholds'
      · -- Not overtaken: suppose that the stream still misses the transaction.
        rintro hnot ⟨block, hmem, hholds⟩
        by_contra hmissed
        push Not at hmissed
        refine hnot ⟨⟨start, rfl, block, ?_, hholds⟩, hmissed⟩
        -- The block is not among those delivered, so it is among those below the newest.
        rw [← List.take_append_drop (height - 1) s.ledger, List.drop_append] at hmem
        rcases List.mem_append.mp hmem with hbelow | hdelivered
        · exact hbelow
        · exact absurd hholds (hmissed block (List.mem_of_mem_drop hdelivered))

end CommitRace

/-! ## What the search finds -/

/-- A search that opens a stream with an envelope ends as the search of that stream does. -/
theorem getTransaction_of_opens (network : Network) {requestor : User} {channel : Option Channel}
    {peer : Peer} {txId : String} {start : Option Int} {behavior : SeekBehavior}
    {sends : List Request} {envelope : Envelope}
    (h : (Coro.observe network (getTransaction rt requestor channel peer txId start behavior) ()
      sends).2.2 = sends ++ [.entropy, .deliverFiltered peer envelope]) :
    (Coro.observe network (getTransaction rt requestor channel peer txId start behavior) () sends).1 =
      searchTransaction txId (streamFilteredBlocks
        (network (sends ++ [.entropy]) (.deliverFiltered peer envelope))) := by
  rw [observe_getTransaction] at h ⊢
  dsimp only at h ⊢
  split at h
  · -- Without an envelope at most a draw is asked for.
    rw [List.append_right_inj, connectionDraws] at h
    split at h <;> cases h
  · rw [List.append_assoc, List.append_right_inj] at h
    cases h
    rfl

variable (deliver : DeliverService) (peer : Peer)

/-- **When waiting for a commit cannot miss it.** In every interleaving of blocks being appended,
tasks using the builder and streams being opened, and for every stream of the peer that a task waits
for: if a block appended since the submission began holds the transaction, then the stream delivers
one, exactly when the transaction was not overtaken before the stream was opened; and
`get_transaction` finds it, exactly when moreover it is not obscured. -/
theorem commit_seen_iff (hrt : rt.RoundTrip) (hdeliver : deliver.SeeksNewest)
    (ledger : List FilteredBlockProto) (labels : List CommitRace.Label) {task : Nat}
    {envelope : Envelope} {height : Nat}
    (htask : ((CommitRace.new ledger).run rt builder deliver peer labels).awaitedStream peer task =
      some envelope)
    (hopened : ((CommitRace.new ledger).run rt builder deliver peer labels).opened task =
      some height) :
    let s := (CommitRace.new ledger).run rt builder deliver peer labels
    let delivered := deliver.delivered rt envelope s.ledger height
    let appended := ∃ block ∈ s.sinceSubmit, block.Holds builder.transaction.txId
    ((appended → ∃ block ∈ delivered, block.Holds builder.transaction.txId) ↔
      ¬ s.Overtaken builder height) ∧
    ∀ (requestor : User) (channel : Option Channel) (network : Network) (sends : List Request)
      (ending : StreamEnd),
      network (sends ++ [.entropy]) (.deliverFiltered peer envelope) =
        ⟨delivered.map .filteredBlock, ending⟩ →
      let search := Coro.observe network (getTransaction rt requestor channel peer
        builder.transaction.txId none .blockUntilReady) () sends
      search.2.2 = sends ++ [.entropy, .deliverFiltered peer envelope] →
      ((appended → ∃ tx, search.1 = .ok tx) ↔
        ¬ s.Overtaken builder height ∧ ¬ s.Obscured builder height) := by
  intro s delivered appended
  have hinv : s.Inv rt builder := (CommitRace.inv_new rt builder ledger).run labels
  have hdelivered : delivered = s.ledger.drop (height - 1) :=
    delivered_of_ofWait hrt hdeliver (hinv.ofWait htask) (hinv.heights task height hopened)
  rw [hdelivered]
  refine ⟨s.missed_iff_overtaken height, ?_⟩
  intro requestor channel network sends ending hstream search hopens
  have hsearch : search.1 = _ := getTransaction_of_opens rt network hopens
  rw [hsearch, hstream, search_blocks_ok_iff ending, ← s.missed_iff_overtaken height]
  show (appended → _ ∧ _) ↔ (appended → _) ∧ ¬ (appended ∧ _)
  rw [imp_and, not_and, not_ne_iff]

/-! ## Two blocks in the gap -/

/-- A Deliver service. -/
def seekService : DeliverService
  | { start := some .newest, .. }, before, after => before.getLast?.toList ++ after
  | { start := some .oldest, .. }, before, after => before ++ after
  | { start := some (.specified s), .. }, before, after => (before ++ after).drop s.number.toNat
  | _, _, _ => []

theorem seekService_seeksNewest : seekService.SeeksNewest := by
  rintro ⟨start, stop, behavior⟩ before after rfl - -
  rfl

/-- Peers that endorse and orderers that accept. -/
def acceptingAnswer : (request : Request) → Answer request
  | .entropy => ([9], {})
  | .processProposals _ _ => ⟨fun _ => .ok { response := { status := 200 } }, fun _ => 0⟩
  | .broadcast _ _ => ⟨[{ status := 200 }], .closed⟩
  | .deliverFiltered _ _ => ⟨[], .closed⟩
  | .deliver _ _ => ⟨[], .closed⟩

/-- A task proposes, submits and begins to wait; the orderer has acknowledged, and the next step of
the task will send its request to the peer. -/
def untilAcknowledged : List CommitRace.Label := [
  .act (.queue (.propose true)), .act (.queue .submit), .act (.queue (.waitForCommit true 30)),
  .act .start, .act (.resume 0 acceptingAnswer), .act (.resume 0 acceptingAnswer)]

/-- The block of a transaction. -/
def blockOf (tx : GeneratedTX) : FilteredBlockProto :=
  { number := 1, filteredTransactions := [{ txid := tx.txId, type := 3 }] }

/-- The peer appends the block of the transaction and the block of another client before the stream
is opened: the stream delivers the other block alone, and the await ends with a timeout. -/
theorem overtaken_commit_missed :
    seekService.SeeksNewest ∧
    ∃ tx, buildGeneratedTx (wireRuntime id) keyedUser "cc" [[1]] (some ⟨"channel"⟩) none [9] {} =
        .ok tx ∧
      let peer : Peer := { endpoint := "peer:7051" }
      let race := CommitRace.run (wireRuntime id) ⟨keyedGateway, tx⟩ seekService peer
      let s := race (.new [{}]) (untilAcknowledged ++ [.append (blockOf tx),
        .append { number := 2 }, .act (.resume 0 acceptingAnswer), .openStream 0])
      (∃ block ∈ s.sinceSubmit, block.Holds tx.txId) ∧
      (∃ envelope height, s.awaitedStream peer 0 = some envelope ∧ s.opened 0 = some height ∧
        seekService.delivered (wireRuntime id) envelope s.ledger height = [{ number := 2 }]) ∧
      (¬ ∃ block ∈ ([{ number := 2 }] : List FilteredBlockProto), block.Holds tx.txId) ∧
      ∃ error, (race s [.endStream 0 1 none .cancelled]).builder.tasks 0 =
        some (.ended (.error error)) ∧ error = .timeoutError :=
  ⟨seekService_seeksNewest, _, rfl, by decide +kernel, ⟨_, _, rfl, rfl, rfl⟩, by decide +kernel,
    ⟨_, rfl, rfl⟩⟩

/-- The peer appends the block of a transaction, opens the stream, and appends another block. -/
def openedInTime (tx : GeneratedTX) : List CommitRace.Label :=
  untilAcknowledged ++ [.append (blockOf tx), .act (.resume 0 acceptingAnswer), .openStream 0,
    .append { number := 2 }]

/-- A network whose peers stream some blocks. -/
def streamingNetwork (blocks : List FilteredBlockProto) : Network
  | _, .deliverFiltered _ _ => ⟨blocks.map .filteredBlock, .closed⟩
  | _, request => acceptingAnswer request

/-- The block of the transaction is the last one when the stream is opened: the stream delivers it,
and the search finds it. -/
theorem commit_seen_iff_in_time :
    ∃ tx, buildGeneratedTx (wireRuntime id) keyedUser "cc" [[1]] (some ⟨"channel"⟩) none [9] {} =
        .ok tx ∧
      let peer : Peer := { endpoint := "peer:7051" }
      let s := CommitRace.run (wireRuntime id) ⟨keyedGateway, tx⟩ seekService peer (.new [{}])
        (openedInTime tx)
      ∃ envelope, s.awaitedStream peer 0 = some envelope ∧
        let delivered := seekService.delivered (wireRuntime id) envelope s.ledger 2
        (∃ block ∈ delivered, block.Holds tx.txId) ∧
        ∃ filteredTx, (Coro.observe (streamingNetwork delivered) (getTransaction (wireRuntime id)
          keyedUser (some ⟨"channel"⟩) peer tx.txId none .blockUntilReady) () []).1 =
            .ok filteredTx := by
  refine ⟨_, rfl, ?_⟩
  generalize htx : GeneratedTX.mk _ _ _ _ = tx
  intro peer s
  have hawaited : s.awaitedStream peer 0 = some ((s.awaitedStream peer 0).getD {}) := by
    subst htx
    decide +kernel
  have hopened : s.opened 0 = some 2 := by
    subst htx
    decide +kernel
  have hseen := commit_seen_iff (wireRuntime id) ⟨keyedGateway, tx⟩ seekService peer
    (wireRuntime_roundTrip id) seekService_seeksNewest [{}] (openedInTime tx)
    hawaited hopened
  -- The block of the transaction is the newest one at the height of the stream.
  have hintime : ¬ s.Overtaken ⟨keyedGateway, tx⟩ 2 := by
    rintro ⟨-, hnone⟩
    refine hnone (blockOf tx) ?_ ?_ <;> subst htx <;> decide +kernel
  have happended : ∃ block ∈ s.sinceSubmit, block.Holds tx.txId := by
    subst htx
    decide +kernel
  -- The one block delivered before the other has the transaction alone.
  have hclear : ¬ s.Obscured ⟨keyedGateway, tx⟩ 2 := by
    rintro ⟨-, hundeclared⟩
    refine hundeclared ?_
    subst htx
    decide +kernel
  refine ⟨_, hawaited, hseen.1.mpr hintime happended, ?_⟩
  refine (hseen.2 keyedUser (some ⟨"channel"⟩) _ [] .closed rfl ?_).mpr ⟨hintime, hclear⟩ happended
  subst htx
  decide +kernel

end Snakeskin
