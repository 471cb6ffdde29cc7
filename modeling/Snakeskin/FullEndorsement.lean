import Snakeskin.BuilderRuns
import Snakeskin.BuiltMessages

/-! # Submitting fully endorsed transactions

A propose operation stores what the peers answered before it checks it, and the queue survives an
await that raises. A submit may therefore meet a stored transaction that its propose refused. This
file says in which runs it cannot. -/

namespace Snakeskin

open Wire

variable (rt : Runtime) (builder : GatewayTXBuilder) (network : Network)

/-- The event does not pass a transaction to `commit_tx` that some peer refused. -/
def Event.CommitsFull : Event → Prop
  | .inr (.commitTxCalled tx) => tx.fullyEndorsed = true
  | _ => True

instance : DecidablePred Event.CommitsFull
  | .inr (.commitTxCalled _) => inferInstanceAs (Decidable (_ = true))
  | .inr (.operationStarted _) => isTrue trivial
  | .inr (.operationCompleted _) => isTrue trivial
  | .inr (.proposeTxReturned _) => isTrue trivial
  | .inr (.commitTxReturned _) => isTrue trivial
  | .inl _ => isTrue trivial

/-- Every transaction that submit passed to `commit_tx` was fully endorsed. -/
def OnlyFullyEndorsedCommitted (trace : List Event) : Prop := ∀ e ∈ trace, Event.CommitsFull e

instance (trace : List Event) : Decidable (OnlyFullyEndorsedCommitted trace) :=
  inferInstanceAs (Decidable (∀ e ∈ trace, _))

/-- Every propose operation of a list was queued with `raise_errors=True`. -/
def AllRaise (kinds : List OperationKind) : Prop :=
  ∀ raiseErrors, .propose raiseErrors ∈ kinds → raiseErrors = true

/-- The stored transaction, if there is one, is fully endorsed. -/
def BuilderState.StoredFull {L : Type} (s : BuilderState L) : Prop :=
  ∀ tx, s.endorsedTx = some tx → tx.fullyEndorsed = true

/-- A propose operation stands before the first submit of a list. -/
def ProposesBeforeSubmit : List Operation → Prop
  | [] => True
  | ⟨_, .propose _⟩ :: _ => True
  | ⟨_, .submit⟩ :: _ => False
  | ⟨_, .waitForCommit _ _⟩ :: operations => ProposesBeforeSubmit operations

/-- The first submit of the queue meets a checked transaction: the stored one is fully endorsed, or
a propose comes first. -/
def Session.Checked (s : Session) : Prop :=
  s.world.state.StoredFull ∨ ProposesBeforeSubmit s.queue

/-- The kinds of the operations that a sequence of calls queues. -/
def queuedKinds (commands : List Command) : List OperationKind :=
  commands.filterMap fun
    | .queue kind => some kind
    | .await => none

/-- **The loop passes only fully endorsed transactions to `commit_tx`** when its first submit meets
a checked one, by induction on the operations: a propose that returns has checked what it stored,
and nothing else changes the stored transaction. -/
theorem ensures_runLoop_commitsFull {L : Type} {operations : List Operation} {s : BuilderState L}
    (hraise : AllRaise (operations.map (·.kind)))
    (h : s.StoredFull ∨ ProposesBeforeSubmit operations) :
    Coro.Ensures Event.CommitsFull (fun _ _ => True) (fun _ _ => True)
      (builder.runLoop rt operations) s := by
  induction operations generalizing s with
  | nil => trivial
  | cons operation operations ih =>
      obtain ⟨id, kind⟩ := operation
      have hrest : AllRaise (operations.map (·.kind)) :=
        fun raiseErrors hmem => hraise raiseErrors (List.mem_cons_of_mem _ hmem)
      have hnext : ∀ s' : BuilderState L, (s'.StoredFull ∨ ProposesBeforeSubmit operations) →
          Coro.Ensures Event.CommitsFull (fun _ _ => True) (fun _ _ => True)
            (Coro.note (.operationCompleted id) (builder.runLoop rt operations)) s' :=
        fun s' hs' => ⟨trivial, ih hrest hs'⟩
      refine Coro.Ensures.annotate_bind trivial (Coro.Ensures.bind ?_)
      cases kind with
      | propose raiseErrors =>
          -- A propose that returns has stored a transaction that passed the check.
          obtain rfl : raiseErrors = true := hraise raiseErrors List.mem_cons_self
          refine Coro.Ensures.mono ?_ ?_ (fun _ _ _ => trivial) (ensures_propose builder true s)
          · rintro (q | n) (he | ⟨rs, he⟩)
            · trivial
            · trivial
            · exact he.elim
            · cases he
              trivial
          · rintro _ s' ⟨tx, rs, -, rfl, hfull⟩
            refine hnext _ (.inl fun tx' htx' => ?_)
            cases htx'
            exact hfull rfl
      | submit =>
          -- The submit comes first, so what it meets is stored and checked.
          have hfull : s.StoredFull := h.resolve_right not_false
          refine Coro.Ensures.mono ?_ ?_ (fun _ _ _ => trivial) (ensures_submit rt builder s)
          · rintro (q | n) (he | ⟨tx, htx, he⟩)
            · trivial
            · trivial
            · exact he.elim
            · rcases he with he | he <;> cases he
              · exact hfull tx htx
              · trivial
          · rintro _ s' ⟨-, rfl⟩
            exact hnext _ (.inl hfull)
      | waitForCommit raiseErrors timeout =>
          refine Coro.Ensures.mono ?_ ?_ (fun _ _ _ => trivial)
            (ensures_waitForCommit rt builder raiseErrors timeout s)
          · rintro (q | n) he
            · trivial
            · exact he.isRequest.elim False.elim False.elim
          · -- The stored transaction is the same, and the first submit is still to come.
            rintro _ s' ⟨-, endorsedTx, filteredTx, -, -, rfl⟩
            exact hnext _ h

/-- **Only fully endorsed transactions are submitted** in every run in which all proposes are queued
with `raise_errors=True` and every await starts in a state whose first submit meets a checked
transaction. -/
theorem only_fully_endorsed_committed {commands : List Command}
    (hraise : AllRaise (queuedKinds commands))
    (hchecked : Session.EveryAwait rt builder network Session.Checked Session.new commands) :
    OnlyFullyEndorsedCommitted (Session.new.run rt builder network commands).world.trace := by
  suffices h : ∀ s : Session, OnlyFullyEndorsedCommitted s.world.trace →
      AllRaise (s.queue.map (·.kind)) →
      Session.EveryAwait rt builder network Session.Checked s commands →
      OnlyFullyEndorsedCommitted (s.run rt builder network commands).world.trace from
    h _ nofun (fun _ hmem => nomatch hmem) hchecked
  clear hchecked
  induction commands with
  | nil => exact fun s htrace _ _ => htrace
  | cons command commands ih =>
      intro s htrace hqueue hawaits
      rw [Session.run_cons]
      cases command with
      | queue kind =>
          refine ih (fun r hmem => hraise r (List.mem_cons_of_mem _ hmem)) _ htrace ?_ hawaits
          rw [Session.queue_step_queue, List.map_append]
          intro raiseErrors hmem
          rcases List.mem_append.mp hmem with hold | hnew
          · exact hqueue raiseErrors hold
          · have hkind : kind = .propose raiseErrors := (List.mem_singleton.mp hnew).symm
            exact hraise raiseErrors (hkind ▸ List.mem_cons_self)
      | await =>
          -- The loop runs over the queue, and the queue keeps its operations or is cleared.
          obtain ⟨-, hafter, -, hcleared⟩ := s.step_await rt builder network
          obtain ⟨⟨es, hes, hfull⟩, -⟩ := Coro.Ensures.run network s.world
            (ensures_runLoop_commitsFull rt builder hqueue hawaits.1)
          refine ih hraise _ ?_ ?_ hawaits.2
          · rw [hafter, hes]
            intro e he
            exact (List.mem_append.mp he).elim (htrace e) (hfull e)
          · rcases hcleared with ⟨-, hkept⟩ | ⟨-, hempty⟩
            · rw [hkept]
              exact hqueue
            · rw [hempty]
              exact fun _ hmem => nomatch hmem

/-- A network in which the peers endorse the first proposal they are sent and refuse the others, and
the orderers accept everything. -/
def endorsingOnce : Network
  | _, .entropy => ([9], {})
  | sends, .processProposals _ _ =>
      ⟨fun _ => .ok { response := { status := if sends = [] then 200 else 500 } }, fun _ => 0⟩
  | _, .broadcast _ _ => ⟨[{ status := 200 }], .closed⟩
  | _, .deliverFiltered _ _ => ⟨[], .closed⟩
  | _, .deliver _ _ => ⟨[], .closed⟩

/-- A submit and a second propose run, the propose is refused, and the next await submits what it
stored. -/
theorem refused_transaction_committed :
    ∃ tx, buildGeneratedTx (wireRuntime id) keyedUser "cc" [[1]] (some ⟨"channel"⟩) none [9] {} =
        .ok tx ∧
      ¬ OnlyFullyEndorsedCommitted (Session.new.run (wireRuntime id) ⟨keyedGateway, tx⟩ endorsingOnce
        [.queue (.propose true), .await, .queue .submit, .queue (.propose true), .await,
          .await]).world.trace :=
  ⟨_, rfl, by decide +kernel⟩

/-- A propose and a submit in one await. -/
theorem only_fully_endorsed_committed_chain :
    ∃ tx, buildGeneratedTx (wireRuntime id) keyedUser "cc" [[1]] (some ⟨"channel"⟩) none [9] {} =
        .ok tx ∧
      OnlyFullyEndorsedCommitted (Session.new.run (wireRuntime id) ⟨keyedGateway, tx⟩ endorsingOnce
        [.queue (.propose true), .queue .submit, .await, .await]).world.trace := by
  refine ⟨_, rfl, only_fully_endorsed_committed _ _ _ ?_ ?_⟩
  · intro raiseErrors hmem
    have hkinds : raiseErrors = true := by
      simpa [queuedKinds] using hmem
    exact hkinds
  · exact ⟨.inr trivial, .inr trivial, trivial⟩

end Snakeskin
