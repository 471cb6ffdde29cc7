import Snakeskin.Gateway
import Snakeskin.Library.Hoare

/-! # Builders used by one task

One specification for each operation of a builder, and the runs of one task that queues operations
on a builder and awaits it, catching what an await raises and going on. -/

namespace Snakeskin

open Wire

variable (rt : Runtime) (builder : GatewayTXBuilder)

/-! ## What each operation does -/

section Operations

variable {L : Type}

/-- An event of a propose operation: the sending of the proposal, or the return of `propose_tx` with
some responses. -/
def Event.OfPropose (transaction : GeneratedTX) (e : Event) : Prop :=
  e.IsProposal ∨ ∃ rs, e = .inr (.proposeTxReturned (endorsedFrom transaction rs))

/-- An event of a submit operation: a broadcast, or the call or return of `commit_tx`. -/
def Event.OfSubmit (endorsedTx : Option EndorsedTX) (e : Event) : Prop :=
  e.IsBroadcast ∨ ∃ tx, endorsedTx = some tx ∧
    (e = .inr (.commitTxCalled tx) ∨ e = .inr (.commitTxReturned tx))

/-- An event of a wait operation: the drawing of a nonce, or the opening of a filtered stream from
the default start. -/
def Event.OfWait (e : Event) : Prop :=
  e.IsEntropy ∨ ∃ requestor channel, e.OpensStream rt requestor channel none .blockUntilReady

/-- What a wait operation emits are requests. -/
theorem Event.OfWait.isRequest {e : Event} (h : Event.OfWait rt e) :
    Event.IsEntropy e ∨ Event.IsDeliver e := by
  rcases h with h | ⟨requestor, channel, peer, nonce, timestamp, envelope, rfl, -⟩
  · exact .inl h
  · exact .inr trivial

/-- **Propose** stores what the peers answered, also where it raises; under `raise_errors` it
returns for a fully endorsed transaction only. -/
theorem ensures_propose (raiseErrors : Bool) (s : BuilderState L) :
    Coro.Ensures (Event.OfPropose builder.transaction)
      (fun _ s' => ∃ tx rs, tx = endorsedFrom builder.transaction rs ∧
        s' = { s with endorsedTx := some tx } ∧ (raiseErrors = true → tx.fullyEndorsed = true))
      (fun _ s' => s' = s ∨ ∃ rs,
        s' = { s with endorsedTx := some (endorsedFrom builder.transaction rs) })
      (builder.propose raiseErrors) s := by
  refine Coro.Ensures.bind (Coro.Ensures.mono (fun _ h => .inl h) ?_ (fun _ _ h => .inl h.2)
    (Coro.Ensures.lift (ensures_proposeTx builder.gateway.endorsingPeers builder.transaction) s))
  rintro endorsedTx s' ⟨⟨rs, rfl⟩, rfl⟩
  refine Coro.Ensures.annotate_bind (.inr ⟨rs, rfl⟩) ?_
  cases raiseErrors with
  | false =>
      refine ⟨_, rs, rfl, rfl, ?_⟩
      intro h
      cases h
  -- The check comes after the store, so what it refuses is stored all the same.
  | true =>
      refine Coro.Ensures.ofExcept ?_ fun _ _ => .inr ⟨rs, rfl⟩
      intro _ hcheck
      exact ⟨_, rs, rfl, rfl, fun _ => raiseTxProposalError_eq_ok.mp hcheck⟩

/-- A commit on behalf of the gateway emits broadcasts. -/
theorem ensures_commit (endorsedTx : EndorsedTX) :
    Coro.Ensures Event.IsBroadcast (fun _ _ => True) (fun _ _ => True)
      (builder.commit rt endorsedTx) () := by
  unfold GatewayTXBuilder.commit
  split
  · exact ensures_commitTx rt _ _ _
  · trivial

/-- **Submit** passes the stored transaction to `commit_tx`, and changes the state only where that
returns. -/
theorem ensures_submit (s : BuilderState L) :
    Coro.Ensures (Event.OfSubmit s.endorsedTx)
      (fun _ s' => s.endorsedTx.isSome = true ∧ s' = { s with committed := true })
      (fun _ s' => s' = s) (builder.submit rt) s := by
  refine Coro.Ensures.read_bind ?_
  cases hs : s.endorsedTx with
  | none => rfl
  | some endorsedTx =>
      refine Coro.Ensures.annotate_bind (.inr ⟨endorsedTx, rfl, .inl rfl⟩) ?_
      refine Coro.Ensures.bind (Coro.Ensures.mono (fun _ h => .inl h) ?_ (fun _ _ h => h.2)
        (Coro.Ensures.lift (ensures_commit rt builder endorsedTx) s))
      rintro response s' ⟨-, rfl⟩
      refine Coro.Ensures.annotate_bind (.inr ⟨endorsedTx, rfl, .inr rfl⟩) ⟨rfl, ?_⟩
      rw [← hs]

/-- Waiting on one peer finds the transaction that was searched for. -/
theorem ensures_awaitTransaction (raiseErrors : Bool) (timeout : Int) (txId : String) (peer : Peer) :
    Coro.Ensures (Event.OfWait rt) (fun tx _ => tx.txId = txId) (fun _ _ => True)
      (builder.awaitTransaction rt raiseErrors timeout txId peer) () := by
  unfold GatewayTXBuilder.awaitTransaction
  split
  · rename_i requestor hrequestor
    have hopens : ∀ e, Event.IsEntropy e ∨ Event.OpensStream rt requestor builder.gateway.channel none
        .blockUntilReady e → Event.OfWait rt e :=
      fun e he => he.imp_right fun h => ⟨requestor, _, h⟩
    split
    · exact Coro.Ensures.mono hopens (fun _ _ h => h) (fun _ _ h => h)
        (ensures_checkTransaction rt _ _ _ _ _ _ _)
    · exact Coro.Ensures.mono hopens (fun _ _ h => h) (fun _ _ h => h)
        (ensures_waitFor timeout (ensures_getTransaction rt _ _ _ _ _ _))
  · exact ensures_waitFor timeout trivial

/-- The state after a successful wait: the filtered transaction is stored, with the id of the
endorsed one. -/
def BuilderState.Waited (s s' : BuilderState L) : Prop :=
  ∃ endorsedTx filteredTx, s.endorsedTx = some endorsedTx ∧ filteredTx.txId = endorsedTx.txId ∧
    s' = { s with filteredTx := some filteredTx }

/-- The loop over the peers stores what it finds, by induction on the peers. -/
theorem ensures_waitLoop (raiseErrors : Bool) (timeout : Int) (error : Exc) (peers : List Peer)
    (s : BuilderState L) :
    Coro.Ensures (Event.OfWait rt) (fun _ s' => s.Waited s') (fun _ s' => s' = s)
      (builder.waitLoop rt raiseErrors timeout error peers) s := by
  induction peers generalizing error with
  | nil => rfl
  | cons peer peers ih =>
      have hround : Coro.Ensures (Event.OfWait rt) (fun _ s' => s.Waited s') (fun _ s' => s' = s)
          (builder.waitOnPeer rt raiseErrors timeout peer) s := by
        refine Coro.Ensures.read_bind ?_
        cases hs : s.endorsedTx with
        | none => rfl
        | some endorsedTx =>
            refine Coro.Ensures.bind (Coro.Ensures.mono (fun _ h => h) ?_ (fun _ _ h => h.2)
              (Coro.Ensures.lift
                (ensures_awaitTransaction rt builder raiseErrors timeout endorsedTx.txId peer) s))
            rintro filteredTx s' ⟨htxId, rfl⟩
            exact ⟨endorsedTx, filteredTx, hs, htxId, rfl⟩
      -- A round that raises has stored nothing, so the next one starts in the same state.
      refine Coro.Ensures.tryCatch
        (Coro.Ensures.mono (fun _ h => h) (fun _ _ h => h) ?_ hround)
      rintro err s' rfl
      split
      · exact ih err
      · rfl

/-- **Wait for commit** needs a committed transaction, and stores what it finds. -/
theorem ensures_waitForCommit (raiseErrors : Bool) (timeout : Int) (s : BuilderState L) :
    Coro.Ensures (Event.OfWait rt) (fun _ s' => s.committed = true ∧ s.Waited s') (fun _ s' => s' = s)
      (builder.waitForCommit rt raiseErrors timeout) s := by
  refine Coro.Ensures.read_bind ?_
  by_cases hcommitted : s.committed = true
  · rw [if_pos hcommitted]
    exact Coro.Ensures.mono (fun _ h => h) (fun _ _ h => ⟨hcommitted, h⟩) (fun _ _ h => h)
      (ensures_waitLoop rt builder raiseErrors timeout _ _ s)
  · -- Without a commit the operation raises, and the state stays.
    rw [if_neg hcommitted]
    rfl

/-- An operation leaves the list of operations alone. -/
theorem ensures_operate_operations (kind : OperationKind) (s : BuilderState L) :
    Coro.Ensures (fun _ => True) (fun _ s' => s'.operations = s.operations)
      (fun _ s' => s'.operations = s.operations) (builder.operate rt kind) s := by
  cases kind with
  | propose raiseErrors =>
      refine Coro.Ensures.mono (fun _ _ => trivial) ?_ ?_ (ensures_propose builder raiseErrors s)
      · rintro _ s' ⟨tx, rs, -, rfl, -⟩
        rfl
      · rintro _ s' (rfl | ⟨rs, rfl⟩) <;> rfl
  | submit =>
      refine Coro.Ensures.mono (fun _ _ => trivial) ?_ ?_ (ensures_submit rt builder s)
      · rintro _ s' ⟨-, rfl⟩
        rfl
      · rintro _ s' rfl
        rfl
  | waitForCommit raiseErrors timeout =>
      refine Coro.Ensures.mono (fun _ _ => trivial) ?_ ?_
        (ensures_waitForCommit rt builder raiseErrors timeout s)
      · rintro _ s' ⟨-, endorsedTx, filteredTx, -, -, rfl⟩
        rfl
      · rintro _ s' rfl
        rfl

/-- So does the loop, by induction on the operations. -/
theorem ensures_runLoop_operations (operations : List Operation) (s : BuilderState L) :
    Coro.Ensures (fun _ => True) (fun _ s' => s'.operations = s.operations)
      (fun _ s' => s'.operations = s.operations) (builder.runLoop rt operations) s := by
  induction operations generalizing s with
  | nil => rfl
  | cons operation operations ih =>
      refine Coro.Ensures.annotate_bind trivial (Coro.Ensures.bind ?_)
      refine Coro.Ensures.mono (fun _ h => h) ?_ (fun _ _ h => h)
        (ensures_operate_operations rt builder operation.kind s)
      intro _ s' hs'
      refine Coro.Ensures.annotate_bind trivial ?_
      rw [← hs']
      exact ih s'

end Operations

/-! ## Sessions -/

/-- A call that the task makes on the builder: a queueing method, or an await. -/
inductive Command where
  | queue (kind : OperationKind)
  | await
  deriving DecidableEq, Repr

/-- A task using a builder: the world, the number of operations queued so far, and how the awaits so
far ended. -/
structure Session where
  world : World (BuilderState (List Operation))
  queued : Nat
  awaited : List (Except Exc EndorsedTX)

/-- A new builder. -/
def Session.new : Session := ⟨⟨{}, []⟩, 0, []⟩

variable (network : Network)

/-- One call. An await runs the queued operations; what it raises is caught. -/
def Session.step (s : Session) : Command → Session
  | .queue kind =>
      { s with
        world := s.world.update (GatewayTXBuilder.addOperation s.world.state ⟨s.queued, kind⟩)
        queued := s.queued + 1 }
  | .await =>
      let (result, world) := Coro.run network (builder.runOperations rt) s.world
      { s with world, awaited := s.awaited ++ [result] }

/-- A sequence of calls. -/
def Session.run (s : Session) (commands : List Command) : Session :=
  commands.foldl (Session.step rt builder network) s

/-- The operations in the queue. -/
def Session.queue (s : Session) : List Operation := s.world.state.operations.getD []

/-- Every await of a sequence of calls starts in a state with a property. -/
def Session.EveryAwait (P : Session → Prop) : Session → List Command → Prop
  | _, [] => True
  | s, .queue kind :: commands =>
      EveryAwait P (s.step rt builder network (.queue kind)) commands
  | s, .await :: commands => P s ∧ EveryAwait P (s.step rt builder network .await) commands

theorem Session.run_cons (s : Session) (command : Command) (commands : List Command) :
    s.run rt builder network (command :: commands) =
      (s.step rt builder network command).run rt builder network commands := rfl

/-- Queueing appends an operation with the next number. -/
theorem Session.queue_step_queue (s : Session) (kind : OperationKind) :
    (s.step rt builder network (.queue kind)).queue = s.queue ++ [⟨s.queued, kind⟩] := by
  show (GatewayTXBuilder.addOperation s.world.state ⟨s.queued, kind⟩).operations.getD [] =
    s.world.state.operations.getD [] ++ _
  unfold GatewayTXBuilder.addOperation
  rcases s.world.state.operations with _ | ⟨_ | ⟨first, rest⟩⟩ <;> rfl

/-- Queueing sends nothing. -/
theorem Session.trace_step_queue (s : Session) (kind : OperationKind) :
    (s.step rt builder network (.queue kind)).world.trace = s.world.trace := rfl

/-- What an await returns is decided by the stored transaction, and the world stays. -/
theorem run_finish {L : Type} (w : World (BuilderState L)) :
    Coro.run network GatewayTXBuilder.finish w =
      (w.state.awaited, w) :=
  Coro.run_ofExcept network w.state.awaited w

/-- An await without operations raises at once. -/
theorem run_runOperations_of_none {w : World (BuilderState (List Operation))}
    (h : w.state.operations.getD [] = []) :
    Coro.run network (builder.runOperations rt) w =
      (.error (.blockchainError "Transaction never proposed"), w) := by
  obtain ⟨⟨endorsedTx, filteredTx, committed, operations⟩, trace⟩ := w
  rcases operations with _ | ⟨_ | ⟨first, rest⟩⟩
  · rfl
  · rfl
  · cases h

/-- An await whose loop raises raises the same. -/
theorem run_runOperations_of_error {w w' : World (BuilderState (List Operation))} {first : Operation}
    {rest : List Operation} (h : w.state.operations = some (first :: rest)) {e : Exc}
    (hloop : Coro.run network (builder.runLoop rt (first :: rest)) w = (.error e, w')) :
    Coro.run network (builder.runOperations rt) w = (.error e, w') := by
  obtain ⟨⟨endorsedTx, filteredTx, committed, operations⟩, trace⟩ := w
  obtain rfl : operations = some (first :: rest) := h
  show Coro.run network (Coro.bind (builder.runLoop rt (first :: rest)) _) _ = _
  rw [Coro.run_bind, hloop]

/-- An await whose loop returns clears the list and returns the endorsed transaction. -/
theorem run_runOperations_of_ok {w w' : World (BuilderState (List Operation))} {first : Operation}
    {rest : List Operation} (h : w.state.operations = some (first :: rest))
    (hloop : Coro.run network (builder.runLoop rt (first :: rest)) w = (.ok (), w')) :
    Coro.run network (builder.runOperations rt) w =
      (w'.state.awaited, w'.update { w'.state with operations := some [] }) := by
  obtain ⟨⟨endorsedTx, filteredTx, committed, operations⟩, trace⟩ := w
  obtain rfl : operations = some (first :: rest) := h
  show Coro.run network (Coro.bind (builder.runLoop rt (first :: rest)) _) _ = _
  rw [Coro.run_bind, hloop]
  exact run_finish network _

/-- A queue with operations is a list. -/
theorem Session.operations_of_queue {s : Session} {first : Operation} {rest : List Operation}
    (h : s.queue = first :: rest) : s.world.state.operations = some (first :: rest) := by
  unfold Session.queue at h
  cases hs : s.world.state.operations with
  | none =>
      rw [hs] at h
      cases h
  | some operations =>
      rw [hs, Option.getD_some] at h
      rw [h]

/-- An await runs the loop over the queue. A loop that returns clears the queue, one that raises
keeps it. -/
theorem Session.step_await (s : Session) :
    let loop := Coro.run network (builder.runLoop rt s.queue) s.world
    let s' := s.step rt builder network .await
    s'.queued = s.queued ∧ s'.world.trace = loop.2.trace ∧
      s'.world.state.endorsedTx = loop.2.state.endorsedTx ∧
      ((∃ e, loop.1 = .error e) ∧ s'.queue = s.queue ∨ loop.1 = .ok () ∧ s'.queue = []) := by
  intro loop s'
  have hworld : s'.world = (Coro.run network (builder.runOperations rt) s.world).2 := rfl
  have hqueue : s'.queue = s'.world.state.operations.getD [] := rfl
  have hkept := (Coro.Ensures.run network s.world
    (ensures_runLoop_operations rt builder s.queue s.world.state)).2
  rw [hqueue, hworld]
  simp only [loop]
  rcases hoperations : s.queue with _ | ⟨first, rest⟩
  · -- The loop over an empty queue returns, and the await raises without touching anything.
    rw [run_runOperations_of_none rt builder network hoperations]
    exact ⟨rfl, rfl, rfl, .inr ⟨rfl, hoperations⟩⟩
  · have hsome := Session.operations_of_queue hoperations
    rw [hoperations] at hkept
    -- No operation touches the list, so a loop that raises leaves the queue as it was.
    rcases hloop : Coro.run network (builder.runLoop rt (first :: rest)) s.world with ⟨e | _, w'⟩
    · rw [hloop] at hkept
      have hafter : w'.state.operations = s.world.state.operations := hkept
      rw [run_runOperations_of_error rt builder network hsome hloop]
      refine ⟨rfl, rfl, rfl, .inl ⟨⟨e, rfl⟩, ?_⟩⟩
      show w'.state.operations.getD [] = _
      rw [hafter, hsome, Option.getD_some]
    · rw [run_runOperations_of_ok rt builder network hsome hloop]
      exact ⟨rfl, rfl, rfl, .inr ⟨rfl, rfl⟩⟩

end Snakeskin
