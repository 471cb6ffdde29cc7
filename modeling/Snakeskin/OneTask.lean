import Snakeskin.BuilderInvariant
import Snakeskin.Library.Simulation

/-! # One task among others

A session, in which one task queues operations and awaits the builder, is one of the interleavings
of a shared builder: each await is a task that is started and answered until it ends, with nobody
else taking a step. So what holds of every interleaving holds of every session,
`session_simulated`. -/

namespace Snakeskin

variable (rt : Runtime) (builder : GatewayTXBuilder) (network : Network)

/-! ## Operations do not look at the list of operations -/

/-- Two states of a builder agree but for what stands for the list of operations. -/
structure BuilderState.Agree {L₁ L₂ : Type} (s₁ : BuilderState L₁) (s₂ : BuilderState L₂) : Prop where
  endorsed : s₁.endorsedTx = s₂.endorsedTx
  filtered : s₁.filteredTx = s₂.filteredTx
  committed : s₁.committed = s₂.committed

section Alike

variable {L₁ L₂ : Type}

/-- Propose operations are alike. -/
theorem alike_propose (raiseErrors : Bool) :
    Coro.Alike BuilderState.Agree (builder.propose raiseErrors : Async (BuilderState L₁) Unit)
      (builder.propose raiseErrors : Async (BuilderState L₂) Unit) := by
  refine (Coro.Alike.lift _ _).bind fun tx => (Coro.Alike.annotate _ _).bind fun _ => ?_
  refine Coro.Alike.bind (Coro.Alike.modify ?_) fun _ => ?_
  · exact fun s₁ s₂ hs => ⟨rfl, hs.filtered, hs.committed⟩
  · cases raiseErrors with
    | false => exact .ret ()
    | true => exact Coro.Alike.ofExcept _ _

/-- Submit operations are alike. -/
theorem alike_submit :
    Coro.Alike BuilderState.Agree (builder.submit rt : Async (BuilderState L₁) Unit)
      (builder.submit rt : Async (BuilderState L₂) Unit) := by
  refine Coro.Alike.read_bind fun s₁ s₂ hs => ?_
  rw [hs.endorsed]
  cases s₂.endorsedTx with
  | none => exact .raise _
  | some endorsedTx =>
      -- What is committed is the same transaction, since the states agree on it.
      refine (Coro.Alike.annotate _ _).bind fun _ => (Coro.Alike.lift _ _).bind fun _ => ?_
      refine (Coro.Alike.annotate _ _).bind fun _ => Coro.Alike.modify ?_
      exact fun s₁ s₂ hs => ⟨hs.endorsed, hs.filtered, rfl⟩

/-- The loops over the peers are alike, by induction on the peers. -/
theorem alike_waitLoop (raiseErrors : Bool) (timeout : Int) (error : Exc) (peers : List Peer) :
    Coro.Alike BuilderState.Agree
      (builder.waitLoop rt raiseErrors timeout error peers : Async (BuilderState L₁) Unit)
      (builder.waitLoop rt raiseErrors timeout error peers : Async (BuilderState L₂) Unit) := by
  induction peers generalizing error with
  | nil => exact .raise error
  | cons peer peers ih =>
      refine Coro.Alike.tryCatch (Coro.Alike.read_bind fun s₁ s₂ hs => ?_) fun err => ?_
      · rw [hs.endorsed]
        cases s₂.endorsedTx with
        | none => exact .raise _
        | some endorsedTx =>
            refine (Coro.Alike.lift _ _).bind fun _ => Coro.Alike.modify ?_
            exact fun s₁ s₂ hs => ⟨hs.endorsed, rfl, hs.committed⟩
      · split
        · exact ih err
        · exact .raise err

/-- Operations are alike. -/
theorem alike_operate (kind : OperationKind) :
    Coro.Alike BuilderState.Agree (builder.operate rt kind : Async (BuilderState L₁) Unit)
      (builder.operate rt kind : Async (BuilderState L₂) Unit) := by
  cases kind with
  | propose raiseErrors => exact alike_propose builder raiseErrors
  | submit => exact alike_submit rt builder
  | waitForCommit raiseErrors timeout =>
      refine Coro.Alike.read_bind fun s₁ s₂ hs => ?_
      rw [hs.committed]
      split
      · exact alike_waitLoop rt builder raiseErrors timeout _ _
      · exact .raise _

/-- Loops over the same operations are alike. -/
theorem alike_runLoop (operations : List Operation) :
    Coro.Alike BuilderState.Agree (builder.runLoop rt operations : Async (BuilderState L₁) Unit)
      (builder.runLoop rt operations : Async (BuilderState L₂) Unit) := by
  induction operations with
  | nil => exact .ret ()
  | cons operation operations ih =>
      refine (Coro.Alike.annotate _ _).bind fun _ => (alike_operate rt builder _).bind fun _ => ?_
      exact (Coro.Alike.annotate _ _).bind fun _ => ih

end Alike

/-! ## A task that runs to its end -/

namespace SharedBuilder

/-- What a run of the loop over its operations makes of a task. -/
def conclude (s : SharedBuilder) (task : Nat)
    (run : Except Exc Unit × World (BuilderState ListRef)) : SharedBuilder :=
  match run with
  | (.ok _, w) => s.settle task (.finished w)
  | (.error e, w) => s.settle task (.raised e w)

/-- Of what a task was set to only the last counts. -/
theorem settle_settle (s : SharedBuilder) (task : Nat) (frame : Frame)
    (w : World (BuilderState ListRef)) (progress : Progress) :
    (s.settle task (.suspended frame w)).settle task progress = s.settle task progress := by
  have hupdate : ∀ status₁ status₂ : Option Task,
      Function.update (Function.update s.tasks task status₁) task status₂ =
        Function.update s.tasks task status₂ := fun _ _ => Function.update_idem _ _ _
  rcases progress with ⟨frame', w'⟩ | ⟨e, w'⟩ | w'
  · simp only [settle, setTask, hupdate]
  · simp only [settle, setTask, hupdate]
  · simp only [settle, setTask, finish]
    cases w'.state.operations <;> simp only [hupdate]

/-- A task that has just been suspended goes on as if it had not been, but for the answer. -/
theorem resume_settle (s : SharedBuilder) (task : Nat) (frame : Frame)
    (w : World (BuilderState ListRef)) (answer : (request : Request) → Answer request) :
    (s.settle task (.suspended frame w)).step rt builder (.resume task answer) =
      s.settle task (frame.proceed rt builder (answer frame.request) (s.listAt frame.list) w) := by
  have htask : (s.settle task (.suspended frame w)).tasks task = some (.suspended frame) :=
    Function.update_self _ _ _
  unfold step resume
  dsimp only
  rw [htask]
  exact settle_settle s task frame w _

/-- A task whose operation runs a coroutine, and whose loop runs to its end after that, is answered
by the network until it has run to its end; by induction on the coroutine. -/
theorem exists_run_ofOutcome (s : SharedBuilder) (task : Nat) (list : ListRef) (next operation : Nat)
    (hloop : ∀ w, ∃ labels,
      (s.settle task (runFrom rt builder list next ((s.listAt list).drop next) w)).run rt builder
          labels =
        s.conclude task
          (Coro.run network (builder.runLoop rt ((s.listAt list).drop next)) w))
    (c : Async (BuilderState ListRef) Unit) (w : World (BuilderState ListRef)) :
    ∃ labels,
      (s.settle task (.ofOutcome list next operation
        (runFrom rt builder list next ((s.listAt list).drop next)) (c.segment w))).run rt builder
          labels =
        s.conclude task (Coro.run network (c.bind fun _ => .note (.operationCompleted operation)
          (builder.runLoop rt ((s.listAt list).drop next))) w) := by
  induction c generalizing w with
  | ret _ => exact hloop _
  | raise e => exact ⟨[], rfl⟩
  | get k ih => exact ih w.state w
  | set s' k ih => exact ih (w.update s')
  | note n k ih => exact ih (w.record (.inr n))
  | call q k ih =>
      -- The task waits for the answer to `q`, and is given that of the network.
      obtain ⟨labels, hlabels⟩ := ih (network (Coro.requests w.trace) q) (w.record (.inl q))
      refine ⟨.resume task (network (Coro.requests w.trace)) :: labels, ?_⟩
      have hresume := resume_settle rt builder s task ⟨list, next, operation, q, k⟩
        (w.record (.inl q)) (network (Coro.requests w.trace))
      rw [run_cons]
      exact (congrArg (·.run rt builder labels) hresume).trans hlabels

/-- **A task that loops over its operations** is answered by the network until it has run to its
end, by induction on the operations. -/
theorem exists_run_runFrom (s : SharedBuilder) (task : Nat) (list : ListRef) (index : Nat)
    (operations : List Operation) (hlist : (s.listAt list).drop index = operations)
    (w : World (BuilderState ListRef)) :
    ∃ labels,
      (s.settle task (runFrom rt builder list index operations w)).run rt builder labels =
        s.conclude task (Coro.run network (builder.runLoop rt operations) w) := by
  induction operations generalizing index w with
  | nil => exact ⟨[], rfl⟩
  | cons operation operations ih =>
      have hrest : (s.listAt list).drop (index + 1) = operations := by
        rw [← List.tail_drop, hlist, List.tail_cons]
      have hloop : ∀ w', ∃ labels,
          (s.settle task (runFrom rt builder list (index + 1)
            ((s.listAt list).drop (index + 1)) w')).run rt builder labels =
          s.conclude task (Coro.run network
            (builder.runLoop rt ((s.listAt list).drop (index + 1))) w') := by
        rw [hrest]
        exact ih (index + 1) hrest
      have hrun := exists_run_ofOutcome rt builder network s task list (index + 1) operation.id hloop
        (builder.operate rt operation.kind) (w.record (.inr (.operationStarted operation.id)))
      rw [hrest] at hrun
      exact hrun

/-! ## Sessions -/

/-- A session and a shared builder are in the same state: the list of the session is in the list
object that the shared builder refers to, and the awaits of the session are its tasks. -/
structure Matches (s : Session) (b : SharedBuilder) : Prop where
  trace : s.world.trace = b.world.trace
  agree : s.world.state.Agree b.world.state
  operations : s.world.state.operations = b.world.state.operations.map b.listAt
  valid : ∀ list, b.world.state.operations = some list → list < b.lists.length
  queued : s.queued = b.queued
  started : s.awaited.length = b.started
  tasks : ∀ task, b.tasks task = (s.awaited[task]?).map Task.ended

/-- New builders match. -/
theorem matches_new : Matches Session.new new := by
  refine ⟨rfl, ⟨rfl, rfl, rfl⟩, rfl, ?_, rfl, rfl, fun _ => rfl⟩
  intro list h
  cases h

/-- A list object that was just made holds what it was made of. -/
theorem listAt_new (b : SharedBuilder) (operations : List Operation) :
    listAt { b with lists := b.lists ++ [operations] } b.lists.length = operations := by
  simp [listAt]

/-- A list object that was just changed holds what it was changed to. -/
theorem listAt_set {b : SharedBuilder} {list : ListRef} (hlist : list < b.lists.length)
    (operations : List Operation) :
    listAt { b with lists := b.lists.set list operations } list = operations := by
  simp [listAt, hlist]

/-- Where both start a new list with the operation queued, the match is kept. -/
theorem Matches.queue_new {s : Session} {b : SharedBuilder} (h : Matches s b) (kind : OperationKind) :
    Matches { s with
      world := s.world.update { s.world.state with operations := some [⟨b.queued, kind⟩] }
      queued := s.queued + 1 } { b with
      world := b.world.update { b.world.state with operations := some b.lists.length }
      lists := b.lists ++ [[⟨b.queued, kind⟩]]
      queued := b.queued + 1 } where
  trace := h.trace
  agree := ⟨h.agree.endorsed, h.agree.filtered, h.agree.committed⟩
  operations := congrArg some (listAt_new b _).symm
  valid := by
    rintro _ ⟨⟩
    show b.lists.length < (b.lists ++ [_]).length
    rw [List.length_append]
    exact Nat.lt_succ_self _
  queued := by
    show s.queued + 1 = b.queued + 1
    rw [h.queued]
  started := h.started
  tasks := h.tasks

/-- Where the operation queued is appended to the list object and to the list of the session, the
match is kept. -/
theorem Matches.queue_append {s : Session} {b : SharedBuilder} (h : Matches s b)
    {list : ListRef} (hb : b.world.state.operations = some list)
    (operations : List Operation) :
    Matches { s with
      world := s.world.update { s.world.state with operations := some operations }
      queued := s.queued + 1 } { b with
      lists := b.lists.set list operations
      queued := b.queued + 1 } where
  trace := h.trace
  agree := ⟨h.agree.endorsed, h.agree.filtered, h.agree.committed⟩
  operations := by
    show some operations = b.world.state.operations.map _
    rw [hb, Option.map_some]
    exact congrArg some (listAt_set (h.valid list hb) _).symm
  valid := by
    intro list' hlist'
    show list' < (b.lists.set list _).length
    rw [List.length_set]
    exact h.valid list' hlist'
  queued := by
    show s.queued + 1 = b.queued + 1
    rw [h.queued]
  started := h.started
  tasks := h.tasks

/-- Queueing an operation keeps the match. -/
theorem Matches.queue {s : Session} {b : SharedBuilder} (h : Matches s b) (kind : OperationKind) :
    Matches (s.step rt builder network (.queue kind)) (b.step rt builder (.queue kind)) := by
  show Matches { s with
    world := s.world.update (GatewayTXBuilder.addOperation s.world.state ⟨s.queued, kind⟩)
    queued := s.queued + 1 } (b.addOperation kind)
  have hoperations := h.operations
  unfold addOperation
  dsimp only
  rcases hb : b.world.state.operations with _ | list
  · -- There is no operation yet.
    rw [hb, Option.map_none] at hoperations
    have hadd : GatewayTXBuilder.addOperation s.world.state ⟨s.queued, kind⟩ =
        { s.world.state with operations := some [⟨b.queued, kind⟩] } := by
      rw [GatewayTXBuilder.addOperation, h.queued, hoperations]
    rw [hadd]
    exact h.queue_new kind
  · rw [hb, Option.map_some] at hoperations
    dsimp only
    rcases hlist : b.listAt list with _ | ⟨first, rest⟩
    · -- The list object is empty, so it is not appended to.
      have hadd : GatewayTXBuilder.addOperation s.world.state ⟨s.queued, kind⟩ =
          { s.world.state with operations := some [⟨b.queued, kind⟩] } := by
        rw [GatewayTXBuilder.addOperation, h.queued, hoperations, hlist]
      rw [if_neg (by simp), hadd]
      exact h.queue_new kind
    · -- Both append to the list they have.
      have hadd : GatewayTXBuilder.addOperation s.world.state ⟨s.queued, kind⟩ =
          { s.world.state with operations := some (first :: rest ++ [⟨b.queued, kind⟩]) } := by
        rw [GatewayTXBuilder.addOperation, h.queued, hoperations, hlist]
      rw [if_pos (by simp), hadd]
      exact h.queue_append hb _

/-- A task that ends with what an await ended with. -/
theorem tasks_concat {tasks : Nat → Option Task} {awaited : List (Except Exc EndorsedTX)}
    (h : ∀ task, tasks task = (awaited[task]?).map Task.ended) (result : Except Exc EndorsedTX)
    (task : Nat) :
    Function.update tasks awaited.length (some (.ended result)) task =
      ((awaited ++ [result])[task]?).map Task.ended := by
  by_cases heq : task = awaited.length
  · rw [heq, Function.update_self, List.getElem?_concat_length, Option.map_some]
  · rw [Function.update_of_ne heq, h]
    congr 1
    rw [List.getElem?_append]
    by_cases hlt : task < awaited.length
    · rw [if_pos hlt]
    · rw [if_neg hlt, List.getElem?_eq_none (by omega), List.getElem?_eq_none (by simp; omega)]

/-- A task that finds no operations ends at once. -/
theorem start_of_none {b : SharedBuilder} (h : (b.world.state.operations.map b.listAt).getD [] = []) :
    b.start rt builder = setTask { b with started := b.started + 1 } b.started
      (.ended (.error (.blockchainError "Transaction never proposed"))) := by
  unfold start
  rcases hb : b.world.state.operations with _ | list
  · rfl
  · rw [hb, Option.map_some, Option.getD_some] at h
    dsimp only
    rw [h]

/-- A task that finds operations runs them. -/
theorem start_of_cons {b : SharedBuilder} {list : ListRef} (hb : b.world.state.operations = some list)
    {first : Operation} {rest : List Operation} (hlist : b.listAt list = first :: rest) :
    b.start rt builder = settle { b with started := b.started + 1 } b.started
      (runFrom rt builder list 0 (first :: rest) b.world) := by
  unfold start
  rw [hb]
  dsimp only
  rw [hlist]

/-- A task that finds operations is answered until it has run to its end. -/
theorem exists_run_start {b : SharedBuilder} {list : ListRef}
    (hb : b.world.state.operations = some list) {first : Operation} {rest : List Operation}
    (hlist : b.listAt list = first :: rest) :
    ∃ labels, b.run rt builder (.start :: labels) =
      conclude { b with started := b.started + 1 } b.started
        (Coro.run network (builder.runLoop rt (first :: rest)) b.world) := by
  obtain ⟨labels, hlabels⟩ := exists_run_runFrom rt builder network
    { b with started := b.started + 1 } b.started list 0 (first :: rest) hlist b.world
  refine ⟨labels, ?_⟩
  rw [run_cons]
  show (b.start rt builder).run rt builder labels = _
  rw [start_of_cons rt builder hb hlist]
  exact hlabels

section Endings

variable {s : Session} {b : SharedBuilder} {w : World (BuilderState (List Operation))}
  {w' : World (BuilderState ListRef)}

/-- An await is one more task that has ended. -/
theorem Matches.started_concat (h : Matches s b) (result : Except Exc EndorsedTX) :
    (s.awaited ++ [result]).length = b.started + 1 := by
  rw [List.length_append, h.started]
  rfl

/-- The task of the await has ended with what the await ended with. -/
theorem Matches.tasks_concat (h : Matches s b) (result : Except Exc EndorsedTX) (task : Nat) :
    Function.update b.tasks b.started (some (.ended result)) task =
      ((s.awaited ++ [result])[task]?).map Task.ended := by
  rw [← h.started]
  exact SharedBuilder.tasks_concat h.tasks result task

/-- When both loops raise, the queue and the list object keep their operations. -/
theorem Matches.conclude_error (h : Matches s b) (htrace : w.trace = w'.trace)
    (hagree : w.state.Agree w'.state) (hw : w.state.operations = s.world.state.operations)
    (hw' : w'.state.operations = b.world.state.operations) (e : Exc) :
    Matches { s with world := w, awaited := s.awaited ++ [.error e] }
      (conclude { b with started := b.started + 1 } b.started (.error e, w')) := by
  refine ⟨htrace, hagree, ?_, ?_, h.queued, h.started_concat _, h.tasks_concat _⟩
  · show w.state.operations = w'.state.operations.map b.listAt
    rw [hw, hw', h.operations]
  · intro list hlist
    exact h.valid list (hw' ▸ hlist)

/-- When both loops return, the queue and the list object are cleared. -/
theorem Matches.conclude_ok (h : Matches s b) (htrace : w.trace = w'.trace)
    (hagree : w.state.Agree w'.state) {list : ListRef} (hb : b.world.state.operations = some list)
    (hw' : w'.state.operations = some list) :
    Matches { s with
        world := w.update { w.state with operations := some [] }
        awaited := s.awaited ++ [w.state.awaited] }
      (conclude { b with started := b.started + 1 } b.started (.ok (), w')) := by
  have hvalid : list < b.lists.length := h.valid list hb
  have hawaited : w.state.awaited = w'.state.awaited := by
    rw [BuilderState.awaited, BuilderState.awaited, hagree.endorsed]
  have hfinish : conclude { b with started := b.started + 1 } b.started (.ok (), w') =
      setTask { b with world := w', started := b.started + 1, lists := b.lists.set list [] }
        b.started (.ended w'.state.awaited) := by
    simp only [conclude, settle, finish, hw']
  rw [hfinish, ← hawaited]
  refine ⟨htrace, ⟨hagree.endorsed, hagree.filtered, hagree.committed⟩, ?_, ?_, h.queued,
    h.started_concat _, h.tasks_concat _⟩
  · show some [] = w'.state.operations.map _
    rw [hw', Option.map_some]
    exact congrArg some (listAt_set hvalid []).symm
  · intro list' hlist'
    have heq : list' = list := Option.some.inj (hlist'.symm.trans hw')
    show list' < (b.lists.set list []).length
    rw [heq, List.length_set]
    exact hvalid

end Endings

/-- **An await keeps the match**: its task is started, and answered until it has run to its end. -/
theorem Matches.await {s : Session} {b : SharedBuilder} (h : Matches s b) :
    ∃ labels, Matches (s.step rt builder network .await) (b.run rt builder (.start :: labels)) := by
  have hstep : s.step rt builder network .await = { s with
      world := (Coro.run network (builder.runOperations rt) s.world).2
      awaited := s.awaited ++ [(Coro.run network (builder.runOperations rt) s.world).1] } := rfl
  rw [hstep]
  by_cases hempty : (b.world.state.operations.map b.listAt).getD [] = []
  · -- Without operations both raise at once.
    refine ⟨[], ?_⟩
    rw [run_runOperations_of_none rt builder network (h.operations ▸ hempty)]
    show Matches _ (b.start rt builder)
    rw [start_of_none rt builder hempty]
    exact ⟨h.trace, h.agree, h.operations, h.valid, h.queued, h.started_concat _, h.tasks_concat _⟩
  · rcases hb : b.world.state.operations with _ | list
    · exact absurd (by rw [hb]; rfl) hempty
    rcases hlist : b.listAt list with _ | ⟨first, rest⟩
    · exact absurd (by rw [hb, Option.map_some, hlist]; rfl) hempty
    have hs : s.world.state.operations = some (first :: rest) := by
      rw [h.operations, hb, Option.map_some, hlist]
    -- The loop of the session and that of the task do the same, and keep their lists.
    obtain ⟨hresult, hagree, htrace⟩ :=
      (alike_runLoop rt builder (first :: rest)).run network h.agree h.trace
    have hkept := (Coro.Ensures.run network s.world
      (ensures_runLoop_operations rt builder (first :: rest) s.world.state)).2
    have hkept' := (Coro.Ensures.run network b.world
      (ensures_runLoop_operations rt builder (first :: rest) b.world.state)).2
    obtain ⟨labels, hrun⟩ := exists_run_start rt builder network hb hlist
    refine ⟨labels, ?_⟩
    rw [hrun]
    rcases hloop : Coro.run network (builder.runLoop rt (first :: rest)) s.world with ⟨e | _, w⟩ <;>
      rcases hloop' : Coro.run network (builder.runLoop rt (first :: rest)) b.world with
        ⟨e' | _, w'⟩ <;>
      rw [hloop] at hresult hagree htrace hkept <;> rw [hloop'] at hresult hagree htrace hkept'
    · obtain rfl : e = e' := Except.error.inj hresult
      rw [run_runOperations_of_error rt builder network hs hloop]
      exact h.conclude_error htrace hagree hkept hkept' e
    · cases hresult
    · cases hresult
    · rw [run_runOperations_of_ok rt builder network hs hloop]
      exact h.conclude_ok htrace hagree hb ((show _ = _ from hkept').trans hb)

/-- **Sessions are interleavings**: the calls of a session lead to the state that some interleaving
leads a shared builder to, by induction on the calls. -/
theorem session_simulated (commands : List Command) {s : Session} {b : SharedBuilder}
    (h : Matches s b) :
    ∃ labels, Matches (s.run rt builder network commands) (b.run rt builder labels) := by
  induction commands generalizing s b with
  | nil => exact ⟨[], h⟩
  | cons command commands ih =>
      cases command with
      | queue kind =>
          obtain ⟨labels, hlabels⟩ := ih (h.queue rt builder network kind)
          exact ⟨.queue kind :: labels, hlabels⟩
      | await =>
          obtain ⟨labels, hawait⟩ := h.await rt builder network
          obtain ⟨labels', hlabels⟩ := ih hawait
          refine ⟨.start :: labels ++ labels', ?_⟩
          rw [run_append]
          exact hlabels

end SharedBuilder

/-- **The invariant of a builder holds in sessions**, since it holds in every interleaving. -/
theorem session_invariant (commands : List Command) :
    let w := (Session.new.run rt builder network commands).world
    (w.state.committed = true → w.state.endorsedTx.isSome = true) ∧
    (∀ tx, w.state.endorsedTx = some tx → tx.txId = builder.transaction.txId) ∧
    ComesAfter Event.IsBroadcast (Event.ProposeReturned builder.transaction) w.trace ∧
    ComesAfter Event.IsDeliver (Event.CommitReturned builder.transaction) w.trace := by
  intro w
  obtain ⟨labels, hmatches⟩ :=
    SharedBuilder.session_simulated rt builder network commands SharedBuilder.matches_new
  have hinv : BuilderInv rt builder (SharedBuilder.new.run rt builder labels).world :=
    (governed_run_new rt builder labels).world
  have htrace : w.trace = _ := hmatches.trace
  refine ⟨?_, ?_, ?_, ?_⟩
  · intro hcommitted
    rw [hmatches.agree.endorsed]
    exact (hinv.committed (hmatches.agree.committed ▸ hcommitted)).1
  · intro tx htx
    obtain ⟨rs, rfl, -⟩ := hinv.endorsed tx (hmatches.agree.endorsed ▸ htx)
    exact txId_endorsedFrom _ _
  · rw [htrace]
    exact hinv.broadcasts
  · rw [htrace]
    exact hinv.streams

end Snakeskin
