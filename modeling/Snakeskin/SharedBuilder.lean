import Snakeskin.Gateway
import Snakeskin.Library.RelyGuarantee

/-! # Builders shared by tasks

Any number of tasks may await one builder, and operations may be queued on it meanwhile. A task runs
from one suspension to the next without interruption; while it is suspended the others run. The list
of operations is a Python object: a task iterates over the object that it found when it started, as
that object is at the time, and `_add_operation` may have put another object in its place.

* `SharedBuilder` — the state: the builder, the list objects, the tasks.
* `SharedBuilder.step` — a queueing call, or a task starting, resuming, or being cancelled.
* `Governs` — the operations of a builder keep to a discipline; then so does every interleaving,
  `SharedBuilder.Governed.run`. -/

namespace Snakeskin

variable (rt : Runtime) (builder : GatewayTXBuilder)

/-! ## Tasks -/

/-- A reference to a list object. -/
abbrev ListRef := Nat

/-- A task that waits for an answer: the operation that waits, and where the loop over the
operations stands. -/
structure Frame where
  /-- The list object that the loop iterates over. -/
  list : ListRef
  /-- The index at which the iteration goes on. -/
  next : Nat
  /-- The number of the operation that waits. -/
  operation : Nat
  /-- What it waits for. -/
  request : Request
  /-- How it goes on. -/
  resume : Answer request → Async (BuilderState ListRef) Unit

/-- A task that awaits a builder. -/
inductive Task where
  | suspended (frame : Frame)
  | ended (result : Except Exc EndorsedTX)

/-- How the loop over the operations goes until it waits or ends. -/
inductive Progress where
  | suspended (frame : Frame) (w : World (BuilderState ListRef))
  | raised (e : Exc) (w : World (BuilderState ListRef))
  | finished (w : World (BuilderState ListRef))

/-- What a segment of an operation leads to: when the operation has returned the loop goes on, and
when it waits so does the task. -/
def Progress.ofOutcome (list : ListRef) (next operation : Nat)
    (loop : World (BuilderState ListRef) → Progress) :
    Coro.Outcome (BuilderState ListRef) Request Answer Note Exc Unit → Progress
  -- Returning is no suspension: the next operation starts in the same segment.
  | .returned _ w => loop (w.record (.inr (.operationCompleted operation)))
  | .raised e w => .raised e w
  | .suspended request resume w => .suspended { list, next, operation, request, resume } w

/-- The loop of `_run_operations` from an index on, given the operations that are in the list object
from there on. Nobody changes the list while the loop runs. -/
def runFrom (list : ListRef) : (index : Nat) → List Operation → World (BuilderState ListRef) → Progress
  | _, [], w => .finished w
  | index, operation :: operations, w =>
      .ofOutcome list (index + 1) operation.id (runFrom list (index + 1) operations)
        ((builder.operate rt operation.kind).segment
          (w.record (.inr (.operationStarted operation.id))))

/-- A task goes on with an answer: the operation that waited, and then the operations that are in
its list object by now. -/
def Frame.proceed (frame : Frame) (answer : Answer frame.request) (live : List Operation)
    (w : World (BuilderState ListRef)) : Progress :=
  .ofOutcome frame.list frame.next frame.operation
    (runFrom rt builder frame.list frame.next (live.drop frame.next))
    ((frame.resume answer).segment w)

/-! ## The shared builder -/

/-- A builder shared by tasks. -/
structure SharedBuilder where
  /-- The attributes of the builder, and the trace of what all tasks did. -/
  world : World (BuilderState ListRef)
  /-- The list objects made so far. -/
  lists : List (List Operation)
  /-- How many operations were queued so far. -/
  queued : Nat
  /-- The tasks, by number. -/
  tasks : Nat → Option Task
  /-- How many tasks were started so far. -/
  started : Nat

namespace SharedBuilder

/-- A new builder. -/
def new : SharedBuilder := ⟨⟨{}, []⟩, [], 0, fun _ => none, 0⟩

/-- The operations in a list object. -/
def listAt (s : SharedBuilder) (list : ListRef) : List Operation := s.lists.getD list []

/-- Record how a task stands. -/
def setTask (s : SharedBuilder) (task : Nat) (status : Task) : SharedBuilder :=
  { s with tasks := Function.update s.tasks task (some status) }

/-- `_add_operation`: appends to the list object in place when it has operations, and makes a new
list object otherwise. -/
def addOperation (s : SharedBuilder) (kind : OperationKind) : SharedBuilder :=
  let operation : Operation := ⟨s.queued, kind⟩
  let inNewList : SharedBuilder := { s with
    world := s.world.update { s.world.state with operations := some s.lists.length }
    lists := s.lists ++ [[operation]]
    queued := s.queued + 1 }
  match s.world.state.operations with
  | some list =>
      -- In place: a task that iterates over this object will see the operation.
      if s.listAt list ≠ [] then
        { s with lists := s.lists.set list (s.listAt list ++ [operation]), queued := s.queued + 1 }
      -- An empty list is false to Python, also one that a finished await has cleared.
      else inNewList
  | none => inNewList

/-- The end of a loop that ran all its operations: it clears the list object that the builder refers
to by now, and returns the endorsed transaction. -/
def finish (s : SharedBuilder) (task : Nat) : SharedBuilder :=
  match s.world.state.operations with
  | some list =>
      -- Not always the object that the task iterated over: `_add_operation` may have replaced it.
      setTask { s with lists := s.lists.set list [] } task (.ended s.world.state.awaited)
  | none =>
      s.setTask task (.ended (.error (.attributeError "'NoneType' object has no attribute 'clear'")))

/-- What the progress of a task makes of the builder. -/
def settle (s : SharedBuilder) (task : Nat) : Progress → SharedBuilder
  | .suspended frame w => setTask { s with world := w } task (.suspended frame)
  | .raised e w => setTask { s with world := w } task (.ended (.error e))
  | .finished w => finish { s with world := w } task

/-- A new task awaits the builder, and runs up to its first suspension. -/
def start (s : SharedBuilder) : SharedBuilder :=
  let s' := { s with started := s.started + 1 }
  let neverProposed := Task.ended (.error (.blockchainError "Transaction never proposed"))
  match s.world.state.operations with
  | some list =>
      match s.listAt list with
      | [] => s'.setTask s.started neverProposed
      -- The loop iterates over this object, whatever the builder refers to later.
      | operations => s'.settle s.started (runFrom rt builder list 0 operations s.world)
  | none => s'.setTask s.started neverProposed

/-- A suspended task is answered, and runs up to its next suspension. -/
def resume (s : SharedBuilder) (task : Nat) (answer : (request : Request) → Answer request) :
    SharedBuilder :=
  match s.tasks task with
  | some (.suspended frame) =>
      s.settle task (frame.proceed rt builder (answer frame.request) (s.listAt frame.list) s.world)
  | _ => s

/-- A suspended task is cancelled. No operation catches a cancellation, so it goes no further. -/
def cancel (s : SharedBuilder) (task : Nat) : SharedBuilder :=
  match s.tasks task with
  | some (.suspended _) => s.setTask task (.ended (.error .cancelledError))
  | _ => s

/-- What happens to a shared builder. -/
inductive Label where
  /-- Somebody calls a queueing method. -/
  | queue (kind : OperationKind)
  /-- A new task awaits the builder. -/
  | start
  /-- A task is answered. -/
  | resume (task : Nat) (answer : (request : Request) → Answer request)
  /-- A task is cancelled. -/
  | cancel (task : Nat)

/-- One step; nothing happens to a task that is not suspended. -/
def step (s : SharedBuilder) : Label → SharedBuilder
  | .queue kind => s.addOperation kind
  | .start => s.start rt builder
  | .resume task answer => s.resume rt builder task answer
  | .cancel task => s.cancel task

/-- An interleaving: any number of steps, in any order. -/
def run (s : SharedBuilder) (labels : List Label) : SharedBuilder :=
  labels.foldl (step rt builder) s

theorem run_cons (s : SharedBuilder) (label : Label) (labels : List Label) :
    s.run rt builder (label :: labels) = (s.step rt builder label).run rt builder labels := rfl

theorem run_append (s : SharedBuilder) (labels₁ labels₂ : List Label) :
    s.run rt builder (labels₁ ++ labels₂) = (s.run rt builder labels₁).run rt builder labels₂ :=
  List.foldl_append

/-! ## Disciplines of a shared builder -/

/-- A discipline of the attributes of a builder. -/
abbrev BuilderDiscipline := Coro.Discipline (BuilderState ListRef) Request Note

end SharedBuilder

open SharedBuilder (BuilderDiscipline)

/-- A discipline governs a builder when its operations keep to it, and so do the events of the loop
and the changes of the list of operations. -/
structure Governs (D : BuilderDiscipline) : Prop where
  trace : ∀ w w', D.rely w w' → w.trace <+: w'.trace
  loopEvent : ∀ w n, (∃ id, n = .operationStarted id ∨ n = .operationCompleted id) → D.inv w →
    D.rely w (w.record (.inr n)) ∧ D.inv (w.record (.inr n))
  setOperations : ∀ w operations, D.inv w →
    D.rely w (w.update { w.state with operations }) ∧
      D.inv (w.update { w.state with operations })
  operate : ∀ kind w, D.inv w →
    Coro.Safe D (fun _ _ => True) (fun _ _ => True) (builder.operate rt kind) w

variable {D : BuilderDiscipline}

/-- A task may be resumed in any world that the others may have moved to. -/
def Frame.Safe (D : BuilderDiscipline) (frame : Frame) (w : World (BuilderState ListRef)) : Prop :=
  ∀ answer w', D.rely w w' → D.inv w' →
    Coro.Safe D (fun _ _ => True) (fun _ _ => True) (frame.resume answer) w'

/-- A progress from a world keeps to a discipline. -/
def Progress.Safe (D : BuilderDiscipline) (w : World (BuilderState ListRef)) : Progress → Prop
  | .suspended frame w' =>
      D.inv w' ∧ D.rely w w' ∧ .inl frame.request ∈ w'.trace ∧ frame.Safe D w'
  | .raised _ w' => D.inv w' ∧ D.rely w w'
  | .finished w' => D.inv w' ∧ D.rely w w'

/-- It may be seen from any earlier world. -/
theorem Progress.Safe.of_rely {w₀ w : World (BuilderState ListRef)} (h₀ : D.rely w₀ w)
    {progress : Progress} (h : progress.Safe D w) : progress.Safe D w₀ := by
  cases progress with
  | suspended frame w' => exact ⟨h.1, D.rely_trans h₀ h.2.1, h.2.2⟩
  | raised e w' => exact ⟨h.1, D.rely_trans h₀ h.2⟩
  | finished w' => exact ⟨h.1, D.rely_trans h₀ h.2⟩

variable {rt builder}

/-- After a segment that keeps to the discipline the task does, provided that its loop does. -/
theorem Governs.ofOutcome (hD : Governs rt builder D) {c : Async (BuilderState ListRef) Unit}
    {w : World (BuilderState ListRef)}
    (hc : Coro.Safe D (fun _ _ => True) (fun _ _ => True) c w) (list : ListRef)
    (next operation : Nat) {loop : World (BuilderState ListRef) → Progress}
    (hloop : ∀ w', D.inv w' → (loop w').Safe D w') :
    (Progress.ofOutcome list next operation loop (c.segment w)).Safe D w := by
  have hsegment := hc.segment
  rcases houtcome : c.segment w with ⟨_, w'⟩ | ⟨e, w'⟩ | ⟨request, resume, w'⟩ <;>
    rw [houtcome] at hsegment
  · -- The operation has returned, and the loop goes on from there.
    obtain ⟨hinv, hrely, -⟩ := hsegment
    obtain ⟨hrely', hinv'⟩ := hD.loopEvent w' (.operationCompleted operation) ⟨_, .inr rfl⟩ hinv
    exact (hloop _ hinv').of_rely (D.rely_trans hrely hrely')
  · exact ⟨hsegment.1, hsegment.2.1⟩
  · -- The operation waits, and may be resumed wherever the others lead.
    exact ⟨hsegment.1, hsegment.2.1, Coro.mem_trace_of_segment houtcome, hsegment.2.2⟩

/-- The loop keeps to the discipline, by induction on the operations that are left. -/
theorem Governs.runFrom (hD : Governs rt builder D) (list : ListRef) (operations : List Operation)
    (index : Nat) (w : World (BuilderState ListRef)) (hw : D.inv w) :
    (runFrom rt builder list index operations w).Safe D w := by
  induction operations generalizing index w with
  | nil => exact ⟨hw, D.rely_refl w⟩
  | cons operation operations ih =>
      obtain ⟨hrely, hinv⟩ := hD.loopEvent w (.operationStarted operation.id) ⟨_, .inl rfl⟩ hw
      exact (hD.ofOutcome (hD.operate operation.kind _ hinv) list (index + 1) operation.id
        (ih (index + 1))).of_rely hrely

/-- So does a task that goes on. -/
theorem Governs.proceed (hD : Governs rt builder D) {frame : Frame}
    {w : World (BuilderState ListRef)} (hw : D.inv w) (hframe : frame.Safe D w)
    (answer : Answer frame.request) (live : List Operation) :
    (frame.proceed rt builder answer live w).Safe D w := by
  have hresume : Coro.Safe D (fun _ _ => True) (fun _ _ => True) (frame.resume answer) w :=
    hframe answer w (D.rely_refl w) hw
  apply hD.ofOutcome hresume
  intro w' hw'
  exact hD.runFrom frame.list (live.drop frame.next) frame.next w' hw'

namespace SharedBuilder

/-- **The invariant of a shared builder under a discipline**: the world is in order, and every
suspended task may be resumed and has made the request that it waits for. -/
structure Governed (D : BuilderDiscipline) (s : SharedBuilder) : Prop where
  world : D.inv s.world
  frames : ∀ task frame, s.tasks task = some (.suspended frame) →
    .inl frame.request ∈ s.world.trace ∧ frame.Safe D s.world

/-- A step that keeps to the discipline keeps the invariant, provided that a task it leaves
suspended was so before or may be resumed. -/
theorem Governed.move {s s' : SharedBuilder} (hD : Governs rt builder D) (h : s.Governed D)
    (hinv : D.inv s'.world) (hrely : D.rely s.world s'.world)
    (htasks : ∀ task frame, s'.tasks task = some (.suspended frame) →
      s.tasks task = some (.suspended frame) ∨
        .inl frame.request ∈ s'.world.trace ∧ frame.Safe D s'.world) :
    s'.Governed D := by
  refine ⟨hinv, fun task frame htask => ?_⟩
  rcases htasks task frame htask with hbefore | hnew
  · -- A task suspended before may be resumed later too, since the world moved along `rely`.
    obtain ⟨hrequest, hframe⟩ := h.frames task frame hbefore
    refine ⟨(hD.trace _ _ hrely).subset hrequest, ?_⟩
    intro answer w' hrely' hinv'
    exact hframe answer w' (D.rely_trans hrely hrely') hinv'
  · exact hnew

/-- What one task is set to does not concern the others. -/
theorem suspended_of_update {tasks : Nat → Option Task} {task task' : Nat} {status : Task}
    {frame : Frame}
    (h : Function.update tasks task (some status) task' = some (.suspended frame)) :
    status = .suspended frame ∨ tasks task' = some (.suspended frame) := by
  by_cases heq : task' = task
  · rw [heq, Function.update_self] at h
    exact .inl (Option.some.inj h)
  · rw [Function.update_of_ne heq] at h
    exact .inr h

/-- A task that ends leaves the invariant. -/
theorem Governed.setTask_ended {s : SharedBuilder} (h : s.Governed D) (task : Nat)
    (result : Except Exc EndorsedTX) : (s.setTask task (.ended result)).Governed D := by
  refine ⟨h.world, fun task' frame htask => ?_⟩
  rcases suspended_of_update htask with hended | hbefore
  · cases hended
  · exact h.frames task' frame hbefore

/-- The end of a loop leaves the invariant, and does not touch the attributes. -/
theorem Governed.finish {s : SharedBuilder} (hD : Governs rt builder D) (h : s.Governed D)
    (task : Nat) : (s.finish task).Governed D ∧ (s.finish task).world = s.world := by
  unfold SharedBuilder.finish
  split
  · have hcleared : ∀ lists, SharedBuilder.Governed D { s with lists } :=
      fun _ => h.move hD h.world (D.rely_refl _) fun _ _ htask => .inl htask
    exact ⟨(hcleared _).setTask_ended task _, rfl⟩
  · exact ⟨h.setTask_ended task _, rfl⟩

/-- The progress of a task keeps the invariant and moves along `rely`. -/
theorem Governed.settle {s : SharedBuilder} (hD : Governs rt builder D) (h : s.Governed D)
    (task : Nat) {progress : Progress} (hprogress : progress.Safe D s.world) :
    (s.settle task progress).Governed D ∧ D.rely s.world (s.settle task progress).world := by
  cases progress with
  | suspended frame w =>
      obtain ⟨hinv, hrely, hrequest, hframe⟩ := hprogress
      refine ⟨h.move hD hinv hrely fun task' frame' htask => ?_, hrely⟩
      -- The task of this step, or another one that was suspended before.
      rcases suspended_of_update htask with hsuspended | hbefore
      · cases hsuspended
        exact .inr ⟨hrequest, hframe⟩
      · exact .inl hbefore
  | raised e w =>
      obtain ⟨hinv, hrely⟩ := hprogress
      have hmoved : SharedBuilder.Governed D { s with world := w } :=
        h.move hD hinv hrely fun _ _ htask => .inl htask
      exact ⟨hmoved.setTask_ended task _, hrely⟩
  | finished w =>
      obtain ⟨hinv, hrely⟩ := hprogress
      have hmoved : SharedBuilder.Governed D { s with world := w } :=
        h.move hD hinv hrely fun _ _ htask => .inl htask
      obtain ⟨hfinish, hworld⟩ := hmoved.finish hD task
      refine ⟨hfinish, ?_⟩
      show D.rely s.world (SharedBuilder.finish { s with world := w } task).world
      rw [hworld]
      exact hrely

/-- **Every step of a governed builder** keeps the invariant and moves along `rely`. -/
theorem Governed.step {s : SharedBuilder} (hD : Governs rt builder D) (h : s.Governed D)
    (label : Label) :
    (s.step rt builder label).Governed D ∧ D.rely s.world (s.step rt builder label).world := by
  cases label with
  | queue kind =>
      -- The attributes change only where a new list object is made.
      show (s.addOperation kind).Governed D ∧ D.rely s.world (s.addOperation kind).world
      have hkept : ∀ lists, SharedBuilder.Governed D { s with lists, queued := s.queued + 1 } :=
        fun _ => h.move hD h.world (D.rely_refl _) fun _ _ htask => .inl htask
      obtain ⟨hrely, hinv⟩ := hD.setOperations s.world (some s.lists.length) h.world
      unfold addOperation
      cases s.world.state.operations with
      | some list =>
          dsimp only
          split
          · exact ⟨hkept _, D.rely_refl _⟩
          · exact ⟨h.move hD hinv hrely fun _ _ htask => .inl htask, hrely⟩
      | none => exact ⟨h.move hD hinv hrely fun _ _ htask => .inl htask, hrely⟩
  | start =>
      show (s.start rt builder).Governed D ∧ D.rely s.world (s.start rt builder).world
      have hstarted : SharedBuilder.Governed D { s with started := s.started + 1 } :=
        h.move hD h.world (D.rely_refl _) fun _ _ htask => .inl htask
      unfold start
      cases s.world.state.operations with
      | some list =>
          dsimp only
          split
          · exact ⟨hstarted.setTask_ended _ _, D.rely_refl _⟩
          · exact hstarted.settle hD _ (hD.runFrom _ _ _ _ h.world)
      | none => exact ⟨hstarted.setTask_ended _ _, D.rely_refl _⟩
  | resume task answer =>
      show (s.resume rt builder task answer).Governed D ∧
        D.rely s.world (s.resume rt builder task answer).world
      unfold resume
      split
      · rename_i frame htask
        exact h.settle hD task (hD.proceed h.world (h.frames task frame htask).2 _ _)
      · exact ⟨h, D.rely_refl _⟩
  | cancel task =>
      show (s.cancel task).Governed D ∧ D.rely s.world (s.cancel task).world
      unfold cancel
      split
      · exact ⟨h.setTask_ended _ _, D.rely_refl _⟩
      · exact ⟨h, D.rely_refl _⟩

/-- **Every interleaving of a governed builder** keeps the invariant and moves along `rely`, by
induction on its steps. -/
theorem Governed.run {s : SharedBuilder} (hD : Governs rt builder D) (h : s.Governed D)
    (labels : List Label) :
    (s.run rt builder labels).Governed D ∧ D.rely s.world (s.run rt builder labels).world := by
  induction labels generalizing s with
  | nil => exact ⟨h, D.rely_refl _⟩
  | cons label labels ih =>
      obtain ⟨hstep, hrely⟩ := h.step hD label
      obtain ⟨hrun, hrely'⟩ := ih hstep
      rw [run_cons]
      exact ⟨hrun, D.rely_trans hrely hrely'⟩

/-- A new builder is governed by a discipline that holds of its world. -/
theorem governed_new (hinv : D.inv new.world) : new.Governed D :=
  ⟨hinv, fun _ _ htask => nomatch htask⟩

end SharedBuilder

end Snakeskin
