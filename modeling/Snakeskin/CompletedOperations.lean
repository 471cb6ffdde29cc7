import Snakeskin.BuilderRuns
import Snakeskin.BuiltMessages

/-! # Completed operations

An await runs the queued operations in order and clears the queue after the last one. An await that
raises leaves the whole queue, the operations that completed included, and the next await runs them
again. This file says exactly in which runs no completed operation is executed again. -/

namespace Snakeskin

open Wire

variable (rt : Runtime) (builder : GatewayTXBuilder) (network : Network)

/-! ## Repetitions -/

/-- The number of the operation that an event says is completed. -/
def Event.completedId : Event → Option Nat
  | .inr (.operationCompleted id) => some id
  | _ => none

/-- The number of the operation that an event says is started or completed. -/
def Event.operationId : Event → Option Nat
  | .inr (.operationStarted id) => some id
  | .inr (.operationCompleted id) => some id
  | _ => none

/-- A later event repeats an operation that an earlier one completed. -/
def Event.Repeats (earlier later : Event) : Prop :=
  earlier.completedId.isSome = true ∧ earlier.completedId = later.operationId

instance (earlier later : Event) : Decidable (Event.Repeats earlier later) :=
  inferInstanceAs (Decidable (_ ∧ _))

/-- A completed operation is never executed again: in the trace no operation is started or completed
after it has been completed. -/
def NeverExecutedAgain (trace : List Event) : Prop :=
  trace.Pairwise fun earlier later => ¬ earlier.Repeats later

instance (trace : List Event) : Decidable (NeverExecutedAgain trace) :=
  inferInstanceAs (Decidable (trace.Pairwise _))

/-- Then each operation completes at most once. -/
theorem NeverExecutedAgain.completed_once {trace : List Event} (h : NeverExecutedAgain trace)
    (id : Nat) :
    ¬ [.inr (.operationCompleted id), .inr (.operationCompleted id)].Sublist trace := by
  intro hsublist
  have hpair := List.Pairwise.sublist hsublist h
  rw [List.pairwise_pair] at hpair
  exact hpair ⟨rfl, rfl⟩

/-! ## The operation events of a loop -/

/-- The events of operations that return. -/
def doneEvents (done : List Operation) : List Event :=
  done.flatMap fun operation =>
    [.inr (.operationStarted operation.id), .inr (.operationCompleted operation.id)]

/-- The events of operations that return, and of the start of the next one if there is one. -/
def loopEvents (done rest : List Operation) : List Event :=
  doneEvents done ++ rest.head?.toList.map fun operation => .inr (.operationStarted operation.id)

/-- The sending of a proposal is no operation event. -/
theorem Event.IsProposal.operationId {e : Event} (h : e.IsProposal) : e.operationId = none := by
  rcases e with q | n
  · rfl
  · exact h.elim

/-- A broadcast is no operation event. -/
theorem Event.IsBroadcast.operationId {e : Event} (h : e.IsBroadcast) : e.operationId = none := by
  rcases e with q | n
  · rfl
  · exact h.elim

/-- What a wait operation emits is no operation event. -/
theorem Event.OfWait.operationId {e : Event} (h : Event.OfWait rt e) : e.operationId = none := by
  rcases e with q | n
  · rfl
  · exact (h.isRequest rt).elim False.elim False.elim

/-- An operation itself emits no operation event. -/
theorem ensures_operate_operationId {L : Type} (kind : OperationKind) (s : BuilderState L) :
    Coro.Ensures (fun e => Event.operationId e = none) (fun _ _ => True) (fun _ _ => True)
      (builder.operate rt kind) s := by
  -- What an operation sends is a request, and what it notes is about `propose_tx` and `commit_tx`.
  cases kind with
  | propose raiseErrors =>
      refine Coro.Ensures.mono ?_ (fun _ _ _ => trivial) (fun _ _ _ => trivial)
        (ensures_propose builder raiseErrors s)
      rintro e (h | ⟨rs, rfl⟩)
      · exact h.operationId
      · rfl
  | submit =>
      refine Coro.Ensures.mono ?_ (fun _ _ _ => trivial) (fun _ _ _ => trivial)
        (ensures_submit rt builder s)
      rintro e (h | ⟨tx, -, rfl | rfl⟩)
      · exact h.operationId
      · rfl
      · rfl
  | waitForCommit raiseErrors timeout =>
      exact Coro.Ensures.mono (fun _ h => h.operationId) (fun _ _ _ => trivial)
        (fun _ _ _ => trivial) (ensures_waitForCommit rt builder raiseErrors timeout s)

/-- **One turn of a loop**: the first operation is noted as started and runs. Either it raises, and
the loop with it; or it is noted as completed, and the loop goes on with the others. -/
theorem run_runLoop_cons {L : Type} (operation : Operation) (operations : List Operation)
    (w : World (BuilderState L)) {es : List Event}
    (htrace : (Coro.run network (builder.operate rt operation.kind)
      (w.record (.inr (.operationStarted operation.id)))).2.trace =
        (w.record (.inr (.operationStarted operation.id))).trace ++ es) :
    let run := Coro.run network (builder.operate rt operation.kind)
      (w.record (.inr (.operationStarted operation.id)))
    let loop := Coro.run network (builder.runLoop rt (operation :: operations)) w
    (∃ e, run.1 = .error e ∧ loop.1 = .error e ∧ loop.2.state = run.2.state ∧
      loop.2.trace = w.trace ++ .inr (.operationStarted operation.id) :: es) ∨
    ∃ next, run.1 = .ok () ∧ next.state = run.2.state ∧
      next.trace = w.trace ++ (.inr (.operationStarted operation.id) :: es ++
        [.inr (.operationCompleted operation.id)]) ∧
      loop = Coro.run network (builder.runLoop rt operations) next := by
  intro run loop
  have hloop : loop = Coro.run network (Coro.bind (builder.operate rt operation.kind) fun _ =>
      Coro.note (.operationCompleted operation.id) (builder.runLoop rt operations))
        (w.record (.inr (.operationStarted operation.id))) := rfl
  rw [Coro.run_bind] at hloop
  rw [Coro.World.trace_record, List.append_assoc, List.singleton_append] at htrace
  rcases hrun : run with ⟨e | ⟨⟩, w'⟩
  all_goals
    rw [show Coro.run network (builder.operate rt operation.kind)
      (w.record (.inr (.operationStarted operation.id))) = _ from hrun] at hloop htrace
    dsimp only at hloop htrace
  · rw [hloop]
    exact .inl ⟨e, rfl, rfl, rfl, htrace⟩
  · refine .inr ⟨w'.record (.inr (.operationCompleted operation.id)), rfl, rfl, ?_, hloop⟩
    rw [Coro.World.trace_record, htrace, List.append_assoc]

/-- **The run of a loop**: some operations return, and if not all do the next one raises. -/
theorem run_runLoop {L : Type} (operations : List Operation) (w : World (BuilderState L)) :
    let loop := Coro.run network (builder.runLoop rt operations) w
    ∃ done rest es, operations = done ++ rest ∧ loop.2.trace = w.trace ++ es ∧
      es.filter (fun e => (Event.operationId e).isSome) = loopEvents done rest ∧
      (loop.1 = .ok () ↔ rest = []) := by
  induction operations generalizing w with
  | nil => exact ⟨[], [], [], rfl, by simp [GatewayTXBuilder.runLoop], rfl, by
      simp [GatewayTXBuilder.runLoop]⟩
  | cons operation operations ih =>
      intro loop
      obtain ⟨⟨es, htrace, hes⟩, -⟩ := Coro.Ensures.run network
        (w.record (.inr (.operationStarted operation.id)))
        (ensures_operate_operationId rt builder operation.kind w.state)
      have hquiet : es.filter (fun e => (Event.operationId e).isSome) = [] := by
        rw [List.filter_eq_nil_iff]
        intro e he
        rw [hes e he]
        simp
      obtain ⟨e, -, herror, -, hends⟩ | ⟨next, -, -, hnext, hgo⟩ :=
        run_runLoop_cons rt builder network operation operations w htrace
      · -- The operation raises, and the loop ends there.
        refine ⟨[], operation :: operations, .inr (.operationStarted operation.id) :: es, rfl, hends,
          ?_, ?_⟩
        · rw [List.filter_cons_of_pos (by rfl), hquiet]
          rfl
        · rw [show loop.1 = _ from herror]
          simp
      · -- The operation returns, and the loop goes on with the others.
        obtain ⟨done, rest, es', hops, htrace', hes', hok⟩ := ih next
        rw [← hgo] at htrace' hok
        refine ⟨operation :: done, rest, .inr (.operationStarted operation.id) :: es ++
          .inr (.operationCompleted operation.id) :: es', by rw [hops, List.cons_append], ?_, ?_, hok⟩
        · rw [htrace', hnext]
          simp
        · rw [List.filter_append, List.filter_cons_of_pos (by rfl), hquiet,
            List.filter_cons_of_pos (by rfl), hes']
          rfl

/-- Only the events of the operations in hand are among those of a loop. -/
theorem operationId_of_mem_loopEvents {done rest : List Operation} {e : Event}
    (h : e ∈ loopEvents done rest) :
    ∃ operation ∈ done ++ rest, e.operationId = some operation.id := by
  rw [loopEvents, List.mem_append, doneEvents, List.mem_flatMap] at h
  rcases h with ⟨operation, hdone, he⟩ | h
  · refine ⟨operation, List.mem_append_left rest hdone, ?_⟩
    rw [List.mem_pair] at he
    rcases he with rfl | rfl <;> rfl
  · rw [List.mem_map] at h
    obtain ⟨operation, hrest, rfl⟩ := h
    -- The operation that raised has started.
    have hhead : rest.head? = some operation := by simpa using hrest
    exact ⟨operation, List.mem_append_right done (List.mem_of_head? hhead), rfl⟩

/-- The operations that a loop completes are those that return. -/
theorem completed_mem_loopEvents {done rest : List Operation} {id : Nat} :
    .inr (.operationCompleted id) ∈ loopEvents done rest ↔ ∃ operation ∈ done, operation.id = id := by
  rw [loopEvents, List.mem_append, doneEvents, List.mem_flatMap]
  constructor
  · rintro (⟨operation, hdone, he⟩ | h)
    · rw [List.mem_pair] at he
      rcases he with he | he
      · cases he
      · cases he
        exact ⟨operation, hdone, rfl⟩
    · rw [List.mem_map] at h
      obtain ⟨operation, -, he⟩ := h
      cases he
  · rintro ⟨operation, hdone, rfl⟩
    exact .inl ⟨operation, hdone, List.mem_pair.mpr (.inr rfl)⟩

/-- A loop starts with its first operation. -/
theorem started_mem_loopEvents {done rest tail : List Operation} {first : Operation}
    (h : first :: tail = done ++ rest) :
    .inr (.operationStarted first.id) ∈ loopEvents done rest := by
  rcases done with _ | ⟨operation, done⟩
  · rw [List.nil_append] at h
    rw [← h]
    exact List.mem_singleton_self _
  · rw [List.cons_append] at h
    cases h
    exact List.mem_cons_self

/-- Only the operation events of a trace matter. -/
theorem neverExecutedAgain_filter {trace : List Event} :
    NeverExecutedAgain (trace.filter fun e => (Event.operationId e).isSome) ↔
      NeverExecutedAgain trace := by
  unfold NeverExecutedAgain
  rw [List.pairwise_filter]
  constructor
  · intro h
    refine h.imp fun {a b} hab hrepeats => ?_
    obtain ⟨hsome, hid⟩ := hrepeats
    refine hab ?_ (hid ▸ hsome) ⟨hsome, hid⟩
    rcases a with q | (_ | _ | _ | _ | _)
    all_goals first | rfl | cases hsome
  · exact fun h => h.imp fun hab _ _ => hab

/-- A loop over operations with distinct numbers repeats none of them, by induction on those that
return. -/
theorem neverExecutedAgain_loopEvents {done rest : List Operation}
    (h : ((done ++ rest).map (·.id)).Nodup) : NeverExecutedAgain (loopEvents done rest) := by
  unfold NeverExecutedAgain
  induction done with
  | nil =>
      unfold loopEvents doneEvents
      rcases rest with _ | ⟨operation, rest⟩
      · exact List.Pairwise.nil
      · exact List.pairwise_singleton _ _
  | cons operation done ih =>
      rw [List.cons_append, List.map_cons, List.nodup_cons] at h
      have hevents : loopEvents (operation :: done) rest =
          .inr (.operationStarted operation.id) :: .inr (.operationCompleted operation.id) ::
            loopEvents done rest := rfl
      rw [hevents, List.pairwise_cons, List.pairwise_cons]
      refine ⟨?_, ?_, ih h.2⟩
      · -- A start completes nothing.
        rintro e - ⟨hsome, -⟩
        cases hsome
      · rintro e he ⟨-, hid⟩
        obtain ⟨other, hother, hotherId⟩ := operationId_of_mem_loopEvents he
        have hsame : operation.id = other.id := Option.some.inj (hid.trans hotherId)
        exact h.1 (hsame ▸ List.mem_map_of_mem hother)

/-! ## The invariant of a session -/

/-- The operation at the head of the queue, if there is one, has not completed yet. -/
def Session.HeadFresh (s : Session) : Prop :=
  ∀ operation ∈ s.queue.head?, .inr (.operationCompleted operation.id) ∉ s.world.trace

/-- What holds between two calls as long as every await starts with a fresh head: nothing was
executed again, operations are told apart by their numbers, and behind a fresh head nothing has
completed. -/
structure Session.Tidy (s : Session) : Prop where
  never : NeverExecutedAgain s.world.trace
  nodup : (s.queue.map (·.id)).Nodup
  queue_lt : ∀ operation ∈ s.queue, operation.id < s.queued
  trace_lt : ∀ e ∈ s.world.trace, ∀ id, Event.operationId e = some id → id < s.queued
  later : s.HeadFresh → ∀ operation ∈ s.queue,
    .inr (.operationCompleted operation.id) ∉ s.world.trace

/-- A new builder is tidy. -/
theorem Session.tidy_new : Session.new.Tidy where
  never := List.Pairwise.nil
  nodup := List.nodup_nil
  queue_lt _ h := nomatch h
  trace_lt _ h := nomatch h
  later _ _ h := nomatch h

/-- Queueing an operation keeps a session tidy. -/
theorem Session.Tidy.queue {s : Session} (h : s.Tidy) (kind : OperationKind) :
    (s.step rt builder network (.queue kind)).Tidy := by
  set s' := s.step rt builder network (.queue kind) with hs'
  have hqueue : s'.queue = s.queue ++ [⟨s.queued, kind⟩] :=
    s.queue_step_queue rt builder network kind
  have htrace : s'.world.trace = s.world.trace := s.trace_step_queue rt builder network kind
  have hqueued : s'.queued = s.queued + 1 := rfl
  -- The new operation has a number that nothing has had before.
  have hnew : .inr (.operationCompleted s.queued) ∉ s.world.trace := by
    intro hmem
    have hlt := h.trace_lt _ hmem s.queued rfl
    omega
  refine ⟨by rw [htrace]; exact h.never, ?_, ?_, ?_, ?_⟩
  · -- The numbers in the queue are below `s.queued`.
    rw [hqueue, List.map_append, List.nodup_append]
    refine ⟨h.nodup, List.nodup_singleton _, ?_⟩
    intro id hid id' hid'
    obtain ⟨operation, hoperation, rfl⟩ := List.mem_map.mp hid
    obtain rfl : id' = s.queued := by simpa using hid'
    have hlt := h.queue_lt operation hoperation
    omega
  · intro operation hoperation
    rw [hqueue, List.mem_append, List.mem_singleton] at hoperation
    rw [hqueued]
    rcases hoperation with hold | rfl
    · have hlt := h.queue_lt operation hold
      omega
    · exact Nat.lt_succ_self _
  · intro e he id hid
    rw [htrace] at he
    have hlt := h.trace_lt e he id hid
    omega
  · intro hfresh operation hoperation
    rw [hqueue, List.mem_append, List.mem_singleton] at hoperation
    rw [htrace]
    -- An older operation: the head of the queue is the same as before, and fresh.
    rcases hoperation with hold | rfl
    · refine h.later ?_ operation hold
      intro first hfirst
      have hfirst' : first ∈ s'.queue.head? := by
        rw [hqueue, List.head?_append_of_ne_nil _ (List.ne_nil_of_mem hold)]
        exact hfirst
      have := hfresh first hfirst'
      rwa [htrace] at this
    · exact hnew

section Loops

variable {s : Session} {done rest : List Operation} {es : List Event}

/-- The operation events of an await are those of its loop. -/
theorem mem_loopEvents_of_isSome
    (hevents : (es.filter fun e => (Event.operationId e).isSome) = loopEvents done rest) {e : Event}
    (he : e ∈ es) (hsome : (Event.operationId e).isSome = true) : e ∈ loopEvents done rest := by
  rw [← hevents]
  exact List.mem_filter.mpr ⟨he, hsome⟩

/-- A loop over the queue of a tidy session with a fresh head executes nothing again. -/
theorem Session.Tidy.never_append (h : s.Tidy) (hfresh : s.HeadFresh) (hops : s.queue = done ++ rest)
    (hevents : (es.filter fun e => (Event.operationId e).isSome) = loopEvents done rest) :
    NeverExecutedAgain (s.world.trace ++ es) := by
  rw [NeverExecutedAgain, List.pairwise_append]
  refine ⟨h.never, ?_, ?_⟩
  · -- The loop goes through the queue once, and the numbers in it are distinct.
    apply neverExecutedAgain_filter.mp
    rw [hevents]
    exact neverExecutedAgain_loopEvents (hops ▸ h.nodup)
  · -- What completed before is not in the queue any more.
    rintro a ha b hb ⟨hsome, hid⟩
    obtain ⟨operation, hoperation, hoperationId⟩ :=
      operationId_of_mem_loopEvents (mem_loopEvents_of_isSome hevents hb (hid ▸ hsome))
    have hcompleted : a = .inr (.operationCompleted operation.id) := by
      rw [hoperationId] at hid
      rcases a with q | (_ | _ | _ | _ | _)
      all_goals cases hid
      rfl
    exact h.later hfresh operation (hops ▸ hoperation) (hcompleted ▸ ha)

/-- Where a loop keeps its queue with a fresh head, it has completed nothing. -/
theorem done_eq_nil_of_headFresh {trace : List Event} (hfresh : s.HeadFresh)
    (hops : s.queue = done ++ rest) (htrace : s.world.trace = trace ++ es)
    (hevents : (es.filter fun e => (Event.operationId e).isSome) = loopEvents done rest) :
    done = [] := by
  rcases done with _ | ⟨first, done⟩
  · rfl
  · have hhead : first ∈ s.queue.head? := by
      rw [hops]
      rfl
    have hin : .inr (.operationCompleted first.id) ∈
        es.filter fun e => (Event.operationId e).isSome := by
      rw [hevents]
      exact completed_mem_loopEvents.mpr ⟨first, List.mem_cons_self, rfl⟩
    refine absurd ?_ (hfresh first hhead)
    rw [htrace]
    exact List.mem_append_right _ (List.mem_filter.mp hin).1

end Loops

/-- **An await that starts with a fresh head** keeps a session tidy: it completes operations that
have not completed, and what it leaves in the queue is fresh, or starts with a completed
operation. -/
theorem Session.Tidy.await {s : Session} (h : s.Tidy) (hfresh : s.HeadFresh) :
    (s.step rt builder network .await).Tidy := by
  set s' := s.step rt builder network .await with hs'
  obtain ⟨hqueued, htrace, -, hqueue⟩ := s.step_await rt builder network
  obtain ⟨done, rest, es, hops, hes, hevents, -⟩ := run_runLoop rt builder network s.queue s.world
  rw [hes] at htrace
  -- The queue is kept or cleared.
  have hkept : s'.queue = s.queue ∨ s'.queue = [] :=
    hqueue.imp (fun h => h.2) fun h => h.2
  have hsub : ∀ operation ∈ s'.queue, operation ∈ s.queue := by
    rcases hkept with hkept | hcleared
    · exact fun _ hmem => hkept ▸ hmem
    · rw [hcleared]
      exact fun _ h => nomatch h
  refine ⟨?_, ?_, ?_, ?_, ?_⟩
  · rw [htrace]
    exact h.never_append hfresh hops hevents
  · rcases hkept with hkept | hcleared
    · rw [hkept]
      exact h.nodup
    · rw [hcleared]
      exact List.nodup_nil
  · intro operation hoperation
    rw [hqueued]
    exact h.queue_lt operation (hsub operation hoperation)
  · intro e he id hid
    rw [hqueued]
    rw [htrace, List.mem_append] at he
    rcases he with hold | hnew
    · exact h.trace_lt e hold id hid
    · obtain ⟨operation, hoperation, hoperationId⟩ := operationId_of_mem_loopEvents
        (mem_loopEvents_of_isSome hevents hnew (by rw [hid]; rfl))
      obtain rfl : id = operation.id := Option.some.inj (hid.symm.trans hoperationId)
      exact h.queue_lt operation (hops ▸ hoperation)
  · intro hfresh' operation hoperation hcompleted
    rcases hkept with hkept | hcleared
    swap
    · rw [hcleared] at hoperation
      cases hoperation
    rw [htrace, List.mem_append] at hcompleted
    rcases hcompleted with hold | hnew
    · exact h.later hfresh operation (hsub operation hoperation) hold
    · -- A fresh head was not completed by this await, so nothing was.
      have hdone := done_eq_nil_of_headFresh hfresh' (hkept.trans hops) htrace hevents
      obtain ⟨other, hother, -⟩ :=
        completed_mem_loopEvents.mp (mem_loopEvents_of_isSome hevents hnew rfl)
      rw [hdone] at hother
      cases hother

/-- A run only adds to the trace. -/
theorem Session.trace_prefix_run (s : Session) (commands : List Command) :
    s.world.trace <+: (s.run rt builder network commands).world.trace := by
  induction commands generalizing s with
  | nil => exact List.prefix_rfl
  | cons command commands ih =>
      rw [Session.run_cons]
      refine List.IsPrefix.trans ?_ (ih _)
      cases command with
      | queue kind => exact List.prefix_rfl
      | await => exact Coro.trace_prefix_run network (builder.runOperations rt) s.world

/-- An await that starts with a completed operation at the head starts it again, and this stays in
the trace. -/
theorem not_neverExecutedAgain_of_await {s : Session} (h : ¬ s.HeadFresh) {trace : List Event}
    (hextends : (s.step rt builder network .await).world.trace <+: trace) :
    ¬ NeverExecutedAgain trace := by
  intro hnever
  obtain ⟨-, htrace, -, -⟩ := s.step_await rt builder network
  obtain ⟨done, rest, es, hops, hes, hevents, -⟩ := run_runLoop rt builder network s.queue s.world
  rw [htrace, hes] at hextends
  -- Every event of this await comes after the completion of the head.
  have hpairs := (List.pairwise_append.mp (List.Pairwise.sublist hextends.sublist hnever)).2.2
  unfold Session.HeadFresh at h
  push Not at h
  obtain ⟨first, hfirst, hcompleted⟩ := h
  obtain ⟨tail, hqueue⟩ := List.head?_eq_some_iff.mp hfirst
  have hstarted : .inr (.operationStarted first.id) ∈
      es.filter fun e => (Event.operationId e).isSome := by
    rw [hevents]
    exact started_mem_loopEvents (hqueue ▸ hops)
  exact hpairs _ hcompleted _ (List.mem_filter.mp hstarted).1 ⟨rfl, rfl⟩

/-- **When a completed operation is never executed again**: exactly when every await starts while
the operation at the head of the queue has not completed, that is, when the builder is not awaited
again after an await that failed past its first operation. -/
theorem neverExecutedAgain_iff (commands : List Command) :
    NeverExecutedAgain (Session.new.run rt builder network commands).world.trace ↔
      Session.EveryAwait rt builder network Session.HeadFresh Session.new commands := by
  suffices h : ∀ s : Session, s.Tidy →
      (NeverExecutedAgain (s.run rt builder network commands).world.trace ↔
        Session.EveryAwait rt builder network Session.HeadFresh s commands) from
    h _ Session.tidy_new
  induction commands with
  | nil => exact fun s hs => ⟨fun _ => trivial, fun _ => hs.never⟩
  | cons command commands ih =>
      intro s hs
      rw [Session.run_cons]
      cases command with
      | queue kind => exact ih _ (hs.queue rt builder network kind)
      | await =>
          by_cases hfresh : s.HeadFresh
          · rw [ih _ (hs.await rt builder network hfresh)]
            exact ⟨fun h => ⟨hfresh, h⟩, fun h => h.2⟩
          · -- The completed operation at the head is started again by this await.
            refine ⟨fun hnever => absurd hnever ?_, fun h => absurd h.1 hfresh⟩
            exact not_neverExecutedAgain_of_await rt builder network hfresh
              ((s.step rt builder network .await).trace_prefix_run rt builder network commands)

/-- A network in which every peer endorses and no orderer can be reached. -/
def unreachableOrderers : Network
  | _, .entropy => ([9], {})
  | _, .processProposals _ _ => ⟨fun _ => .ok { response := { status := 200 } }, fun _ => 0⟩
  | _, .broadcast _ _ => ⟨[], .rpcError ⟨14, "unavailable"⟩⟩
  | _, .deliverFiltered _ _ => ⟨[], .closed⟩
  | _, .deliver _ _ => ⟨[], .closed⟩

/-- The proposal completes, the submission fails, and awaiting the builder once more sends the
proposal again. -/
theorem proposal_executed_again :
    ∃ tx, buildGeneratedTx (wireRuntime id) keyedUser "cc" [[1]] (some ⟨"channel"⟩) none [9] {} =
        .ok tx ∧
      let trace := (Session.new.run (wireRuntime id) ⟨keyedGateway, tx⟩ unreachableOrderers
        [.queue (.propose true), .queue .submit, .await, .await]).world.trace
      ¬ NeverExecutedAgain trace ∧
      (Coro.requests trace).count
        (.processProposals tx.signedProposal keyedGateway.endorsingPeers) = 2 :=
  ⟨_, rfl, by decide +kernel, by decide +kernel⟩

end Snakeskin
