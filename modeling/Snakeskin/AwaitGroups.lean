import Snakeskin.CompletedOperations
import Snakeskin.FullEndorsement
import Snakeskin.OneTask

/-! # Grouping the awaits of a builder

A task may queue all its operations and await the builder once, or await it after every few of them.
While no operation raises, both come to the same: each is the one loop over all the operations, cut
in places. -/

namespace Snakeskin

variable (rt : Runtime) (builder : GatewayTXBuilder) (network : Network)

/-! ## Groups -/

/-- Operations of some kinds, numbered from a number on. -/
def numbered (start : Nat) (kinds : List OperationKind) : List Operation :=
  (kinds.zipIdx start).map fun k => ⟨k.2, k.1⟩

/-- Numbering goes on after the first part. -/
theorem numbered_append (start : Nat) (kinds kinds' : List OperationKind) :
    numbered start (kinds ++ kinds') =
      numbered start kinds ++ numbered (start + kinds.length) kinds' := by
  rw [numbered, List.zipIdx_append, List.map_append]
  rfl

/-- The calls of a task that queues the operations of one group after another, and awaits each. -/
def groupCommands : List (List OperationKind) → List Command
  | [] => []
  | group :: groups => group.map .queue ++ .await :: groupCommands groups

/-- No operation that the next await runs raises. -/
def Session.RunsThrough (s : Session) : Prop :=
  (Coro.run network (builder.runLoop rt s.queue) s.world).1 = .ok ()

/-- A run of two parts. -/
theorem Session.run_append (s : Session) (commands commands' : List Command) :
    s.run rt builder network (commands ++ commands') =
      (s.run rt builder network commands).run rt builder network commands' :=
  List.foldl_append

/-- Queueing a group appends its operations to the queue, and does nothing else. -/
theorem Session.run_queues (s : Session) (kinds : List OperationKind) :
    let s' := s.run rt builder network (kinds.map .queue)
    s'.queue = s.queue ++ numbered s.queued kinds ∧ s'.world.trace = s.world.trace ∧
      s'.world.state.Agree s.world.state ∧ s'.queued = s.queued + kinds.length ∧
      s'.awaited = s.awaited := by
  induction kinds generalizing s with
  | nil => exact ⟨(List.append_nil _).symm, rfl, ⟨rfl, rfl, rfl⟩, rfl, rfl⟩
  | cons kind kinds ih =>
      obtain ⟨hqueue, htrace, hagree, hqueued, hawaited⟩ := ih (s.step rt builder network (.queue kind))
      have hadd : (s.step rt builder network (.queue kind)).world.state.Agree s.world.state := by
        show (GatewayTXBuilder.addOperation s.world.state ⟨s.queued, kind⟩).Agree s.world.state
        unfold GatewayTXBuilder.addOperation
        split <;> exact ⟨rfl, rfl, rfl⟩
      refine ⟨?_, htrace, ?_, ?_, hawaited⟩
      · rw [List.map_cons, Session.run_cons, hqueue, Session.queue_step_queue, List.append_assoc]
        rfl
      · exact ⟨hagree.endorsed.trans hadd.endorsed, hagree.filtered.trans hadd.filtered,
          hagree.committed.trans hadd.committed⟩
      · rw [List.map_cons, Session.run_cons, hqueued, List.length_cons]
        exact Nat.add_right_comm _ _ _

/-- The awaits of a sequence of calls that only queues first are those of the rest. -/
theorem Session.everyAwait_queues (P : Session → Prop) (s : Session) (kinds : List OperationKind)
    (commands : List Command) :
    Session.EveryAwait rt builder network P s (kinds.map .queue ++ commands) ↔
      Session.EveryAwait rt builder network P (s.run rt builder network (kinds.map .queue))
        commands := by
  induction kinds generalizing s with
  | nil => exact Iff.rfl
  | cons kind kinds ih => exact ih _

/-- The loop over two lists is one loop after the other. -/
theorem runLoop_append {L : Type} (operations operations' : List Operation) :
    (builder.runLoop rt (operations ++ operations') : Async (BuilderState L) Unit) =
      (builder.runLoop rt operations).bind fun _ => builder.runLoop rt operations' := by
  induction operations with
  | nil => rfl
  | cons operation operations ih =>
      simp only [List.cons_append, GatewayTXBuilder.runLoop, Coro.bind_eq, Coro.bind_assoc, ih]

/-- An await that runs through leaves what its loop leaves, with an empty queue. -/
theorem Session.step_await_of_ok {s : Session} {first : Operation} {rest : List Operation}
    (hqueue : s.queue = first :: rest) {w : World (BuilderState (List Operation))}
    (hloop : Coro.run network (builder.runLoop rt (first :: rest)) s.world = (.ok (), w)) :
    let s' := s.step rt builder network .await
    s'.queue = [] ∧ s'.world.trace = w.trace ∧ s'.world.state.Agree w.state ∧
      s'.queued = s.queued ∧ s'.awaited = s.awaited ++ [w.state.awaited] := by
  have hrun := run_runOperations_of_ok rt builder network (Session.operations_of_queue hqueue) hloop
  have hstep : s.step rt builder network .await = { s with
      world := (Coro.run network (builder.runOperations rt) s.world).2
      awaited := s.awaited ++ [(Coro.run network (builder.runOperations rt) s.world).1] } := rfl
  rw [hstep, hrun]
  exact ⟨rfl, rfl, ⟨rfl, rfl, rfl⟩, rfl, rfl⟩

/-- States that agree with one state agree with each other. -/
theorem BuilderState.Agree.trans {L₁ L₂ L₃ : Type} {s₁ : BuilderState L₁} {s₂ : BuilderState L₂}
    {s₃ : BuilderState L₃} (h : s₁.Agree s₂) (h' : s₂.Agree s₃) : s₁.Agree s₃ :=
  ⟨h.endorsed.trans h'.endorsed, h.filtered.trans h'.filtered, h.committed.trans h'.committed⟩

/-- What an await returns is decided by what states agree on. -/
theorem BuilderState.Agree.awaited {L₁ L₂ : Type} {s₁ : BuilderState L₁} {s₂ : BuilderState L₂}
    (h : s₁.Agree s₂) : s₁.awaited = s₂.awaited := by
  rw [BuilderState.awaited, BuilderState.awaited, h.endorsed]

/-- **One group comes to the loop over it**: on an empty queue, queueing and awaiting a group runs
through exactly when the loop over its operations returns, and then leaves what the loop leaves. -/
theorem Session.step_group {group : List OperationKind} (hgroup : group ≠ []) {s : Session}
    (hqueue : s.queue = []) :
    let loop := Coro.run network (builder.runLoop rt (numbered s.queued group)) s.world
    let s₁ := s.run rt builder network (group.map .queue)
    let s₂ := s₁.step rt builder network .await
    (s₁.RunsThrough rt builder network ↔ loop.1 = .ok ()) ∧
    (loop.1 = .ok () → s₂.queue = [] ∧ s₂.world.trace = loop.2.trace ∧
      s₂.world.state.Agree loop.2.state ∧ s₂.queued = s.queued + group.length ∧
      s₂.awaited = s.awaited ++ [loop.2.state.awaited]) := by
  intro loop s₁ s₂
  obtain ⟨hqueue₁, htrace₁, hagree₁, hqueued₁, hawaited₁⟩ := s.run_queues rt builder network group
  rw [hqueue, List.nil_append] at hqueue₁
  -- The loop does the same on the state that has the group queued.
  obtain ⟨hresult, hagree, htrace⟩ :=
    (alike_runLoop rt builder (numbered s.queued group)).run network hagree₁ htrace₁
  have hruns : s₁.RunsThrough rt builder network ↔ loop.1 = .ok () := by
    rw [Session.RunsThrough, hqueue₁, hresult]
  refine ⟨hruns, fun hok => ?_⟩
  obtain ⟨kind, kinds, rfl⟩ := List.exists_cons_of_ne_nil hgroup
  rcases hreal : Coro.run network (builder.runLoop rt (numbered s.queued (kind :: kinds))) s₁.world
    with ⟨r, w⟩
  rw [hreal] at hresult hagree htrace
  obtain rfl : r = .ok () := hresult.trans hok
  obtain ⟨hqueue₂, htrace₂, hagree₂, hqueued₂, hawaited₂⟩ :=
    s₁.step_await_of_ok rt builder network hqueue₁ hreal
  refine ⟨hqueue₂, htrace₂.trans htrace, hagree₂.trans hagree, hqueued₂.trans hqueued₁, ?_⟩
  rw [hawaited₂, hawaited₁, BuilderState.Agree.awaited hagree]

/-- **Groups come to one loop**: no operation raises in any group exactly when the loop over all the
operations returns, and then the groups leave what the loop leaves; by induction on the groups. -/
theorem Session.run_groups {groups : List (List OperationKind)} (hgroups : ∀ group ∈ groups, group ≠ [])
    (s : Session) (hqueue : s.queue = []) :
    let loop := Coro.run network (builder.runLoop rt (numbered s.queued groups.flatten)) s.world
    let s' := s.run rt builder network (groupCommands groups)
    (Session.EveryAwait rt builder network (Session.RunsThrough rt builder network) s
      (groupCommands groups) ↔ loop.1 = .ok ()) ∧
    (loop.1 = .ok () → s'.queue = [] ∧ s'.world.trace = loop.2.trace ∧
      s'.world.state.Agree loop.2.state ∧
      (groups ≠ [] → s'.awaited.getLast? = some loop.2.state.awaited)) := by
  induction groups generalizing s with
  | nil =>
      refine ⟨⟨fun _ => rfl, fun _ => trivial⟩, fun _ => ⟨hqueue, rfl, ⟨rfl, rfl, rfl⟩, ?_⟩⟩
      exact fun h => absurd rfl h
  | cons group groups ih =>
      obtain ⟨hruns₁, hleaves⟩ := Session.step_group rt builder network
        (hgroups group List.mem_cons_self) hqueue
      set s₂ := (s.run rt builder network (group.map .queue)).step rt builder network .await with hs₂
      intro loop s'
      have hs' : s' = s₂.run rt builder network (groupCommands groups) :=
        s.run_append rt builder network _ _
      have hawaits : Session.EveryAwait rt builder network (Session.RunsThrough rt builder network) s
          (groupCommands (group :: groups)) ↔
          (s.run rt builder network (group.map .queue)).RunsThrough rt builder network ∧
            Session.EveryAwait rt builder network (Session.RunsThrough rt builder network) s₂
              (groupCommands groups) :=
        s.everyAwait_queues rt builder network _ group _
      have hloop : loop = Coro.run network
        (builder.runLoop rt (numbered s.queued (group :: groups).flatten)) s.world := rfl
      rw [List.flatten_cons, numbered_append, runLoop_append, Coro.run_bind] at hloop
      rw [hawaits, hruns₁, hs']
      clear_value loop s'
      rcases hfirst : Coro.run network (builder.runLoop rt (numbered s.queued group)) s.world
        with ⟨e | ⟨⟩, w⟩
      · -- An operation of the first group raises, in both.
        rw [hfirst] at hloop
        subst hloop
        exact ⟨⟨fun h => (by cases h.1), fun h => (by cases h)⟩, fun h => (by cases h)⟩
      · -- The first group runs through, and what it leaves agrees with what the loop leaves there.
        rw [hfirst] at hloop hleaves
        obtain ⟨hqueue₂, htrace₂, hagree₂, hqueued₂, hawaited₂⟩ := hleaves rfl
        obtain ⟨hruns, hend⟩ := ih (fun g hg => hgroups g (List.mem_cons_of_mem _ hg)) s₂ hqueue₂
        obtain ⟨hresult, hagree, htrace⟩ :=
          (alike_runLoop rt builder (numbered s₂.queued groups.flatten)).run network hagree₂ htrace₂
        dsimp only at hloop
        rw [← hqueued₂] at hloop
        rw [← hloop] at hresult hagree htrace
        rw [hruns, hresult]
        refine ⟨⟨fun h => h.2, fun h => ⟨rfl, h⟩⟩, fun hok => ?_⟩
        obtain ⟨hqueue₃, htrace₃, hagree₃, hlast⟩ := hend (hresult.trans hok)
        refine ⟨hqueue₃, htrace₃.trans htrace, hagree₃.trans hagree, fun _ => ?_⟩
        by_cases hrest : groups = []
        · -- This was the last group, and its await is the last.
          subst hrest
          subst hloop
          show s₂.awaited.getLast? = _
          rw [hawaited₂, List.getLast?_concat]
          rfl
        · rw [hlast hrest, BuilderState.Agree.awaited hagree]

/-! ## The latest propose -/

/-- The transaction that an event says `propose_tx` returned. -/
def Event.proposed : Event → Option EndorsedTX
  | .inr (.proposeTxReturned tx) => some tx
  | _ => none

/-- The transaction of the latest propose of a trace. -/
def latestProposed (trace : List Event) : Option EndorsedTX :=
  (trace.filterMap Event.proposed).getLast?

/-- The latest propose of a trace with another after it is that of the other, when it has one. -/
theorem latestProposed_append (trace trace' : List Event) :
    latestProposed (trace ++ trace') = (latestProposed trace').or (latestProposed trace) := by
  rw [latestProposed, List.filterMap_append, List.getLast?_append]
  rfl

/-- A trace in which nothing was proposed has no latest propose. -/
theorem latestProposed_eq_none {trace : List Event} (h : ∀ e ∈ trace, Event.proposed e = none) :
    latestProposed trace = none := by
  rw [latestProposed, List.filterMap_eq_nil_iff.mpr h, List.getLast?_nil]

section Run

variable {L : Type}

/-- A propose that returns stores what `propose_tx` returned, and any propose that stores something
does. -/
theorem run_propose (raiseErrors : Bool) (w : World (BuilderState L)) :
    let run := Coro.run network (builder.propose raiseErrors) w
    ∃ es, run.2.trace = w.trace ++ es ∧
      run.2.state.endorsedTx = (latestProposed es).or w.state.endorsedTx ∧
      (run.1 = .ok () → (latestProposed es).isSome = true) := by
  intro run
  obtain ⟨⟨es, htrace, hes⟩, -⟩ := Coro.Ensures.run network w (Coro.Ensures.lift
    (ensures_proposeTx builder.gateway.endorsingPeers builder.transaction) w.state)
  have hquiet : latestProposed es = none := by
    refine latestProposed_eq_none fun e he => ?_
    rcases e with q | n
    · rfl
    · exact (hes _ he).elim
  have hrun : run = Coro.run network (builder.propose raiseErrors) w := rfl
  rw [GatewayTXBuilder.propose, Coro.bind_eq, Coro.run_bind] at hrun
  have hkept := Coro.run_lift network
    (proposeTx builder.gateway.endorsingPeers builder.transaction) w
  rcases hlift : Coro.run network (Coro.lift
    (proposeTx builder.gateway.endorsingPeers builder.transaction)) w with ⟨e | tx, w'⟩
  all_goals
    rw [hlift] at hrun htrace hkept
    have hstate : w'.state = w.state := congrArg (fun r => r.2.state) hkept
    clear_value run
    dsimp only at hrun htrace
  · subst hrun
    refine ⟨es, htrace, ?_, fun h => (by cases h)⟩
    rw [hquiet, hstate]
    rfl
  · -- What `propose_tx` returned is noted and stored, whatever the check says.
    have hend : run.2.trace = w'.trace ++ [.inr (.proposeTxReturned tx)] ∧
        run.2.state.endorsedTx = some tx := by
      cases raiseErrors with
      | false =>
          subst hrun
          exact ⟨rfl, rfl⟩
      | true =>
          rw [Coro.bind_eq, Coro.run_bind, Coro.run_annotate] at hrun
          dsimp only at hrun
          rw [Coro.bind_eq, Coro.run_bind, Coro.run_modify] at hrun
          dsimp only at hrun
          rw [if_pos rfl, Coro.run_ofExcept] at hrun
          subst hrun
          exact ⟨rfl, rfl⟩
    have hlatest : latestProposed (es ++ [.inr (.proposeTxReturned tx)]) = some tx := by
      rw [latestProposed_append]
      rfl
    refine ⟨es ++ [.inr (.proposeTxReturned tx)], ?_, ?_, fun _ => ?_⟩
    · rw [hend.1, htrace, List.append_assoc]
    · rw [hend.2, hlatest, Option.some_or]
    · rw [hlatest]
      rfl

/-- A computation that proposes nothing, and leaves the stored transaction, leaves that of the latest
propose. -/
theorem run_endorsedTx_of_quiet {P : Event → Prop} {c : Async (BuilderState L) Unit}
    {w : World (BuilderState L)} (hquiet : ∀ e, P e → Event.proposed e = none)
    (hc : Coro.Ensures P (fun _ s' => s'.endorsedTx = w.state.endorsedTx)
      (fun _ s' => s'.endorsedTx = w.state.endorsedTx) c w.state) :
    let run := Coro.run network c w
    ∃ es, run.2.trace = w.trace ++ es ∧
      run.2.state.endorsedTx = (latestProposed es).or w.state.endorsedTx := by
  intro run
  obtain ⟨⟨es, htrace, hes⟩, hend⟩ := Coro.Ensures.run network w hc
  have hnone : latestProposed es = none := latestProposed_eq_none fun e he => hquiet e (hes e he)
  refine ⟨es, htrace, ?_⟩
  rw [hnone, Option.none_or]
  have hrun : run = Coro.run network c w := rfl
  rw [← hrun] at hend
  rcases run with ⟨e | ⟨⟩, w'⟩
  · exact hend
  · exact hend

/-- A submit proposes nothing. -/
theorem Event.OfSubmit.proposed {tx : Option EndorsedTX} {e : Event} (h : Event.OfSubmit tx e) :
    Event.proposed e = none := by
  rcases e with q | n
  · rfl
  · obtain h | ⟨tx, -, h | h⟩ := h
    · exact h.elim
    · cases h
      rfl
    · cases h
      rfl

/-- A wait proposes nothing. -/
theorem Event.OfWait.proposed {rt : Runtime} {e : Event} (h : Event.OfWait rt e) :
    Event.proposed e = none := by
  rcases e with q | n
  · rfl
  · exact h.isRequest.elim False.elim False.elim

/-- A submit leaves the stored transaction. -/
theorem ensures_submit_endorsedTx (s : BuilderState L) :
    Coro.Ensures (Event.OfSubmit s.endorsedTx) (fun _ s' => s'.endorsedTx = s.endorsedTx)
      (fun _ s' => s'.endorsedTx = s.endorsedTx) (builder.submit rt) s := by
  refine Coro.Ensures.mono (fun _ h => h) ?_ ?_ (ensures_submit rt builder s)
  · rintro _ s' ⟨-, rfl⟩
    rfl
  · rintro _ s' rfl
    rfl

/-- A wait leaves the stored transaction. -/
theorem ensures_waitForCommit_endorsedTx (raiseErrors : Bool) (timeout : Int)
    (s : BuilderState L) :
    Coro.Ensures (Event.OfWait rt) (fun _ s' => s'.endorsedTx = s.endorsedTx)
      (fun _ s' => s'.endorsedTx = s.endorsedTx) (builder.waitForCommit rt raiseErrors timeout) s := by
  refine Coro.Ensures.mono (fun _ h => h) ?_ ?_ (ensures_waitForCommit rt builder raiseErrors timeout s)
  · rintro _ s' ⟨-, endorsedTx, filteredTx, -, -, rfl⟩
    rfl
  · rintro _ s' rfl
    rfl

/-- An operation leaves the transaction of the latest propose stored. -/
theorem run_operate_endorsedTx (kind : OperationKind) (w : World (BuilderState L)) :
    let run := Coro.run network (builder.operate rt kind) w
    ∃ es, run.2.trace = w.trace ++ es ∧
      run.2.state.endorsedTx = (latestProposed es).or w.state.endorsedTx ∧
      (∀ raiseErrors, kind = .propose raiseErrors → run.1 = .ok () →
        (latestProposed es).isSome = true) := by
  cases kind with
  | propose raiseErrors =>
      obtain ⟨es, htrace, hstate, hsome⟩ := run_propose builder network raiseErrors w
      exact ⟨es, htrace, hstate, fun _ _ => hsome⟩
  | submit =>
      obtain ⟨es, htrace, hstate⟩ := run_endorsedTx_of_quiet network
        (fun _ h => Event.OfSubmit.proposed h) (ensures_submit_endorsedTx rt builder w.state)
      exact ⟨es, htrace, hstate, fun _ h => (by cases h)⟩
  | waitForCommit raiseErrors timeout =>
      obtain ⟨es, htrace, hstate⟩ := run_endorsedTx_of_quiet network
        (fun _ h => Event.OfWait.proposed h)
        (ensures_waitForCommit_endorsedTx rt builder raiseErrors timeout w.state)
      exact ⟨es, htrace, hstate, fun _ h => (by cases h)⟩

/-- **A loop leaves the transaction of the latest propose stored**, by induction on the operations;
and when it returns and proposes first, it has proposed. -/
theorem run_runLoop_endorsedTx (operations : List Operation) (w : World (BuilderState L)) :
    let run := Coro.run network (builder.runLoop rt operations) w
    ∃ es, run.2.trace = w.trace ++ es ∧
      run.2.state.endorsedTx = (latestProposed es).or w.state.endorsedTx ∧
      (∀ raiseErrors, operations.head?.map (·.kind) = some (.propose raiseErrors) →
        run.1 = .ok () → (latestProposed es).isSome = true) := by
  induction operations generalizing w with
  | nil => exact ⟨[], (List.append_nil _).symm, rfl, fun _ h => (by cases h)⟩
  | cons operation operations ih =>
      intro run
      obtain ⟨es, htrace, hstate, hsome⟩ := run_operate_endorsedTx rt builder network operation.kind
        (w.record (.inr (.operationStarted operation.id)))
      obtain ⟨e, -, herror, hkept, hends⟩ | ⟨next, hok, hkept, hnext, hgo⟩ :=
        run_runLoop_cons rt builder network operation operations w htrace
      · refine ⟨.inr (.operationStarted operation.id) :: es, hends, hkept ▸ hstate, fun _ _ h => ?_⟩
        cases herror.symm.trans h
      · obtain ⟨es', htrace', hstate', -⟩ := ih next
        rw [← hgo] at htrace' hstate'
        have hlatest : latestProposed (.inr (.operationStarted operation.id) :: es ++
            .inr (.operationCompleted operation.id) :: es') =
            (latestProposed es').or (latestProposed es) := latestProposed_append _ _
        refine ⟨.inr (.operationStarted operation.id) :: es ++
          .inr (.operationCompleted operation.id) :: es', ?_, ?_, ?_⟩
        · rw [htrace', hnext]
          simp
        · rw [hstate', hkept, hlatest, Option.or_assoc]
          exact congrArg _ hstate
        · intro raiseErrors hhead _
          rw [hlatest]
          have hpropose := hsome raiseErrors (Option.some.inj hhead) hok
          simp [hpropose]

end Run

/-! ## Cuts -/

/-- **Grouping the awaits does not matter while nothing fails.** Let a sequence of operations that
proposes first be cut into groups in two ways, each group being queued and awaited by one task on a
builder with an empty queue. If no operation raises in one of the cuts, none raises in the other;
both send the same requests and record the same events in the same order, in which every operation
is executed once and in the order queued; both leave the same transactions and an empty queue; and
their last awaits return the transaction of the latest propose. -/
theorem await_groups_agree {operations : List OperationKind}
    {groups groups' : List (List OperationKind)}
    (hgroups : ∀ group ∈ groups, group ≠ []) (hflatten : groups.flatten = operations)
    (hgroups' : ∀ group ∈ groups', group ≠ []) (hflatten' : groups'.flatten = operations)
    {raiseErrors : Bool} (hfirst : operations.head? = some (.propose raiseErrors)) {s : Session}
    (hqueue : s.queue = [])
    (hruns : Session.EveryAwait rt builder network (Session.RunsThrough rt builder network) s
      (groupCommands groups)) :
    let s₁ := s.run rt builder network (groupCommands groups)
    let s₂ := s.run rt builder network (groupCommands groups')
    Session.EveryAwait rt builder network (Session.RunsThrough rt builder network) s
      (groupCommands groups') ∧
    s₁.world.state.Agree s₂.world.state ∧ s₁.queue = [] ∧ s₂.queue = [] ∧
    ∃ es tx, s₁.world.trace = s.world.trace ++ es ∧ s₂.world.trace = s.world.trace ++ es ∧
      es.filter (fun e => (Event.operationId e).isSome) = doneEvents (numbered s.queued operations) ∧
      latestProposed es = some tx ∧ s₁.awaited.getLast? = some (.ok tx) ∧
      s₂.awaited.getLast? = some (.ok tx) := by
  have hne : ∀ {gs : List (List OperationKind)}, gs.flatten = operations → gs ≠ [] := by
    rintro _ hgs rfl
    rw [← hgs] at hfirst
    cases hfirst
  obtain ⟨hruns₁, hend₁⟩ := s.run_groups rt builder network hgroups hqueue
  obtain ⟨hruns₂, hend₂⟩ := s.run_groups rt builder network hgroups' hqueue
  rw [hflatten] at hruns₁ hend₁
  rw [hflatten'] at hruns₂ hend₂
  have hok := hruns₁.mp hruns
  obtain ⟨hqueue₁, htrace₁, hagree₁, hlast₁⟩ := hend₁ hok
  obtain ⟨hqueue₂, htrace₂, hagree₂, hlast₂⟩ := hend₂ hok
  -- Both cuts come to the loop over all the operations, which runs through.
  obtain ⟨done, rest, es, hsplit, htrace, hevents, hrest⟩ :=
    run_runLoop rt builder network (numbered s.queued operations) s.world
  obtain ⟨es', htrace', hstate, hsome⟩ :=
    run_runLoop_endorsedTx rt builder network (numbered s.queued operations) s.world
  obtain rfl : es = es' := List.append_cancel_left (htrace.symm.trans htrace')
  obtain rfl : rest = [] := hrest.mp hok
  obtain ⟨tx, htx⟩ := Option.isSome_iff_exists.mp (hsome raiseErrors (by
    obtain ⟨tail, rfl⟩ := List.head?_eq_some_iff.mp hfirst
    rfl) hok)
  rw [htx, Option.some_or] at hstate
  have hawaited : (Coro.run network (builder.runLoop rt (numbered s.queued operations))
      s.world).2.state.awaited = .ok tx := by
    rw [BuilderState.awaited, hstate]
  rw [hawaited] at hlast₁ hlast₂
  refine ⟨hruns₂.mpr hok, ?_, hqueue₁, hqueue₂, es, tx, htrace₁.trans htrace, htrace₂.trans htrace,
    ?_, htx, hlast₁ (hne hflatten), hlast₂ (hne hflatten')⟩
  · exact ⟨hagree₁.endorsed.trans hagree₂.endorsed.symm, hagree₁.filtered.trans hagree₂.filtered.symm,
      hagree₁.committed.trans hagree₂.committed.symm⟩
  · rw [hevents, hsplit, List.append_nil, loopEvents]
    exact List.append_nil _

/-- A propose and a submit, awaited together and one by one. -/
theorem await_groups_agree_pair :
    ∃ tx, buildGeneratedTx (wireRuntime id) keyedUser "cc" [[1]] (some ⟨"channel"⟩) none [9] {} =
        .ok tx ∧
      let awaited (groups : List (List OperationKind)) := (Session.new.run (wireRuntime id)
        ⟨keyedGateway, tx⟩ endorsingOnce (groupCommands groups)).awaited.getLast?
      awaited [[.propose true, .submit]] = awaited [[.propose true], [.submit]] := by
  refine ⟨_, rfl, ?_⟩
  generalize htx : GeneratedTX.mk _ _ _ _ = tx
  have hruns : Session.EveryAwait (wireRuntime id) ⟨keyedGateway, tx⟩ endorsingOnce
      (Session.RunsThrough (wireRuntime id) ⟨keyedGateway, tx⟩ endorsingOnce) Session.new
      (groupCommands [[.propose true, .submit]]) := by
    refine ⟨?_, trivial⟩
    subst htx
    unfold Session.RunsThrough
    decide +kernel
  have hgroups : ∀ group ∈ ([[.propose true, .submit]] : List (List OperationKind)), group ≠ [] := by
    simp
  have hgroups' :
      ∀ group ∈ ([[.propose true], [.submit]] : List (List OperationKind)), group ≠ [] := by
    simp
  obtain ⟨-, -, -, -, es, tx', -, -, -, -, hlast, hlast'⟩ :=
    await_groups_agree (wireRuntime id) ⟨keyedGateway, tx⟩ endorsingOnce hgroups rfl hgroups' rfl
      rfl rfl hruns
  exact hlast.trans hlast'.symm

end Snakeskin
