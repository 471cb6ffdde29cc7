import Snakeskin.CompletedOperations
import Snakeskin.SharedBuilder

/-! # The loops of a shared builder

What the loop of one task does from one suspension to the next, whatever the others do in between.
An operation leaves the list of operations alone and starts no other; a loop goes through the
operations of its list in order, and suspends itself in one of them or comes to the end.

* `guarantees_operate` — what an operation does itself.
* `Progress.Runs` — what a stretch of a loop does; `runs_runFrom` and `runs_proceed` say that a loop
  that starts and one that goes on do it. -/

namespace Snakeskin

variable (rt : Runtime) (builder : GatewayTXBuilder)

/-- The trace says that the operation was started. -/
abbrev Started {σ : Type} (w : World σ) (id : Nat) : Prop := .inr (.operationStarted id) ∈ w.trace

/-- The trace says that the operation has returned. -/
abbrev Completed {σ : Type} (w : World σ) (id : Nat) : Prop := .inr (.operationCompleted id) ∈ w.trace

/-- Whether an event is in a trace can be decided. -/
instance (e : Event) (trace : List Event) : Decidable (e ∈ trace) :=
  decidable_of_iff (∃ e' ∈ trace, e' = e) exists_eq_right

/-! ## What an operation does itself -/

/-- A move of an operation: the list of operations stays, and no operation is started. -/
structure OwnMove {L : Type} (w w' : World (BuilderState L)) : Prop where
  operations : w'.state.operations = w.state.operations
  trace : w.trace <+: w'.trace
  started : ∀ id, Started w' id → Started w id

theorem OwnMove.refl {L : Type} (w : World (BuilderState L)) : OwnMove w w :=
  ⟨rfl, List.prefix_rfl, fun _ => id⟩

theorem OwnMove.trans {L : Type} {w₁ w₂ w₃ : World (BuilderState L)} (h₁ : OwnMove w₁ w₂)
    (h₂ : OwnMove w₂ w₃) : OwnMove w₁ w₃ :=
  ⟨h₂.operations.trans h₁.operations, h₁.trace.trans h₂.trace,
    fun id h => h₁.started id (h₂.started id h)⟩

/-- Recording what is no operation event is such a move. -/
theorem OwnMove.record {L : Type} (w : World (BuilderState L)) {e : Event}
    (he : e.operationId = none) : OwnMove w (w.record e) where
  operations := rfl
  trace := List.prefix_append _ _
  started id h := by
    rcases List.mem_append.mp h with hbefore | hlast
    · exact hbefore
    · rw [List.mem_singleton] at hlast
      subst hlast
      cases he

/-- Waiting on one peer. -/
theorem guarantees_waitOnPeer {L : Type} (raiseErrors : Bool) (timeout : Int) (peer : Peer)
    (w : World (BuilderState L)) :
    Coro.Guarantees OwnMove (builder.waitOnPeer rt raiseErrors timeout peer) w := by
  refine Coro.Guarantees.read_bind ?_
  cases w.state.endorsedTx with
  | none => trivial
  | some endorsedTx =>
      have hwait : Coro.Guarantees OwnMove (Coro.lift (builder.awaitTransaction rt raiseErrors timeout
          endorsedTx.txId peer)) w :=
        Coro.Guarantees.lift (fun w e he => OwnMove.record w (Event.OfWait.operationId rt he))
          (ensures_awaitTransaction rt builder raiseErrors timeout endorsedTx.txId peer) w
      exact hwait.bind fun _ _ => Coro.Guarantees.modify ⟨rfl, List.prefix_rfl, fun _ => id⟩

/-- The loop over the peers, by induction on the peers. -/
theorem guarantees_waitLoop {L : Type} (raiseErrors : Bool) (timeout : Int) (error : Exc)
    (peers : List Peer) (w : World (BuilderState L)) :
    Coro.Guarantees OwnMove (builder.waitLoop rt raiseErrors timeout error peers) w := by
  induction peers generalizing error w with
  | nil => trivial
  | cons peer peers ih =>
      refine (guarantees_waitOnPeer rt builder raiseErrors timeout peer w).tryCatch fun err w' => ?_
      split
      · exact ih err w'
      · trivial

/-- **An operation** leaves the list of operations alone, and starts no other operation. -/
theorem guarantees_operate {L : Type} (kind : OperationKind) (w : World (BuilderState L)) :
    Coro.Guarantees OwnMove (builder.operate rt kind) w := by
  cases kind with
  | propose raiseErrors =>
      have hpropose : Coro.Guarantees OwnMove
          (Coro.lift (proposeTx builder.gateway.endorsingPeers builder.transaction)) w :=
        Coro.Guarantees.lift (fun w e he => OwnMove.record w (Event.IsProposal.operationId he))
          (ensures_proposeTx builder.gateway.endorsingPeers builder.transaction) w
      refine hpropose.bind fun tx w₁ => ?_
      refine (Coro.Guarantees.annotate (OwnMove.record w₁ rfl)).bind fun _ w₂ => ?_
      refine (Coro.Guarantees.modify ⟨rfl, List.prefix_rfl, fun _ => id⟩).bind fun _ w₃ => ?_
      cases raiseErrors with
      | false => trivial
      | true => exact Coro.Guarantees.ofExcept _ _
  | submit =>
      refine Coro.Guarantees.read_bind ?_
      cases w.state.endorsedTx with
      | none => trivial
      | some endorsedTx =>
          have hcommit : ∀ w : World (BuilderState L),
              Coro.Guarantees OwnMove (Coro.lift (builder.commit rt endorsedTx)) w :=
            Coro.Guarantees.lift (fun w e he => OwnMove.record w (Event.IsBroadcast.operationId he))
              (ensures_commit rt builder endorsedTx)
          refine (Coro.Guarantees.annotate (OwnMove.record w rfl)).bind fun _ w₁ => ?_
          refine (hcommit w₁).bind fun _ w₂ => ?_
          refine (Coro.Guarantees.annotate (OwnMove.record w₂ rfl)).bind fun _ w₃ => ?_
          exact Coro.Guarantees.modify ⟨rfl, List.prefix_rfl, fun _ => id⟩
  | waitForCommit raiseErrors timeout =>
      refine Coro.Guarantees.read_bind ?_
      split
      · exact guarantees_waitLoop rt builder raiseErrors timeout _ _ w
      · trivial

/-! ## What a stretch of a loop does -/

/-- A frame whose operation goes on as operations do. -/
def Frame.Guarded (frame : Frame) : Prop :=
  ∀ answer w, Coro.Guarantees OwnMove (frame.resume answer) w

/-- A move of a loop: the list of operations stays, and only operations in hand are started. -/
structure LoopMove (ids : List Nat) (w w' : World (BuilderState ListRef)) : Prop where
  operations : w'.state.operations = w.state.operations
  trace : w.trace <+: w'.trace
  started : ∀ id, Started w' id → Started w id ∨ id ∈ ids

/-- A stretch of a loop, for which operations with the given numbers are in hand, the first of them
at the index before `next`: it is suspended in one of them, and those before it have completed; or
it has come to the end, and all have. -/
def Progress.Runs (w : World (BuilderState ListRef)) (list : ListRef) (next : Nat) (ids : List Nat) :
    Progress → Prop
  | .suspended frame w' => frame.list = list ∧ frame.Guarded ∧ Started w' frame.operation ∧
      ∃ done rest, ids = done ++ frame.operation :: rest ∧ frame.next = next + done.length ∧
        LoopMove (done ++ [frame.operation]) w w' ∧ ∀ id ∈ done, Completed w' id
  | .raised _ w' => LoopMove ids w w'
  | .finished w' => LoopMove ids w w' ∧ ∀ id ∈ ids, Completed w' id

section Runs

variable {w w₁ w₂ : World (BuilderState ListRef)}

/-- A move of an operation is one of the loop, whatever is in hand. -/
theorem OwnMove.loopMove (h : OwnMove w w₁) (ids : List Nat) : LoopMove ids w w₁ :=
  ⟨h.operations, h.trace, fun id hid => .inl (h.started id hid)⟩

/-- Recording an event is a move of the loop when an operation that it starts is in hand. -/
theorem LoopMove.record (w : World (BuilderState ListRef)) {event : Event} {ids : List Nat}
    (h : ∀ id, event = .inr (.operationStarted id) → id ∈ ids) : LoopMove ids w (w.record event) where
  operations := rfl
  trace := List.prefix_append _ _
  started id hstarted := by
    rcases List.mem_append.mp hstarted with hbefore | hlast
    · exact .inl hbefore
    · exact .inr (h id (List.mem_singleton.mp hlast).symm)

/-- The start of the operation in hand. -/
theorem LoopMove.start (w : World (BuilderState ListRef)) (id : Nat) :
    LoopMove [id] w (w.record (.inr (.operationStarted id))) := by
  apply LoopMove.record
  rintro _ ⟨⟩
  exact List.mem_singleton_self _

/-- The return of an operation starts none. -/
theorem LoopMove.complete (w : World (BuilderState ListRef)) (id : Nat) :
    LoopMove [] w (w.record (.inr (.operationCompleted id))) := by
  apply LoopMove.record
  rintro _ ⟨⟩

/-- Two moves make one, in which all that the two have in hand is. -/
theorem LoopMove.trans {ids₁ ids₂ : List Nat} (h₁ : LoopMove ids₁ w w₁) (h₂ : LoopMove ids₂ w₁ w₂)
    {ids : List Nat} (hsub₁ : ids₁ ⊆ ids) (hsub₂ : ids₂ ⊆ ids) : LoopMove ids w w₂ where
  operations := h₂.operations.trans h₁.operations
  trace := h₁.trace.trans h₂.trace
  started id h := by
    rcases h₂.started id h with hstarted | hmem
    · exact (h₁.started id hstarted).imp_right fun hid => hsub₁ hid
    · exact .inr (hsub₂ hmem)

variable {list : ListRef} {next operation : Nat} {ids : List Nat} {progress : Progress}

/-- A stretch that begins with the start of the operation in hand. -/
theorem Progress.Runs.start
    (h : progress.Runs (w.record (.inr (.operationStarted operation))) list next (operation :: ids)) :
    progress.Runs w list next (operation :: ids) := by
  have hstart := LoopMove.start w operation
  have hhead : [operation] ⊆ operation :: ids := by simp
  rcases progress with ⟨frame, w'⟩ | ⟨e, w'⟩ | w'
  · obtain ⟨hlist, hguarded, hstarted, done, rest, hids, hnext, hmove, hdone⟩ := h
    -- The first operation is among those that have completed, or is the one in which it is suspended.
    have hfirst : [operation] ⊆ done ++ [frame.operation] := by
      rcases done with _ | ⟨first, done⟩ <;> cases hids <;> simp
    have hmove' := hstart.trans hmove hfirst fun _ => id
    exact ⟨hlist, hguarded, hstarted, done, rest, hids, hnext, hmove', hdone⟩
  · exact hstart.trans h hhead fun _ => id
  · exact ⟨hstart.trans h.1 hhead fun _ => id, h.2⟩

/-- A stretch that begins with the return of the operation in hand. -/
theorem Progress.Runs.complete (hown : OwnMove w w₁)
    (h : progress.Runs (w₁.record (.inr (.operationCompleted operation))) list (next + 1) ids) :
    progress.Runs w list next (operation :: ids) := by
  have hcompleted : Completed (w₁.record (.inr (.operationCompleted operation))) operation :=
    List.mem_append_right _ (List.mem_singleton_self _)
  have hmove : LoopMove [] w (w₁.record (.inr (.operationCompleted operation))) :=
    (hown.loopMove []).trans (LoopMove.complete w₁ operation) (fun _ => id) fun _ => id
  have htail : ids ⊆ operation :: ids := List.subset_cons_self _ _
  rcases progress with ⟨frame, w'⟩ | ⟨e, w'⟩ | w'
  · obtain ⟨hlist, hguarded, hstarted, done, rest, rfl, hnext, hloop, hdone⟩ := h
    refine ⟨hlist, hguarded, hstarted, operation :: done, rest, rfl, ?_, ?_, ?_⟩
    · rw [hnext, List.length_cons]
      omega
    · exact hmove.trans hloop (List.nil_subset _) (List.subset_cons_self _ _)
    · exact List.forall_mem_cons.mpr ⟨hloop.trace.subset hcompleted, hdone⟩
  · exact hmove.trans h (List.nil_subset _) htail
  · exact ⟨hmove.trans h.1 (List.nil_subset _) htail,
      List.forall_mem_cons.mpr ⟨h.1.trace.subset hcompleted, h.2⟩⟩

/-- The operation in hand goes on, and if it returns so does the loop. -/
theorem runs_ofOutcome {c : Async (BuilderState ListRef) Unit} (hc : Coro.Guarantees OwnMove c w)
    (hstarted : Started w operation)
    {loop : World (BuilderState ListRef) → Progress}
    (hloop : ∀ w', (loop w').Runs w' list (next + 1) ids) :
    (Progress.ofOutcome list next operation loop (c.segment w)).Runs w list next
      (operation :: ids) := by
  have hsegment := hc.segment OwnMove.refl fun _ _ _ => OwnMove.trans
  rcases houtcome : c.segment w with ⟨_, w'⟩ | ⟨e, w'⟩ | ⟨request, resume, w'⟩ <;>
    rw [houtcome] at hsegment
  · have hown : OwnMove w w' := hsegment
    exact (hloop _).complete hown
  · have hown : OwnMove w w' := hsegment
    exact hown.loopMove _
  · -- The operation in hand is suspended, and none has completed.
    obtain ⟨hown, hresume⟩ := hsegment
    refine ⟨rfl, hresume, hown.trace.subset hstarted, [], ids, rfl, rfl, hown.loopMove _, ?_⟩
    exact fun _ h => nomatch h

end Runs

/-- **A loop from an index on** runs its operations in order, by induction on the operations. -/
theorem runs_runFrom (list : ListRef) (index : Nat) (operations : List Operation)
    (w : World (BuilderState ListRef)) :
    (runFrom rt builder list index operations w).Runs w list (index + 1)
      (operations.map (·.id)) := by
  induction operations generalizing index w with
  | nil => exact ⟨⟨rfl, List.prefix_rfl, fun _ h => .inl h⟩, fun _ h => nomatch h⟩
  | cons operation operations ih =>
      exact (runs_ofOutcome (guarantees_operate rt builder operation.kind _)
        (List.mem_append_right _ (List.mem_singleton_self _)) (ih (index + 1))).start

/-- **A loop that goes on** runs the operation that waited, and then those that are in its list by
now. -/
theorem runs_proceed {frame : Frame} (hguarded : frame.Guarded) (answer : Answer frame.request)
    (live : List Operation) {w : World (BuilderState ListRef)} (hstarted : Started w frame.operation) :
    (frame.proceed rt builder answer live w).Runs w frame.list frame.next
      (frame.operation :: (live.map (·.id)).drop frame.next) := by
  rw [← List.map_drop]
  exact runs_ofOutcome (hguarded answer w) hstarted
    (runs_runFrom rt builder frame.list frame.next (live.drop frame.next))

/-! ## The list of operations -/

namespace SharedBuilder

/-- The numbers of the operations in the list object that the builder refers to. -/
def listed (s : SharedBuilder) : List Nat :=
  match s.world.state.operations with
  | some list => (s.listAt list).map (·.id)
  | none => []

/-- Only the list object that the builder refers to holds operations. -/
structure OneList (s : SharedBuilder) : Prop where
  valid : ∀ list, s.world.state.operations = some list → list < s.lists.length
  others : ∀ list, s.world.state.operations ≠ some list → s.listAt list = []

theorem listed_of_some {s : SharedBuilder} {list : ListRef}
    (h : s.world.state.operations = some list) : s.listed = (s.listAt list).map (·.id) := by
  unfold listed
  rw [h]

/-- Changing one list object does not change another. -/
theorem listAt_set_of_ne (s : SharedBuilder) {list list' : ListRef} (h : list ≠ list')
    (operations : List Operation) :
    (s.lists.set list operations).getD list' [] = s.listAt list' := by
  rw [List.getD_eq_getElem?_getD, List.getElem?_set_ne h]
  exact (List.getD_eq_getElem?_getD ..).symm

/-- What a queueing call does: the operation comes last in the list that the builder refers to,
which is a new one if there was none or an empty one. -/
structure Queues (s s' : SharedBuilder) : Prop where
  tasks : s'.tasks = s.tasks
  started : s'.started = s.started
  queued : s'.queued = s.queued + 1
  trace : s'.world.trace = s.world.trace
  lists : s.lists.length ≤ s'.lists.length
  oneList : s'.OneList
  listed : s'.listed = s.listed ++ [s.queued]
  operations : s.listed ≠ [] ∧ s'.world.state.operations = s.world.state.operations ∨
    s.listed = [] ∧ s'.world.state.operations = some s.lists.length

/-- It starts nothing. -/
theorem Queues.started_iff {s s' : SharedBuilder} (h : s.Queues s') (id : Nat) :
    Started s'.world id ↔ Started s.world id := by
  rw [Started, Started, h.trace]

/-- A new list object, when no other holds operations. -/
theorem OneList.queues_new {s s' : SharedBuilder} (hempty : ∀ list, s.listAt list = [])
    (hlisted : s.listed = []) (kind : OperationKind)
    (hs' : s' = { s with
      world := s.world.update { s.world.state with operations := some s.lists.length }
      lists := s.lists ++ [[⟨s.queued, kind⟩]]
      queued := s.queued + 1 }) : s.Queues s' := by
  subst hs'
  refine ⟨rfl, rfl, rfl, rfl, ?_, ⟨?_, ?_⟩, ?_, .inr ⟨hlisted, rfl⟩⟩
  · simp
  · rintro list ⟨⟩
    simp
  · intro list hlist
    have hne : list ≠ s.lists.length := fun h => hlist (congrArg some h.symm)
    have hlistAt := hempty list
    unfold listAt at hlistAt ⊢
    rw [List.getD_eq_getElem?_getD] at hlistAt ⊢
    rcases lt_or_gt_of_ne hne with hlt | hgt
    · rw [List.getElem?_append_left hlt]
      exact hlistAt
    · rw [List.getElem?_eq_none (by rw [List.length_append]; exact hgt)]
      rfl
  · rw [hlisted, listed_of_some rfl]
    simp [listAt]

/-- **`_add_operation`** keeps all operations in one list. -/
theorem OneList.queues {s : SharedBuilder} (h : s.OneList) (kind : OperationKind) :
    s.Queues (s.addOperation kind) := by
  unfold addOperation
  cases hoperations : s.world.state.operations with
  | none =>
      dsimp only
      refine OneList.queues_new (fun list => h.others list ?_) ?_ kind rfl
      · rw [hoperations]
        exact fun h => nomatch h
      · unfold listed
        rw [hoperations]
  | some list =>
      dsimp only
      split
      · -- The object stays, and the operation is appended to it in place.
        rename_i hne
        have hlt := h.valid list hoperations
        have hlisted : s.listed ≠ [] := by
          rw [listed_of_some hoperations]
          exact fun hnil => hne (List.map_eq_nil_iff.mp hnil)
        refine ⟨rfl, rfl, rfl, rfl, (List.length_set ..).ge, ⟨?_, ?_⟩, ?_, .inl ⟨hlisted, rfl⟩⟩
        · intro list' hlist'
          show list' < (s.lists.set list _).length
          rw [List.length_set]
          exact h.valid list' hlist'
        · intro list' hlist'
          have hne : list ≠ list' := fun heq => hlist' (heq ▸ hoperations)
          exact (listAt_set_of_ne s hne _).trans (h.others list' hlist')
        · have hlisted : ∀ lists, listed { s with lists, queued := s.queued + 1 } =
              (lists.getD list []).map (·.id) := fun lists => listed_of_some hoperations
          rw [hlisted, List.getD_eq_getElem?_getD, List.getElem?_set_self hlt, Option.getD_some,
            List.map_append, listed_of_some hoperations]
          rfl
      · rename_i hempty
        rw [not_ne_iff] at hempty
        refine OneList.queues_new (fun list' => ?_) ?_ kind rfl
        · by_cases heq : s.world.state.operations = some list'
          · rw [hoperations] at heq
            cases heq
            exact hempty
          · exact h.others list' heq
        · rw [listed_of_some hoperations, hempty, List.map_nil]

/-- What a stretch of a task does: it leads to a world, and the task is set to a status. -/
structure Sets (s : SharedBuilder) (task : Nat) (status : Task) (w : World (BuilderState ListRef))
    (s' : SharedBuilder) : Prop where
  world : s'.world = w
  tasks : s'.tasks = Function.update s.tasks task (some status)
  started : s'.started = s.started
  queued : s'.queued = s.queued
  lists : s'.lists.length = s.lists.length
  oneList : s'.OneList

variable {w : World (BuilderState ListRef)}

/-- A move that leaves the reference to the list leaves what is in it. -/
theorem OneList.sets {s : SharedBuilder} (h : s.OneList) (task : Nat) (status : Task)
    (hw : w.state.operations = s.world.state.operations) :
    let s' := SharedBuilder.setTask { s with world := w } task status
    s.Sets task status w s' ∧ s'.listed = s.listed := by
  refine ⟨⟨rfl, rfl, rfl, rfl, rfl, ⟨fun list hlist => ?_, fun list hlist => ?_⟩⟩, ?_⟩
  · exact h.valid list (hw.symm.trans hlist)
  · exact h.others list fun heq => hlist (hw.trans heq)
  · show listed { s with world := w } = s.listed
    unfold listed
    dsimp only
    rw [hw]
    rfl

/-- **The end of a loop** leaves no list object with operations, whichever list the loop was
over. -/
theorem OneList.finish {s : SharedBuilder} (h : s.OneList) (task : Nat)
    (hw : w.state.operations = s.world.state.operations) :
    let s' := SharedBuilder.finish { s with world := w } task
    (∃ result, s.Sets task (.ended result) w s') ∧ s'.listed = [] := by
  unfold SharedBuilder.finish
  cases hoperations : w.state.operations with
  | none =>
      dsimp only
      obtain ⟨hsets, hlisted⟩ := h.sets task
        (.ended (.error (.attributeError "'NoneType' object has no attribute 'clear'"))) hw
      refine ⟨⟨_, hsets⟩, hlisted.trans ?_⟩
      unfold listed
      rw [← hw, hoperations]
  | some list =>
      dsimp only
      have hlt := h.valid list (hw.symm.trans hoperations)
      refine ⟨⟨_, rfl, rfl, rfl, rfl, List.length_set .., ?_, ?_⟩, ?_⟩
      · intro list' hlist'
        show list' < (s.lists.set list []).length
        rw [List.length_set]
        exact h.valid list' (hw.symm.trans hlist')
      · intro list' hlist'
        have hne : list ≠ list' := fun heq => hlist' (heq ▸ hoperations)
        exact (listAt_set_of_ne s hne []).trans (h.others list' fun heq => hlist' (hw.trans heq))
      · have hcleared : (s.lists.set list []).getD list [] = [] := by
          rw [List.getD_eq_getElem?_getD, List.getElem?_set_self hlt]
          rfl
        exact (listed_of_some hoperations).trans (congrArg _ hcleared)

/-! ## Every interleaving -/

/-- **What holds of the lists and the loops in every interleaving**: only the list object that the
builder refers to holds operations, and a suspended loop is in an operation that was started. -/
structure Orderly (s : SharedBuilder) : Prop where
  oneList : s.OneList
  listed : ∀ id ∈ s.listed, id < s.queued
  started : ∀ id, Started s.world id → id < s.queued
  tasks : ∀ task, s.started ≤ task → s.tasks task = none
  guarded : ∀ task frame, s.tasks task = some (.suspended frame) → frame.Guarded
  list : ∀ task frame, s.tasks task = some (.suspended frame) → frame.list < s.lists.length
  operation : ∀ task frame, s.tasks task = some (.suspended frame) →
    Started s.world frame.operation

/-- A new builder is in order. -/
theorem orderly_new : new.Orderly where
  oneList := ⟨fun _ h => (nomatch h), fun _ _ => rfl⟩
  listed _ h := nomatch h
  started _ h := nomatch h
  tasks _ _ := rfl
  guarded _ _ h := nomatch h
  list _ _ h := nomatch h
  operation _ _ h := nomatch h

/-- A task that was set to something was started. -/
theorem Orderly.lt_started {s : SharedBuilder} (h : s.Orderly) {task : Nat} {status : Task}
    (htask : s.tasks task = some status) : task < s.started := by
  by_contra hle
  rw [h.tasks task (Nat.le_of_not_lt hle)] at htask
  cases htask

/-- Queueing keeps a builder in order. -/
theorem Orderly.queues {s s' : SharedBuilder} (h : s.Orderly) (hqueues : s.Queues s') :
    s'.Orderly where
  oneList := hqueues.oneList
  listed id hid := by
    rw [hqueues.listed, List.mem_append, List.mem_singleton] at hid
    rw [hqueues.queued]
    rcases hid with hid | rfl
    · exact Nat.lt_succ_of_lt (h.listed id hid)
    · exact Nat.lt_succ_self _
  started id hid := by
    rw [hqueues.started_iff] at hid
    rw [hqueues.queued]
    exact Nat.lt_succ_of_lt (h.started id hid)
  tasks task htask := by
    rw [hqueues.started] at htask
    rw [hqueues.tasks]
    exact h.tasks task htask
  guarded task frame htask := h.guarded task frame (hqueues.tasks ▸ htask)
  list task frame htask := (h.list task frame (hqueues.tasks ▸ htask)).trans_le hqueues.lists
  operation task frame htask := by
    rw [hqueues.started_iff]
    exact h.operation task frame (hqueues.tasks ▸ htask)

/-- A stretch keeps a builder in order. -/
theorem Orderly.sets {s s' : SharedBuilder} (h : s.Orderly) {task : Nat} {status : Task}
    {ids : List Nat} (hsets : s.Sets task status w s') (hmove : LoopMove ids s.world w)
    (hlisted : s'.listed ⊆ s.listed) (hids : ∀ id ∈ ids, Started s.world id ∨ id ∈ s.listed)
    (htask : task < s.started)
    (hframe : ∀ frame, status = .suspended frame →
      frame.Guarded ∧ frame.list < s.lists.length ∧ Started w frame.operation) :
    s'.Orderly := by
  -- A suspended task is that of the stretch, or was suspended before.
  have hframes : ∀ task' frame, s'.tasks task' = some (.suspended frame) →
      status = .suspended frame ∨ s.tasks task' = some (.suspended frame) := by
    intro task' frame htask'
    rw [hsets.tasks] at htask'
    exact suspended_of_update htask'
  refine ⟨hsets.oneList, ?_, ?_, ?_, ?_, ?_, ?_⟩
  · intro id hid
    rw [hsets.queued]
    exact h.listed id (hlisted hid)
  · intro id hid
    rw [hsets.world] at hid
    rw [hsets.queued]
    rcases hmove.started id hid with hstarted | hmem
    · exact h.started id hstarted
    · exact (hids id hmem).elim (h.started id) (h.listed id)
  · intro task' htask'
    rw [hsets.started] at htask'
    rw [hsets.tasks, Function.update_of_ne (by omega)]
    exact h.tasks task' htask'
  · intro task' frame htask'
    rcases hframes task' frame htask' with hstatus | hbefore
    · exact (hframe frame hstatus).1
    · exact h.guarded task' frame hbefore
  · intro task' frame htask'
    rw [hsets.lists]
    rcases hframes task' frame htask' with hstatus | hbefore
    · exact (hframe frame hstatus).2.1
    · exact h.list task' frame hbefore
  · intro task' frame htask'
    rw [hsets.world]
    rcases hframes task' frame htask' with hstatus | hbefore
    · exact (hframe frame hstatus).2.2
    · exact hmove.trace.subset (h.operation task' frame hbefore)

/-- The loop that a step goes on with, if there is one: the task, the list object that it iterates
over, and how it goes. -/
def stretch (s : SharedBuilder) : Label → Option (Nat × ListRef × Progress)
  | .start =>
      match s.world.state.operations with
      | some list =>
          match s.listAt list with
          | [] => none
          | operations => some (s.started, list, runFrom rt builder list 0 operations s.world)
      | none => none
  | .resume task answer =>
      match s.tasks task with
      | some (.suspended frame) => some (task, frame.list,
          frame.proceed rt builder (answer frame.request) (s.listAt frame.list) s.world)
      | _ => none
  | .queue _ | .cancel _ => none

/-- A new task has been counted. -/
def counted (s : SharedBuilder) : SharedBuilder := { s with started := s.started + 1 }

/-- A task that starts finds nothing to do, or loops over the list that the builder refers to. -/
theorem start_cases (s : SharedBuilder) :
    (s.listed = [] ∧ s.stretch rt builder .start = none ∧ ∃ e,
      s.step rt builder .start = s.counted.setTask s.started (.ended (.error e))) ∨
    ∃ list, s.world.state.operations = some list ∧
      s.stretch rt builder .start =
        some (s.started, list, runFrom rt builder list 0 (s.listAt list) s.world) ∧
      s.step rt builder .start =
        s.counted.settle s.started (runFrom rt builder list 0 (s.listAt list) s.world) := by
  unfold step start stretch
  cases hoperations : s.world.state.operations with
  | none =>
      refine .inl ⟨?_, rfl, _, rfl⟩
      unfold listed
      rw [hoperations]
  | some list =>
      dsimp only
      cases hlist : s.listAt list with
      | nil =>
          refine .inl ⟨?_, rfl, _, rfl⟩
          rw [listed_of_some hoperations, hlist, List.map_nil]
      | cons operation operations => exact .inr ⟨list, rfl, by rw [hlist], by rw [hlist]; rfl⟩

/-- A task that is answered was not suspended, or goes on with its loop. -/
theorem resume_cases (s : SharedBuilder) (task : Nat) (answer : (request : Request) → Answer request) :
    (s.stretch rt builder (.resume task answer) = none ∧
      s.step rt builder (.resume task answer) = s) ∨
    ∃ frame, s.tasks task = some (.suspended frame) ∧
      s.stretch rt builder (.resume task answer) = some (task, frame.list,
        frame.proceed rt builder (answer frame.request) (s.listAt frame.list) s.world) ∧
      s.step rt builder (.resume task answer) = s.settle task
        (frame.proceed rt builder (answer frame.request) (s.listAt frame.list) s.world) := by
  unfold step resume stretch
  dsimp only
  rcases htask : s.tasks task with _ | frame | result
  · exact .inl ⟨rfl, rfl⟩
  · exact .inr ⟨frame, rfl, rfl, rfl⟩
  · exact .inl ⟨rfl, rfl⟩

/-- What a step does to the operations: it starts those in the list only, and puts new ones there
only. -/
structure Follows (s s' : SharedBuilder) : Prop where
  queued : s.queued ≤ s'.queued
  started : ∀ id, Started s'.world id → Started s.world id ∨ id ∈ s.listed
  listed : ∀ id ∈ s'.listed, id ∈ s.listed ∨ s.queued ≤ id

/-- The operations in hand of a loop that goes on were started or are in the list. -/
theorem Orderly.inHand {s : SharedBuilder} (h : s.Orderly) {task : Nat} {frame : Frame}
    (htask : s.tasks task = some (.suspended frame)) :
    ∀ id ∈ frame.operation :: ((s.listAt frame.list).map (·.id)).drop frame.next,
      Started s.world id ∨ id ∈ s.listed := by
  rintro id hid
  rcases List.mem_cons.mp hid with rfl | hdrop
  · exact .inl (h.operation task frame htask)
  · have hmem := List.mem_of_mem_drop hdrop
    by_cases hlist : s.world.state.operations = some frame.list
    · rw [listed_of_some hlist]
      exact .inr hmem
    · rw [h.oneList.others frame.list hlist] at hmem
      cases hmem

/-- A stretch of a loop keeps a builder in order. -/
theorem Orderly.settle {s : SharedBuilder} (h : s.Orderly) {task : Nat} (htask : task < s.started)
    {list : ListRef} (hlist : list < s.lists.length) {next : Nat} {ids : List Nat}
    (hids : ∀ id ∈ ids, Started s.world id ∨ id ∈ s.listed) {progress : Progress}
    (hruns : progress.Runs s.world list next ids) :
    (s.settle task progress).Orderly ∧ s.Follows (s.settle task progress) := by
  rcases progress with ⟨frame, w⟩ | ⟨e, w⟩ | w
  · obtain ⟨rfl, hguarded, hstarted, done, rest, rfl, -, hmove, -⟩ := hruns
    obtain ⟨hsets, hlisted⟩ := h.oneList.sets task (.suspended frame) hmove.operations
    have hsub : (s.settle task (.suspended frame w)).listed ⊆ s.listed := fun _ hid => hlisted ▸ hid
    have hids' : ∀ id ∈ done ++ [frame.operation], Started s.world id ∨ id ∈ s.listed :=
      fun id hid => hids id (by
        rw [← List.singleton_append, ← List.append_assoc]
        exact List.mem_append_left _ hid)
    refine ⟨h.sets hsets hmove hsub hids' htask ?_, le_rfl, ?_, ?_⟩
    · rintro frame' ⟨⟩
      exact ⟨hguarded, hlist, hstarted⟩
    · exact fun id hid => (hmove.started id hid).elim .inl (hids' id)
    · exact fun id hid => .inl (hsub hid)
  · have hmove : LoopMove ids s.world w := hruns
    obtain ⟨hsets, hlisted⟩ := h.oneList.sets task (.ended (.error e)) hmove.operations
    have hsub : (s.settle task (.raised e w)).listed ⊆ s.listed := fun _ hid => hlisted ▸ hid
    refine ⟨h.sets hsets hmove hsub hids htask (fun _ h => nomatch h), le_rfl, ?_, ?_⟩
    · exact fun id hid => (hmove.started id hid).elim .inl (hids id)
    · exact fun id hid => .inl (hsub hid)
  · obtain ⟨hmove, -⟩ := hruns
    obtain ⟨⟨result, hsets⟩, hlisted⟩ := h.oneList.finish task hmove.operations
    have hsub : (s.settle task (.finished w)).listed ⊆ s.listed := by
      rw [show (s.settle task (.finished w)).listed = [] from hlisted]
      exact List.nil_subset _
    refine ⟨h.sets hsets hmove hsub hids htask (fun _ h => nomatch h), hsets.queued.ge, ?_, ?_⟩
    · intro id hid
      rw [show (s.settle task (.finished w)).world = w from hsets.world] at hid
      exact (hmove.started id hid).elim .inl (hids id)
    · exact fun id hid => .inl (hsub hid)

theorem Follows.refl (s : SharedBuilder) : s.Follows s :=
  ⟨le_rfl, fun _ h => .inl h, fun _ h => .inl h⟩

/-- A builder in which a new task was counted is in order. -/
theorem Orderly.counted {s : SharedBuilder} (h : s.Orderly) : s.counted.Orderly :=
  ⟨⟨h.oneList.valid, h.oneList.others⟩, h.listed, h.started,
    fun task htask => h.tasks task (Nat.le_of_succ_le htask), h.guarded, h.list, h.operation⟩

/-- A task that ends without doing anything. -/
theorem Orderly.setTask_ended {s : SharedBuilder} (h : s.Orderly) {task : Nat}
    (htask : task < s.started) (result : Except Exc EndorsedTX) :
    (s.setTask task (.ended result)).Orderly := by
  have hmove : LoopMove [] s.world s.world := ⟨rfl, List.prefix_rfl, fun _ h => .inl h⟩
  exact h.sets (h.oneList.sets task (.ended result) rfl).1 hmove (fun _ hid => hid)
    (fun _ h => nomatch h) htask fun _ h => nomatch h

/-- **Every step** of any number of tasks keeps a builder in order. -/
theorem Orderly.step {s : SharedBuilder} (h : s.Orderly) (label : Label) :
    (s.step rt builder label).Orderly ∧ s.Follows (s.step rt builder label) := by
  cases label with
  | queue kind =>
      have hqueues := h.oneList.queues kind
      refine ⟨h.queues hqueues, ?_, fun id hid => .inl ?_, fun id hid => ?_⟩
      · exact (Nat.le_succ _).trans hqueues.queued.ge
      · exact (hqueues.started_iff id).mp hid
      · rw [show (s.step rt builder (.queue kind)).listed = _ from hqueues.listed, List.mem_append,
          List.mem_singleton] at hid
        exact hid.imp_right Eq.ge
  | start =>
      rcases s.start_cases rt builder with ⟨-, -, e, heq⟩ | ⟨list, hlist, -, heq⟩ <;> rw [heq]
      · exact ⟨h.counted.setTask_ended (Nat.lt_succ_self _) _, le_rfl, fun _ h => .inl h,
          fun _ h => .inl h⟩
      · have hids : ∀ id ∈ (s.listAt list).map (·.id), Started s.world id ∨ id ∈ s.listed := by
          rw [listed_of_some hlist]
          exact fun id hid => .inr hid
        obtain ⟨horderly, hfollows⟩ := h.counted.settle (Nat.lt_succ_self _)
          (h.oneList.valid list hlist) hids (runs_runFrom rt builder list 0 (s.listAt list) s.world)
        exact ⟨horderly, hfollows.queued, hfollows.started, hfollows.listed⟩
  | resume task answer =>
      rcases s.resume_cases rt builder task answer with ⟨-, heq⟩ | ⟨frame, htask, -, heq⟩ <;> rw [heq]
      · exact ⟨h, .refl s⟩
      · exact h.settle (h.lt_started htask) (h.list task frame htask) (h.inHand htask)
          (runs_proceed rt builder (h.guarded task frame htask) _ _ (h.operation task frame htask))
  | cancel task =>
      unfold SharedBuilder.step cancel
      dsimp only
      split
      · rename_i frame htask
        exact ⟨h.setTask_ended (h.lt_started htask) _, le_rfl, fun _ h => .inl h, fun _ h => .inl h⟩
      · exact ⟨h, .refl s⟩

/-- **An operation that is lost stays lost**: one that was not started and is no longer in the list
is not started in any interleaving that goes on from there, by induction on the steps. -/
theorem Orderly.lost_forever {s : SharedBuilder} (h : s.Orderly) {id : Nat} (hid : id < s.queued)
    (hstarted : ¬ Started s.world id) (hlisted : id ∉ s.listed) (labels : List Label) :
    id < (s.run rt builder labels).queued ∧ ¬ Started (s.run rt builder labels).world id := by
  induction labels generalizing s with
  | nil => exact ⟨hid, hstarted⟩
  | cons label labels ih =>
      obtain ⟨horderly, hqueued, hbegun, hnew⟩ := h.step rt builder label
      refine ih horderly (hid.trans_le hqueued) (fun hid' => ?_) fun hid' => ?_
      · exact (hbegun id hid').elim hstarted hlisted
      · exact (hnew id hid').elim hlisted (Nat.not_le_of_lt hid)

end SharedBuilder

end Snakeskin
