import Snakeskin.AwaitGroups
import Snakeskin.HubSearches

/-! # Awaits that report a transaction never proposed

An await raises `Transaction never proposed` when its builder holds no endorsed transaction, and
also when there is nothing to run. This file says exactly after which calls an await is right to
report so, and to report an error at all. -/

namespace Snakeskin

open Wire

variable (rt : Runtime) (builder : GatewayTXBuilder) (network : Network)

/-! ## What operations raise -/

/-- The exception of an await without an endorsed transaction. -/
def neverProposed : Exc := .blockchainError "Transaction never proposed"

/-- Whatever it is answered, the coroutine does not raise that exception. -/
def RaisesOther {σ α : Type} (c : Async σ α) : Prop :=
  ∀ s, Coro.Ensures (fun _ => True) (fun _ _ => True) (fun e _ => e ≠ neverProposed) c s

section Raises

variable {σ α β : Type}

/-- An exception of Python or of a library is another one. -/
theorem ne_neverProposed_of_isBuiltin {e : Exc} (h : e.isBuiltin = true) : e ≠ neverProposed := by
  rintro rfl
  cases h

/-- A computation that raises other exceptions. -/
theorem RaisesOther.ofExcept {x : Except Exc α} (h : ∀ e, x = .error e → e ≠ neverProposed) :
    RaisesOther (Coro.ofExcept x : Async σ α) :=
  fun _ => Coro.Ensures.ofExcept (fun _ _ => trivial) h

/-- A sequence of two parts. -/
theorem RaisesOther.bind {c : Async σ α} {f : α → Async σ β} (hc : RaisesOther c)
    (hf : ∀ a, RaisesOther (f a)) : RaisesOther (c.bind f) := by
  intro s
  exact Coro.Ensures.bind (Coro.Ensures.mono (fun _ h => h) (fun a s' _ => hf a s') (fun _ _ h => h)
    (hc s))

/-- A request and what follows. -/
theorem RaisesOther.request_bind {q : Request} {f : Answer q → Async σ β}
    (hf : ∀ a, RaisesOther (f a)) : RaisesOther ((Coro.request q : Async σ (Answer q)).bind f) :=
  fun s => Coro.Ensures.request_bind trivial fun a => hf a s

/-- A coroutine without state, lifted. -/
theorem RaisesOther.lift {c : Async Unit α} (h : RaisesOther c) :
    RaisesOther (Coro.lift c : Async σ α) := fun s =>
  Coro.Ensures.mono (fun _ h => h) (fun _ _ _ => trivial) (fun _ _ h => h.1) (Coro.Ensures.lift (h ()) s)

/-- A coroutine whose exceptions are handled. -/
theorem RaisesOther.tryCatch {c : Async σ α} {handler : Exc → Async σ α} (hc : RaisesOther c)
    (hhandler : ∀ e, e ≠ neverProposed → RaisesOther (handler e)) : RaisesOther (c.tryCatch handler) := by
  intro s
  exact Coro.Ensures.tryCatch (Coro.Ensures.mono (fun _ h => h) (fun _ _ h => h)
    (fun e s' he => hhandler e he s') (hc s))

end Raises

/-- The first error to arrive is that of an argument, by induction on the arguments. -/
theorem exists_of_firstFailure {α : Type} {results : List (Except Exc α × Nat)} {e : Exc} {t : Nat}
    (h : firstFailure results = some (e, t)) : ∃ r ∈ results, r.1 = .error e := by
  induction results with
  | nil => cases h
  | cons r results ih =>
      obtain ⟨_ | a, t'⟩ := r
      all_goals rw [firstFailure] at h
      · rename_i e'
        cases hrest : firstFailure results with
        | none =>
            rw [hrest] at h
            cases h
            exact ⟨_, List.mem_cons_self, rfl⟩
        | some earliest =>
            rw [hrest] at h
            dsimp only at h
            split at h
            · cases h
              obtain ⟨r, hr, herror⟩ := ih hrest
              exact ⟨r, List.mem_cons_of_mem _ hr, herror⟩
            · cases h
              exact ⟨_, List.mem_cons_self, rfl⟩
      · obtain ⟨r, hr, herror⟩ := ih h
        exact ⟨r, List.mem_cons_of_mem _ hr, herror⟩

/-- A proposal raises none. -/
theorem raisesOther_proposeTx (peers : List Peer) (generatedTx : GeneratedTX) :
    RaisesOther (proposeTx peers generatedTx) := by
  unfold proposeTx
  split
  · exact fun _ h => nomatch h
  · refine RaisesOther.request_bind fun answers => RaisesOther.bind (RaisesOther.ofExcept ?_)
      fun _ _ => trivial
    intro e h
    unfold gather at h
    split at h
    · rename_i e' t hfirst
      cases h
      obtain ⟨r, hr, herror⟩ := exists_of_firstFailure hfirst
      obtain ⟨i, rfl⟩ := List.mem_ofFn.mp hr
      dsimp only at herror
      cases hanswer : answers.result i with
      | error rpcError =>
          rw [hanswer] at herror
          cases herror
          exact fun heq => nomatch heq
      | ok response =>
          rw [hanswer] at herror
          cases herror
    · cases h

/-- A commit raises none: the failover over the orderers raises what one of them makes it raise. -/
theorem raisesOther_commitTx (requestor : User) (orderers : List Orderer) (endorsedTx : EndorsedTX) :
    RaisesOther (commitTx rt requestor orderers endorsedTx) := by
  have hresponse : ∀ (txId : String) (stream : Stream BroadcastResponse) e,
      firstBroadcastResponse txId stream = .error e → e ≠ neverProposed := by
    intro txId stream e h
    unfold firstBroadcastResponse at h
    split at h
    · split at h
      · cases h
        exact fun heq => nomatch heq
      · cases h
    · cases h
    · cases h
      exact fun heq => nomatch heq
    · cases h
      exact fun heq => nomatch heq
  have hloop : ∀ (envelope : Envelope) (txId : String) (orderers : List Orderer) (error : Exc),
      error ≠ neverProposed → RaisesOther (broadcastLoop envelope txId error orderers) := by
    intro envelope txId orderers
    induction orderers with
    | nil => exact fun error herror _ => herror
    | cons orderer orderers ih =>
        intro error herror
        refine RaisesOther.tryCatch (RaisesOther.request_bind fun stream =>
          RaisesOther.ofExcept (hresponse txId stream)) fun err herr => ?_
        split
        · exact ih _ herr
        · exact fun _ => herr
  refine RaisesOther.bind (RaisesOther.ofExcept ?_) fun envelope => ?_
  · intro e h
    unfold buildEndorsedTxEnvelope at h
    cases hresponses : endorsedTx.peerResponses with
    | nil =>
        rw [hresponses] at h
        cases h
        exact fun heq => nomatch heq
    | cons response responses =>
        rw [hresponses] at h
        cases h
  · unfold broadcastToOrderers
    split
    · exact fun _ heq => nomatch heq
    · exact hloop _ _ _ _ fun heq => nomatch heq

/-- A search raises none. -/
theorem raisesOther_getTransaction (requestor : User) (channel : Option Channel) (peer : Peer)
    (txId : String) (start : Option Int) (behavior : SeekBehavior) :
    RaisesOther (getTransaction rt requestor channel peer txId start behavior) := by
  refine RaisesOther.bind ?_ fun envelope => RaisesOther.request_bind fun stream =>
    RaisesOther.ofExcept ?_
  · -- The seek request and its envelope are built with errors of Python and its libraries only.
    refine RaisesOther.bind (RaisesOther.ofExcept fun e h => ?_) fun info =>
      RaisesOther.request_bind fun drawn => RaisesOther.ofExcept fun e h => ?_
    · exact ne_neverProposed_of_isBuiltin (raisesBuiltin_buildSeekInfo _ _ _ e h)
    · exact ne_neverProposed_of_isBuiltin (raisesBuiltin_seekEnvelope rt _ _ _ _ e h)
  · intro e h
    obtain ⟨responses, ending⟩ := stream
    obtain rfl | ⟨s, rfl⟩ | ⟨n, rfl⟩ := search_error_cases h
    · cases ending <;> exact fun heq => nomatch heq
    · exact fun heq => nomatch heq
    · exact fun heq => nomatch heq

/-- Waiting with a timeout raises none where the coroutine raises none. -/
theorem RaisesOther.waitFor {σ α : Type} {c : Async σ α} (h : RaisesOther c) (timeout : Int) :
    RaisesOther (waitFor c timeout) := by
  unfold Snakeskin.waitFor
  split
  · exact fun _ heq => nomatch heq
  · refine RaisesOther.tryCatch h fun e he => ?_
    split
    · exact fun _ heq => nomatch heq
    · exact fun _ => he

/-- Waiting on a peer raises none. -/
theorem raisesOther_awaitTransaction (raiseErrors : Bool) (timeout : Int) (txId : String) (peer : Peer) :
    RaisesOther (builder.awaitTransaction rt raiseErrors timeout txId peer) := by
  have hwait := fun requestor => (raisesOther_getTransaction rt requestor builder.gateway.channel peer
    txId none .blockUntilReady).waitFor timeout
  unfold GatewayTXBuilder.awaitTransaction
  split
  · split
    · refine RaisesOther.bind (hwait _) fun tx => ?_
      split
      · unfold mkTransactionValidationError
        split <;> exact fun _ heq => nomatch heq
      · exact fun _ => trivial
    · exact hwait _
  · refine RaisesOther.waitFor ?_ timeout
    exact fun _ heq => nomatch heq

/-- The loop over the peers raises none, by induction on the peers. -/
theorem raisesOther_waitLoop {L : Type} (raiseErrors : Bool) (timeout : Int) {error : Exc}
    (herror : error ≠ neverProposed) (peers : List Peer) :
    RaisesOther (builder.waitLoop rt raiseErrors timeout error peers : Async (BuilderState L) Unit) := by
  induction peers generalizing error with
  | nil => exact fun _ => herror
  | cons peer peers ih =>
      have hround : RaisesOther
          (builder.waitOnPeer rt raiseErrors timeout peer : Async (BuilderState L) Unit) := by
        intro s
        refine Coro.Ensures.read_bind ?_
        cases s.endorsedTx with
        | none => exact fun heq => nomatch heq
        | some endorsedTx =>
            refine RaisesOther.bind (raisesOther_awaitTransaction rt builder raiseErrors timeout
              endorsedTx.txId peer).lift ?_ s
            exact fun _ _ => trivial
      refine RaisesOther.tryCatch hround fun err herr => ?_
      split
      · exact ih herr
      · exact fun _ => herr

/-- **No operation raises it.** -/
theorem raisesOther_operate {L : Type} (kind : OperationKind) :
    RaisesOther (builder.operate rt kind : Async (BuilderState L) Unit) := by
  cases kind with
  | propose raiseErrors =>
      refine RaisesOther.bind (raisesOther_proposeTx _ _).lift fun endorsedTx s => ?_
      refine Coro.Ensures.annotate_bind trivial ?_
      cases raiseErrors with
      | false => trivial
      | true =>
          refine Coro.Ensures.ofExcept (fun _ _ => trivial) fun e h => ?_
          unfold raiseTxProposalError at h
          split at h
          · cases h
          · cases h
            exact fun heq => nomatch heq
  | submit =>
      intro s
      refine Coro.Ensures.read_bind ?_
      cases s.endorsedTx with
      | none => exact fun heq => nomatch heq
      | some endorsedTx =>
          refine Coro.Ensures.annotate_bind trivial ?_
          refine RaisesOther.bind (RaisesOther.lift ?_) ?_ s
          swap
          · exact fun _ _ => ⟨trivial, trivial⟩
          unfold GatewayTXBuilder.commit
          split
          · exact raisesOther_commitTx rt _ _ _
          · exact fun _ heq => nomatch heq
  | waitForCommit raiseErrors timeout =>
      intro s
      refine Coro.Ensures.read_bind ?_
      by_cases hcommitted : s.committed = true
      · rw [if_pos hcommitted]
        exact raisesOther_waitLoop rt builder raiseErrors timeout (by decide) _ s
      · rw [if_neg hcommitted]
        exact fun heq => nomatch heq

/-- Nor does the loop over operations, by induction on them. -/
theorem raisesOther_runLoop {L : Type} (operations : List Operation) :
    RaisesOther (builder.runLoop rt operations : Async (BuilderState L) Unit) := by
  induction operations with
  | nil => exact fun _ => trivial
  | cons operation operations ih =>
      intro s
      refine Coro.Ensures.annotate_bind trivial ?_
      refine (raisesOther_operate rt builder operation.kind).bind (fun _ s' => ?_) s
      exact Coro.Ensures.annotate_bind trivial (ih s')

/-! ## What loops leave stored -/

/-- An operation that has a transaction stored before it, or that proposes and returns, leaves one
stored. -/
theorem isSome_endorsedTx_operate {L : Type} (kind : OperationKind) (w : World (BuilderState L)) :
    let run := Coro.run network (builder.operate rt kind) w
    w.state.endorsedTx.isSome = true ∨ (∃ raiseErrors, kind = .propose raiseErrors) ∧ run.1 = .ok () →
      run.2.state.endorsedTx.isSome = true := by
  intro run h
  obtain ⟨es, -, hstate, hpropose⟩ := run_operate_endorsedTx rt builder network kind w
  rw [hstate, Option.isSome_or, Bool.or_eq_true]
  obtain hbefore | ⟨⟨raiseErrors, hkind⟩, hok⟩ := h
  · exact .inr hbefore
  · exact .inl (hpropose raiseErrors hkind hok)

/-- A loop over operations with distinct numbers that has a transaction stored before it, or in
which a propose completes, leaves one stored; by induction on the operations. -/
theorem isSome_endorsedTx_runLoop {L : Type} {operations : List Operation}
    (hnodup : (operations.map (·.id)).Nodup) (w : World (BuilderState L)) :
    let loop := Coro.run network (builder.runLoop rt operations) w
    ∃ es, loop.2.trace = w.trace ++ es ∧
      (w.state.endorsedTx.isSome = true ∨
        (∃ operation ∈ operations, (∃ raiseErrors, operation.kind = .propose raiseErrors) ∧
          .inr (.operationCompleted operation.id) ∈ es) →
        loop.2.state.endorsedTx.isSome = true) := by
  induction operations generalizing w with
  | nil => exact ⟨[], (List.append_nil _).symm, fun h => h.resolve_right fun ⟨_, hmem, _⟩ => nomatch hmem⟩
  | cons operation operations ih =>
      intro loop
      rw [List.map_cons, List.nodup_cons] at hnodup
      obtain ⟨⟨es, htrace, hes⟩, -⟩ := Coro.Ensures.run network
        (w.record (.inr (.operationStarted operation.id)))
        (ensures_operate_operationId rt builder operation.kind w.state)
      have hstored := isSome_endorsedTx_operate rt builder network operation.kind
        (w.record (.inr (.operationStarted operation.id)))
      have hquiet : ∀ id, .inr (.operationCompleted id) ∉ es := fun id hmem => nomatch hes _ hmem
      obtain ⟨e, -, -, hkept, hends⟩ | ⟨next, hok, hkept, hnext, hgo⟩ :=
        run_runLoop_cons rt builder network operation operations w htrace
      · -- The operation raises, and nothing completes.
        refine ⟨.inr (.operationStarted operation.id) :: es, hends, ?_⟩
        rw [hkept]
        rintro (hbefore | ⟨other, -, -, hcompleted⟩)
        · exact hstored (.inl hbefore)
        · obtain hfirst | hrest := List.mem_cons.mp hcompleted
          · cases hfirst
          · exact absurd hrest (hquiet _)
      · obtain ⟨es', htrace', hrest⟩ := ih hnodup.2 next
        rw [← hgo] at htrace' hrest
        rw [hkept] at hrest
        refine ⟨.inr (.operationStarted operation.id) :: es ++
          .inr (.operationCompleted operation.id) :: es', ?_, ?_⟩
        · rw [htrace', hnext]
          simp
        · rintro (hbefore | ⟨other, hother, hpropose, hcompleted⟩)
          · exact hrest (.inl (hstored (.inl hbefore)))
          · obtain rfl | hlater := List.mem_cons.mp hother
            · -- This operation is the propose, and it has returned.
              exact hrest (.inl (hstored (.inr ⟨hpropose, hok⟩)))
            · refine hrest (.inr ⟨other, hlater, hpropose, ?_⟩)
              obtain hfirst | hlast := List.mem_append.mp hcompleted
              · obtain hstart | hmem := List.mem_cons.mp hfirst
                · cases hstart
                · exact absurd hmem (hquiet _)
              · obtain hthis | hmem := List.mem_cons.mp hlast
                · have hid := Note.operationCompleted.inj (Sum.inr.inj hthis)
                  exact absurd (hid ▸ List.mem_map_of_mem hlater) hnodup.1
                · exact hmem

/-! ## Accounts of a session -/

/-- How many operations were queued since the last await. -/
def sinceAwait (commands : List Command) : Nat :=
  commands.foldl (fun n command => match command with
    | .queue _ => n + 1
    | .await => 0) 0

/-- Some propose has completed: the number of an operation is its place among those queued. -/
def ProposeCompleted (commands : List Command) (trace : List Event) : Prop :=
  ∃ id raiseErrors, (queuedKinds commands)[id]? = some (.propose raiseErrors) ∧
    .inr (.operationCompleted id) ∈ trace

/-- Every operation queued since the last await has completed. -/
def FreshCompleted (commands : List Command) (trace : List Event) : Prop :=
  let queued := (queuedKinds commands).length
  ∀ id, queued - sinceAwait commands ≤ id → id < queued → .inr (.operationCompleted id) ∈ trace

/-- What holds after some calls on a new builder: the queue holds operations that these calls
queued, each once, and last of all the one queued since the last await, which has not completed; and
where a propose has completed a transaction is stored. -/
structure Session.Accounts (commands : List Command) (s : Session) : Prop where
  queued : s.queued = (queuedKinds commands).length
  nodup : (s.queue.map (·.id)).Nodup
  kinds : ∀ operation ∈ s.queue, (queuedKinds commands)[operation.id]? = some operation.kind
  completed_lt : ∀ id, .inr (.operationCompleted id) ∈ s.world.trace → id < s.queued
  fresh : 0 < sinceAwait commands → ∃ kept last, s.queue = kept ++ [last] ∧ last.id + 1 = s.queued ∧
    .inr (.operationCompleted last.id) ∉ s.world.trace
  proposed : ProposeCompleted commands s.world.trace → s.world.state.endorsedTx.isSome = true

/-- A new builder is accounted for. -/
theorem Session.accounts_new : Session.new.Accounts [] where
  queued := rfl
  nodup := List.nodup_nil
  kinds _ h := nomatch h
  completed_lt _ h := nomatch h
  fresh h := nomatch h
  proposed h := nomatch h.choose_spec.choose_spec.2

theorem queuedKinds_queue (commands : List Command) (kind : OperationKind) :
    queuedKinds (commands ++ [.queue kind]) = queuedKinds commands ++ [kind] := by
  rw [queuedKinds, List.filterMap_append]
  rfl

theorem queuedKinds_await (commands : List Command) :
    queuedKinds (commands ++ [.await]) = queuedKinds commands := by
  rw [queuedKinds, List.filterMap_append]
  exact List.append_nil _

theorem sinceAwait_await (commands : List Command) : sinceAwait (commands ++ [.await]) = 0 := by
  rw [sinceAwait, List.foldl_append]
  rfl

/-- Queueing an operation keeps the accounts. -/
theorem Session.Accounts.queue {commands : List Command} {s : Session} (h : s.Accounts commands)
    (kind : OperationKind) :
    (s.step rt builder network (.queue kind)).Accounts (commands ++ [.queue kind]) := by
  set s' := s.step rt builder network (.queue kind) with hs'
  have hqueue : s'.queue = s.queue ++ [⟨s.queued, kind⟩] :=
    s.queue_step_queue rt builder network kind
  have htrace : s'.world.trace = s.world.trace := s.trace_step_queue rt builder network kind
  have hqueued : s'.queued = s.queued + 1 := rfl
  have hstored : s'.world.state.endorsedTx = s.world.state.endorsedTx := by
    show (GatewayTXBuilder.addOperation s.world.state ⟨s.queued, kind⟩).endorsedTx = _
    unfold GatewayTXBuilder.addOperation
    split <;> rfl
  -- The operations queued before have smaller numbers.
  have hlt : ∀ operation ∈ s.queue, operation.id < s.queued := by
    intro operation hoperation
    rw [h.queued]
    exact (List.getElem?_eq_some_iff.mp (h.kinds operation hoperation)).1
  refine ⟨?_, ?_, ?_, ?_, fun _ => ⟨s.queue, ⟨s.queued, kind⟩, hqueue, hqueued.symm, ?_⟩, ?_⟩
  · rw [hqueued, queuedKinds_queue, List.length_append, h.queued]
    rfl
  · rw [hqueue, List.map_append, List.nodup_append]
    refine ⟨h.nodup, List.nodup_singleton _, ?_⟩
    intro id hid id' hid'
    obtain ⟨operation, hoperation, rfl⟩ := List.mem_map.mp hid
    obtain rfl : id' = s.queued := by simpa using hid'
    exact Nat.ne_of_lt (hlt operation hoperation)
  · intro operation hoperation
    rw [hqueue, List.mem_append, List.mem_singleton] at hoperation
    rw [queuedKinds_queue]
    obtain hold | rfl := hoperation
    · rw [List.getElem?_append_left (h.queued ▸ hlt operation hold)]
      exact h.kinds operation hold
    · rw [h.queued, List.getElem?_concat_length]
  · intro id hid
    rw [htrace] at hid
    exact Nat.lt_succ_of_lt (h.completed_lt id hid)
  · rw [htrace]
    exact fun hmem => Nat.lt_irrefl _ (h.completed_lt _ hmem)
  · rintro ⟨id, raiseErrors, hkind, hcompleted⟩
    rw [htrace] at hcompleted
    rw [queuedKinds_queue, List.getElem?_append_left (h.queued ▸ h.completed_lt id hcompleted)] at hkind
    rw [hstored]
    exact h.proposed ⟨id, raiseErrors, hkind, hcompleted⟩

/-- An await keeps the accounts: what its loop completes are operations of the queue. -/
theorem Session.Accounts.await {commands : List Command} {s : Session} (h : s.Accounts commands) :
    (s.step rt builder network .await).Accounts (commands ++ [.await]) := by
  set s' := s.step rt builder network .await with hs'
  obtain ⟨hqueued, htrace, hstored, hqueue⟩ := s.step_await rt builder network
  obtain ⟨done, rest, es, hops, hes, hevents, -⟩ := run_runLoop rt builder network s.queue s.world
  obtain ⟨es', hes', hproposed⟩ := isSome_endorsedTx_runLoop rt builder network h.nodup s.world
  obtain rfl : es = es' := List.append_cancel_left (hes.symm.trans hes')
  rw [hes] at htrace
  have hcompleted : ∀ id, .inr (.operationCompleted id) ∈ es → ∃ operation ∈ s.queue, operation.id = id := by
    intro id hid
    have hmem : .inr (.operationCompleted id) ∈ loopEvents done rest := by
      rw [← hevents]
      exact List.mem_filter.mpr ⟨hid, rfl⟩
    obtain ⟨operation, hdone, hoperation⟩ := completed_mem_loopEvents.mp hmem
    exact ⟨operation, hops ▸ List.mem_append_left _ hdone, hoperation⟩
  have hsub : s'.queue.Sublist s.queue := by
    obtain ⟨-, hkept⟩ | ⟨-, hcleared⟩ := hqueue
    · rw [hs', hkept]
    · rw [hs', hcleared]
      exact List.nil_sublist _
  refine ⟨?_, h.nodup.sublist (hsub.map _), ?_, ?_, ?_, ?_⟩
  · rw [hqueued, queuedKinds_await, h.queued]
  · intro operation hoperation
    rw [queuedKinds_await]
    exact h.kinds operation (hsub.subset hoperation)
  · intro id hid
    rw [hqueued]
    rw [htrace, List.mem_append] at hid
    obtain hold | hnew := hid
    · exact h.completed_lt id hold
    · obtain ⟨operation, hoperation, rfl⟩ := hcompleted id hnew
      rw [h.queued]
      exact (List.getElem?_eq_some_iff.mp (h.kinds operation hoperation)).1
  · intro hsince
    rw [sinceAwait_await] at hsince
    cases hsince
  · rintro ⟨id, raiseErrors, hkind, hid⟩
    rw [queuedKinds_await] at hkind
    rw [hstored]
    rw [htrace, List.mem_append] at hid
    obtain hold | hnew := hid
    · exact hproposed (.inl (h.proposed ⟨id, raiseErrors, hkind, hold⟩))
    · -- The propose is an operation of the queue that this await has completed.
      obtain ⟨operation, hoperation, rfl⟩ := hcompleted id hnew
      rw [h.kinds operation hoperation] at hkind
      exact hproposed (.inr ⟨operation, hoperation, ⟨raiseErrors, Option.some.inj hkind⟩, hnew⟩)

/-- **The accounts hold after any calls**, by induction on them. -/
theorem Session.accounts_run (commands : List Command) :
    (Session.new.run rt builder network commands).Accounts commands := by
  induction commands using List.reverseRecOn with
  | nil => exact Session.accounts_new
  | append_singleton commands command ih =>
      rw [Session.run_append]
      cases command with
      | queue kind => exact ih.queue rt builder network kind
      | await => exact ih.await rt builder network

/-! ## What an await reports -/

/-- What a caller expects of an await after some calls on a new builder: once a propose has
completed, and where every operation queued since the last await completes, the await returns the
endorsed transaction of the builder; and it reports a transaction never proposed only where no
propose has completed. -/
def AwaitsTruly (commands : List Command) : Prop :=
  let s' := (Session.new.run rt builder network commands).step rt builder network .await
  (ProposeCompleted commands s'.world.trace → FreshCompleted commands s'.world.trace →
    ∃ tx, s'.world.state.endorsedTx = some tx ∧ s'.awaited.getLast? = some (.ok tx)) ∧
  (s'.awaited.getLast? = some (.error neverProposed) → ¬ ProposeCompleted commands s'.world.trace)

/-- What an await of a queue with operations returns is what its loop raises, or is decided by what
the loop leaves. -/
theorem run_runOperations_of_queue {s : Session} (hqueue : s.queue ≠ []) :
    (Coro.run network (builder.runOperations rt) s.world).1 =
      (Coro.run network (builder.runLoop rt s.queue) s.world).1.bind fun _ =>
        (Coro.run network (builder.runLoop rt s.queue) s.world).2.state.awaited := by
  obtain ⟨first, rest, hcons⟩ := List.exists_cons_of_ne_nil hqueue
  have hsome := Session.operations_of_queue hcons
  rw [hcons]
  rcases hloop : Coro.run network (builder.runLoop rt (first :: rest)) s.world with ⟨e | ⟨⟩, w'⟩
  · rw [run_runOperations_of_error rt builder network hsome hloop]
    rfl
  · rw [run_runOperations_of_ok rt builder network hsome hloop]
    rfl

/-- An await that runs through nothing although it completes nothing new is right exactly where no
propose has completed. -/
theorem awaitsTruly_of_error {commands : List Command} (hsince : sinceAwait commands = 0) {e : Exc}
    (herror : (Coro.run network (builder.runOperations rt)
      (Session.new.run rt builder network commands).world).1 = .error e) :
    AwaitsTruly rt builder network commands ↔ ¬ ProposeCompleted commands
      ((Session.new.run rt builder network commands).step rt builder network .await).world.trace := by
  set s := Session.new.run rt builder network commands with hs
  have hlast : (s.step rt builder network .await).awaited.getLast? = some (.error e) := by
    rw [← herror]
    exact List.getLast?_concat
  unfold AwaitsTruly
  dsimp only
  rw [← hs, hlast]
  constructor
  · rintro ⟨hreturns, -⟩ hproposed
    have hfresh : FreshCompleted commands (s.step rt builder network .await).world.trace := by
      intro id hle hlt
      rw [hsince] at hle
      omega
    obtain ⟨tx, -, htx⟩ := hreturns hproposed hfresh
    cases htx
  · exact fun hnone => ⟨fun hproposed => absurd hproposed hnone, fun _ => hnone⟩

/-- An await whose loop raises does not reach the last operation that was queued since the last
await. -/
theorem Session.Accounts.not_freshCompleted {commands : List Command} {s : Session}
    (h : s.Accounts commands) (hsince : 0 < sinceAwait commands)
    (hruns : ¬ s.RunsThrough rt builder network) :
    ¬ FreshCompleted commands (s.step rt builder network .await).world.trace := by
  intro hfresh
  obtain ⟨-, htrace, -, -⟩ := s.step_await rt builder network
  obtain ⟨done, rest, es, hops, hes, hevents, hok⟩ := run_runLoop rt builder network s.queue s.world
  obtain ⟨kept, last, hqueue, hlast, hnew⟩ := h.fresh hsince
  have hcompleted : .inr (.operationCompleted last.id) ∈ s.world.trace ++ es := by
    rw [← hes, ← htrace]
    have hqueued := h.queued
    exact hfresh last.id (by omega) (by omega)
  have hmem : .inr (.operationCompleted last.id) ∈ loopEvents done rest := by
    rw [← hevents]
    exact List.mem_filter.mpr ⟨(List.mem_append.mp hcompleted).resolve_left hnew, rfl⟩
  obtain ⟨operation, hdone, hid⟩ := completed_mem_loopEvents.mp hmem
  -- The last operation is among those that the loop did not complete.
  have hrest : rest ≠ [] := fun hnil => hruns (hok.mpr hnil)
  have hlastRest : last ∈ rest := by
    have hgetLast : (done ++ rest).getLast? = some last := by
      rw [← hops, hqueue, List.getLast?_concat]
    rw [List.getLast?_append_of_ne_nil _ hrest] at hgetLast
    exact List.mem_of_getLast? hgetLast
  have hnodup := h.nodup
  rw [hops, List.map_append, List.nodup_append] at hnodup
  exact hnodup.2.2 _ (List.mem_map_of_mem hdone) _ (List.mem_map_of_mem hlastRest) hid

/-- Where the queue is empty, nothing was queued since the last await. -/
theorem Session.Accounts.sinceAwait_eq_zero {commands : List Command} {s : Session}
    (h : s.Accounts commands) (hqueue : s.queue = []) : sinceAwait commands = 0 := by
  by_contra hpos
  obtain ⟨kept, last, hconcat, -⟩ := h.fresh (Nat.pos_of_ne_zero hpos)
  rw [hqueue] at hconcat
  exact List.append_ne_nil_of_right_ne_nil _ (List.cons_ne_nil _ _) hconcat.symm

/-- Once a propose has completed by the end of an await, a transaction is stored there. -/
theorem Session.Accounts.exists_endorsedTx {commands : List Command} {s : Session}
    (h : s.Accounts commands)
    (hproposed : ProposeCompleted commands (s.step rt builder network .await).world.trace) :
    ∃ tx, (s.step rt builder network .await).world.state.endorsedTx = some tx := by
  refine Option.isSome_iff_exists.mp ((h.await rt builder network).proposed ?_)
  unfold ProposeCompleted
  rw [queuedKinds_await]
  exact hproposed

/-- An await whose operations all complete returns what is stored then. -/
theorem getLast?_awaited_of_runsThrough {s : Session} (hqueue : s.queue ≠ [])
    (hruns : s.RunsThrough rt builder network) :
    let s' := s.step rt builder network .await
    s'.awaited.getLast? = some s'.world.state.awaited := by
  intro s'
  obtain ⟨-, -, hstored, -⟩ := s.step_await rt builder network
  have hlast : s'.awaited.getLast? =
      some (Coro.run network (builder.runOperations rt) s.world).1 := List.getLast?_concat
  have hsame : s'.world.state.awaited =
      (Coro.run network (builder.runLoop rt s.queue) s.world).2.state.awaited := by
    rw [BuilderState.awaited, BuilderState.awaited, hstored]
  have hresult := run_runOperations_of_queue rt builder network hqueue
  rw [hruns] at hresult
  rw [hlast, hresult, hsame]
  rfl

/-- An await with an operation that raises raises what the operation does, and that is not the
report of a transaction never proposed. -/
theorem exists_error_of_not_runsThrough {s : Session} (hqueue : s.queue ≠ [])
    (hruns : ¬ s.RunsThrough rt builder network) :
    ∃ e, (Coro.run network (builder.runOperations rt) s.world).1 = .error e ∧ e ≠ neverProposed := by
  have hresult := run_runOperations_of_queue rt builder network hqueue
  have hends := (Coro.Ensures.run network s.world
    (raisesOther_runLoop rt builder s.queue s.world.state)).2
  unfold Session.RunsThrough at hruns
  cases hloop : (Coro.run network (builder.runLoop rt s.queue) s.world).1 with
  | ok u => exact absurd hloop hruns
  | error e =>
      rw [hloop] at hresult hends
      exact ⟨e, hresult, hends⟩

/-- **When an await is right about its transaction.** After any calls of one task on a new builder,
an await is as expected exactly when some operation was queued since the last await, or the queue
still holds operations of a failed await and they all complete now, or no propose has completed. -/
theorem awaitsTruly_iff (commands : List Command) :
    let s := Session.new.run rt builder network commands
    AwaitsTruly rt builder network commands ↔
      0 < sinceAwait commands ∨ (s.queue ≠ [] ∧ s.RunsThrough rt builder network) ∨
        ¬ ProposeCompleted commands (s.step rt builder network .await).world.trace := by
  intro s
  have haccounts : s.Accounts commands := Session.accounts_run rt builder network commands
  set s' := s.step rt builder network .await with hs'
  by_cases hqueue : s.queue = []
  · -- Nothing is run, and nothing was queued.
    have hsince : sinceAwait commands = 0 := haccounts.sinceAwait_eq_zero hqueue
    have herror : (Coro.run network (builder.runOperations rt) s.world).1 = .error neverProposed :=
      congrArg (·.1) (run_runOperations_of_none rt builder network hqueue)
    rw [awaitsTruly_of_error rt builder network hsince herror, hsince]
    exact ⟨fun h => .inr (.inr h),
      fun h => (h.resolve_left (Nat.lt_irrefl 0)).resolve_left fun hruns => hruns.1 hqueue⟩
  · by_cases hruns : s.RunsThrough rt builder network
    · refine iff_of_true ?_ (.inr (.inl ⟨hqueue, hruns⟩))
      have hawaited : s'.awaited.getLast? = some s'.world.state.awaited :=
        getLast?_awaited_of_runsThrough rt builder network hqueue hruns
      unfold AwaitsTruly
      dsimp only
      rw [hawaited, BuilderState.awaited]
      refine ⟨fun hp _ => ?_, fun herror hp => ?_⟩
      · obtain ⟨tx, htx⟩ := haccounts.exists_endorsedTx rt builder network hp
        exact ⟨tx, htx, by rw [htx]⟩
      · obtain ⟨tx, htx⟩ := haccounts.exists_endorsedTx rt builder network hp
        rw [htx] at herror
        cases herror
    · -- An operation raises, and with it the await.
      obtain ⟨e, herror, hother⟩ :=
        exists_error_of_not_runsThrough rt builder network hqueue hruns
      by_cases hsince : sinceAwait commands = 0
      · rw [awaitsTruly_of_error rt builder network hsince herror, hsince]
        exact ⟨fun h => .inr (.inr h),
          fun h => (h.resolve_left (Nat.lt_irrefl 0)).resolve_left fun hrun => hruns hrun.2⟩
      · have hpos : 0 < sinceAwait commands := Nat.pos_of_ne_zero hsince
        refine iff_of_true ⟨fun _ hfresh => ?_, fun hreported => ?_⟩ (.inl hpos)
        · exact absurd hfresh (haccounts.not_freshCompleted rt builder network hpos hruns)
        · have hlast : s'.awaited.getLast? =
              some (Coro.run network (builder.runOperations rt) s.world).1 := List.getLast?_concat
          rw [hlast, herror] at hreported
          exact absurd (Except.error.inj (Option.some.inj hreported)) hother

/-- A task proposes and awaits the builder, and awaits it again: the second await reports that the
transaction was never proposed. -/
theorem awaited_again_never_proposed :
    ∃ tx, buildGeneratedTx (wireRuntime id) keyedUser "cc" [[1]] (some ⟨"channel"⟩) none [9] {} =
        .ok tx ∧
      let commands : List Command := [.queue (.propose true), .await]
      let s' := (Session.new.run (wireRuntime id) ⟨keyedGateway, tx⟩ unreachableOrderers commands).step
        (wireRuntime id) ⟨keyedGateway, tx⟩ unreachableOrderers .await
      s'.awaited.map Except.isOk = [true, false] ∧
      s'.world.state.endorsedTx.isSome = true ∧
      s'.awaited.getLast? = some (.error neverProposed) ∧
      ¬ AwaitsTruly (wireRuntime id) ⟨keyedGateway, tx⟩ unreachableOrderers commands := by
  refine ⟨_, rfl, ?_⟩
  generalize htx : GeneratedTX.mk _ _ _ _ = tx
  intro commands s'
  have hreported : s'.awaited.getLast? = some (.error neverProposed) := by
    subst htx
    decide +kernel
  obtain ⟨_, hcompleted, rfl⟩ : ∃ e ∈ s'.world.trace, e = .inr (.operationCompleted 0) := by
    subst htx
    decide +kernel
  refine ⟨by subst htx; decide +kernel, by subst htx; decide +kernel, hreported, fun htruly => ?_⟩
  exact htruly.2 hreported ⟨0, true, rfl, hcompleted⟩

end Snakeskin
