import Snakeskin.BuilderRuns
import Snakeskin.SharedBuilder

/-! # The invariant of a builder

What holds of a builder in every state that is reached by any interleaving of queueing calls and of
tasks that await it: what is stored belongs to the transaction of the builder and was stored in
order, and nothing is broadcast before a proposal has returned, nor is a commit stream opened before
a commit has. The operations keep this invariant segment by segment, under the discipline that
attributes once set stay set. -/

namespace Snakeskin

variable (rt : Runtime) (builder : GatewayTXBuilder)

/-! ## The order of events -/

/-- In a trace, what satisfies `later` comes after something that satisfies `earlier`. -/
def ComesAfter (later earlier : Event → Prop) (trace : List Event) : Prop :=
  ∀ before e after, trace = before ++ e :: after → later e → ∃ e' ∈ before, earlier e'

/-- Nothing has come yet. -/
theorem comesAfter_nil (later earlier : Event → Prop) : ComesAfter later earlier [] := by
  intro before e after h
  exact absurd h (by simp)

/-- An event may come next once the earlier one has. -/
theorem ComesAfter.append {later earlier : Event → Prop} {trace : List Event}
    (h : ComesAfter later earlier trace) {e : Event}
    (he : later e → ∃ e' ∈ trace, earlier e') : ComesAfter later earlier (trace ++ [e]) := by
  intro before e' after htrace hlater
  rcases List.eq_nil_or_concat' after with rfl | ⟨after', last, rfl⟩
  · -- The event that came last.
    obtain ⟨rfl, hlast⟩ := List.append_inj' htrace rfl
    cases hlast
    exact he hlater
  · rw [← List.cons_append, ← List.append_assoc] at htrace
    obtain ⟨hbefore, -⟩ := List.append_inj' htrace rfl
    exact h before e' after' hbefore hlater

/-- `propose_tx` returned for the transaction. -/
def Event.ProposeReturned (transaction : GeneratedTX) (e : Event) : Prop :=
  ∃ rs, e = .inr (.proposeTxReturned (endorsedFrom transaction rs))

/-- `commit_tx` returned for the transaction. -/
def Event.CommitReturned (transaction : GeneratedTX) (e : Event) : Prop :=
  ∃ rs, e = .inr (.commitTxReturned (endorsedFrom transaction rs))

/-! ## The invariant and the discipline -/

/-- The invariant of a builder. -/
structure BuilderInv (w : World (BuilderState ListRef)) : Prop where
  /-- What is stored as endorsed is what `propose_tx` returned for the transaction. -/
  endorsed : ∀ tx, w.state.endorsedTx = some tx →
    ∃ rs, tx = endorsedFrom builder.transaction rs ∧ .inr (.proposeTxReturned tx) ∈ w.trace
  /-- A committed builder has an endorsed transaction, which `commit_tx` has returned for. -/
  committed : w.state.committed = true →
    w.state.endorsedTx.isSome = true ∧ ∃ e ∈ w.trace, Event.CommitReturned builder.transaction e
  /-- A filtered transaction is that of a committed builder, and has the id of its transaction. -/
  filtered : ∀ tx, w.state.filteredTx = some tx →
    w.state.committed = true ∧ tx.txId = builder.transaction.txId
  broadcasts : ComesAfter Event.IsBroadcast (Event.ProposeReturned builder.transaction) w.trace
  streams : ComesAfter Event.IsDeliver (Event.CommitReturned builder.transaction) w.trace
  /-- A stream is opened as the wait operation opens it. -/
  opened : ∀ e ∈ w.trace, Event.IsDeliver e → Event.OfWait rt e

/-- How the world moves: attributes once set stay set, and the trace grows. -/
structure Advances (w w' : World (BuilderState ListRef)) : Prop where
  endorsed : w.state.endorsedTx.isSome = true → w'.state.endorsedTx.isSome = true
  committed : w.state.committed = true → w'.state.committed = true
  filtered : w.state.filteredTx.isSome = true → w'.state.filteredTx.isSome = true
  trace : w.trace <+: w'.trace

theorem Advances.refl (w : World (BuilderState ListRef)) : Advances w w :=
  ⟨id, id, id, List.prefix_rfl⟩

theorem Advances.trans {w₁ w₂ w₃ : World (BuilderState ListRef)} (h₁ : Advances w₁ w₂)
    (h₂ : Advances w₂ w₃) : Advances w₁ w₃ :=
  ⟨h₂.endorsed ∘ h₁.endorsed, h₂.committed ∘ h₁.committed, h₂.filtered ∘ h₁.filtered,
    h₁.trace.trans h₂.trace⟩

/-- Recording an event is a move. -/
theorem Advances.record (w : World (BuilderState ListRef)) (e : Event) : Advances w (w.record e) :=
  ⟨id, id, id, List.prefix_append _ _⟩

/-- The discipline of a builder. -/
def builderDiscipline : SharedBuilder.BuilderDiscipline where
  inv := BuilderInv rt builder
  rely := Advances
  rely_refl := Advances.refl
  rely_trans := Advances.trans

variable {rt builder} {w : World (BuilderState ListRef)}

/-- An event keeps the invariant when it comes in order. -/
theorem BuilderInv.record (h : BuilderInv rt builder w) {e : Event}
    (hbroadcast : e.IsBroadcast → ∃ e' ∈ w.trace, Event.ProposeReturned builder.transaction e')
    (hdeliver : e.IsDeliver → (∃ e' ∈ w.trace, Event.CommitReturned builder.transaction e') ∧
      Event.OfWait rt e) :
    BuilderInv rt builder (w.record e) where
  endorsed tx htx := by
    obtain ⟨rs, rfl, hmem⟩ := h.endorsed tx htx
    exact ⟨rs, rfl, List.mem_append_left _ hmem⟩
  committed hcommitted := by
    obtain ⟨hendorsed, e', hmem, he'⟩ := h.committed hcommitted
    exact ⟨hendorsed, e', List.mem_append_left _ hmem, he'⟩
  filtered := h.filtered
  broadcasts := h.broadcasts.append hbroadcast
  streams := h.streams.append fun he => (hdeliver he).1
  opened e' hmem he' := by
    rcases List.mem_append.mp hmem with hbefore | hlast
    · exact h.opened e' hbefore he'
    · rw [List.mem_singleton] at hlast
      subst hlast
      exact (hdeliver he').2

/-- So does an event that is neither a broadcast nor the opening of a stream. -/
theorem BuilderInv.record_other (h : BuilderInv rt builder w) {e : Event}
    (hbroadcast : ¬ e.IsBroadcast) (hdeliver : ¬ e.IsDeliver) :
    BuilderInv rt builder (w.record e) :=
  h.record (fun he => absurd he hbroadcast) (fun he => absurd he hdeliver)

/-! ## The operations keep it -/

/-- A propose operation keeps the discipline. -/
theorem safe_propose (raiseErrors : Bool) (hw : BuilderInv rt builder w) :
    Coro.Safe (builderDiscipline rt builder) (fun _ _ => True) (fun _ _ => True)
      (builder.propose raiseErrors) w := by
  have hsend : Coro.Safe (builderDiscipline rt builder)
      (fun tx _ => (∃ rs, tx = endorsedFrom builder.transaction rs) ∧ True) (fun _ _ => True)
      (Coro.lift (proposeTx builder.gateway.endorsingPeers builder.transaction)) w := by
    refine Coro.Safe.lift (fun _ _ _ _ => trivial) ?_
      (ensures_proposeTx builder.gateway.endorsingPeers builder.transaction) trivial hw
    intro w' e he _ hw'
    have hbroadcast : ¬ Event.IsBroadcast e := by
      rcases e with (_ | _ | _ | _) | _ <;> first | exact he.elim | exact id
    have hdeliver : ¬ Event.IsDeliver e := by
      rcases e with (_ | _ | _ | _) | _ <;> first | exact he.elim | exact id
    exact ⟨Advances.record w' e, hw'.record_other hbroadcast hdeliver⟩
  refine Coro.Safe.bind (Coro.Safe.mono ?_ (fun _ _ _ h => h) hsend)
  rintro tx w' hw' ⟨⟨rs, rfl⟩, -⟩
  refine Coro.Safe.annotate_bind (Advances.record _ _) ?_
  refine Coro.Safe.modify_bind ⟨fun _ => rfl, id, id, List.prefix_rfl⟩ ?_
  -- The return of `propose_tx` and the store are one segment.
  have hstored : BuilderInv rt builder ((w'.record (.inr (.proposeTxReturned
      (endorsedFrom builder.transaction rs)))).update
        { w'.state with endorsedTx := some (endorsedFrom builder.transaction rs) }) := by
    have hrecorded := hw'.record_other (e := .inr (.proposeTxReturned
      (endorsedFrom builder.transaction rs))) id id
    refine ⟨?_, ?_, hrecorded.filtered, hrecorded.broadcasts, hrecorded.streams, hrecorded.opened⟩
    · rintro _ ⟨⟩
      exact ⟨rs, rfl, List.mem_append_right _ (List.mem_singleton_self _)⟩
    · exact fun hcommitted => ⟨rfl, (hrecorded.committed hcommitted).2⟩
  cases raiseErrors with
  | false => exact ⟨hstored, trivial⟩
  | true => exact Coro.Safe.ofExcept hstored (fun _ _ => trivial) fun _ _ => trivial

/-- A submit operation keeps the discipline: the transaction that it read was proposed. -/
theorem safe_submit (hw : BuilderInv rt builder w) :
    Coro.Safe (builderDiscipline rt builder) (fun _ _ => True) (fun _ _ => True)
      (builder.submit rt) w := by
  refine Coro.Safe.read_bind ?_
  cases hendorsed : w.state.endorsedTx with
  | none => exact ⟨hw, trivial⟩
  | some endorsedTx =>
      obtain ⟨rs, rfl, hproposed⟩ := hw.endorsed _ hendorsed
      -- While the commit runs the builder stays endorsed, and the return of `propose_tx` stays in the
      -- trace.
      let F : World (BuilderState ListRef) → Prop := fun w' => w'.state.endorsedTx.isSome = true ∧
        ∃ e ∈ w'.trace, Event.ProposeReturned builder.transaction e
      have hF : ∀ w₁ w₂, Advances w₁ w₂ → F w₁ → F w₂ := fun w₁ w₂ hadvance ⟨hsome, e, hmem, he⟩ =>
        ⟨hadvance.endorsed hsome, e, hadvance.trace.subset hmem, he⟩
      have hstart : F w := ⟨by rw [hendorsed]; rfl, _, hproposed, rs, rfl⟩
      refine Coro.Safe.annotate_bind (Advances.record _ _) ?_
      have hsend : Coro.Safe (builderDiscipline rt builder) (fun _ w' => True ∧ F w') (fun _ w' => F w')
          (Coro.lift (builder.commit rt (endorsedFrom builder.transaction rs)))
          (w.record (.inr (.commitTxCalled (endorsedFrom builder.transaction rs)))) := by
        refine Coro.Safe.lift hF ?_ (ensures_commit rt builder _) (hF _ _ (Advances.record _ _) hstart)
          (hw.record_other id id)
        intro w' e he hFw' hw'
        have hdeliver : ¬ Event.IsDeliver e := by
          rcases e with (_ | _ | _ | _) | _ <;> first | exact he.elim | exact id
        -- A broadcast comes after the return of the proposal.
        exact ⟨Advances.record w' e, hw'.record (fun _ => hFw'.2) fun h => absurd h hdeliver⟩
      refine Coro.Safe.bind (Coro.Safe.mono ?_ (fun _ _ _ _ => trivial) hsend)
      rintro response w' hw' ⟨-, hsome, -⟩
      refine Coro.Safe.annotate_bind (Advances.record _ _) ?_
      have hrecorded := hw'.record_other (e := .inr (.commitTxReturned
        (endorsedFrom builder.transaction rs))) id id
      refine ⟨⟨id, fun _ => rfl, id, List.prefix_rfl⟩, ?_, trivial⟩
      -- The return of `commit_tx` and the flag are one segment too.
      refine ⟨hrecorded.endorsed, fun _ => ⟨hsome, ?_⟩, fun tx htx => ⟨rfl, ?_⟩,
        hrecorded.broadcasts, hrecorded.streams, hrecorded.opened⟩
      · exact ⟨_, List.mem_append_right _ (List.mem_singleton_self _), rs, rfl⟩
      · exact (hrecorded.filtered tx htx).2

/-- One round of the loop over the peers keeps the discipline of a committed builder. -/
theorem safe_waitOnPeer (raiseErrors : Bool) (timeout : Int) (peer : Peer)
    (hw : BuilderInv rt builder w) (hcommitted : w.state.committed = true) :
    Coro.Safe (builderDiscipline rt builder) (fun _ _ => True) (fun _ w' => w'.state.committed = true)
      (builder.waitOnPeer rt raiseErrors timeout peer) w := by
  refine Coro.Safe.read_bind ?_
  cases hendorsed : w.state.endorsedTx with
  | none => exact ⟨hw, hcommitted⟩
  | some endorsedTx =>
      obtain ⟨rs, rfl, -⟩ := hw.endorsed _ hendorsed
      have hwait : Coro.Safe (builderDiscipline rt builder)
          (fun tx w' => tx.txId = builder.transaction.txId ∧ w'.state.committed = true)
          (fun _ w' => w'.state.committed = true)
          (Coro.lift (builder.awaitTransaction rt raiseErrors timeout
            (endorsedFrom builder.transaction rs).txId peer)) w := by
        -- A committed builder stays committed while the task waits for the stream.
        have hF : ∀ w₁ w₂, Advances w₁ w₂ → w₁.state.committed = true → w₂.state.committed = true :=
          fun _ _ hadvance => hadvance.committed
        refine Coro.Safe.lift hF ?_
          (ensures_awaitTransaction rt builder raiseErrors timeout _ peer) hcommitted hw
        intro w' e he hcommitted' hw'
        have hbroadcast : ¬ Event.IsBroadcast e := by
          rcases he.isRequest with h | h <;>
            rcases e with (_ | _ | _ | _) | _ <;> first | exact h.elim | exact id
        exact ⟨Advances.record w' e, hw'.record (fun h => absurd h hbroadcast) fun _ =>
          ⟨(hw'.committed hcommitted').2, he⟩⟩
      refine Coro.Safe.bind (Coro.Safe.mono ?_ (fun _ _ _ h => h) hwait)
      rintro tx w' hw' ⟨htxId, hcommitted'⟩
      refine ⟨⟨id, id, fun _ => rfl, List.prefix_rfl⟩, ?_, trivial⟩
      refine ⟨hw'.endorsed, hw'.committed, ?_, hw'.broadcasts, hw'.streams, hw'.opened⟩
      rintro _ ⟨⟩
      exact ⟨hcommitted', htxId⟩

/-- So does the loop, by induction on the peers. -/
theorem safe_waitLoop (raiseErrors : Bool) (timeout : Int) (error : Exc) (peers : List Peer)
    (hw : BuilderInv rt builder w) (hcommitted : w.state.committed = true) :
    Coro.Safe (builderDiscipline rt builder) (fun _ _ => True) (fun _ _ => True)
      (builder.waitLoop rt raiseErrors timeout error peers) w := by
  induction peers generalizing error w with
  | nil => exact ⟨hw, trivial⟩
  | cons peer peers ih =>
      refine Coro.Safe.tryCatch (Coro.Safe.mono (fun _ _ _ h => h) ?_
        (safe_waitOnPeer raiseErrors timeout peer hw hcommitted))
      intro err w' hw' hcommitted'
      split
      · exact ih err hw' hcommitted'
      · exact ⟨hw', trivial⟩

/-- A wait operation keeps the discipline. -/
theorem safe_waitForCommit (raiseErrors : Bool) (timeout : Int) (hw : BuilderInv rt builder w) :
    Coro.Safe (builderDiscipline rt builder) (fun _ _ => True) (fun _ _ => True)
      (builder.waitForCommit rt raiseErrors timeout) w := by
  -- The check and the first request are one segment, and nobody resets the flag after it.
  refine Coro.Safe.read_bind ?_
  by_cases hcommitted : w.state.committed = true
  · rw [if_pos hcommitted]
    exact safe_waitLoop raiseErrors timeout _ _ hw hcommitted
  · rw [if_neg hcommitted]
    exact ⟨hw, trivial⟩

variable (rt builder)

/-- **The discipline governs the builder.** -/
theorem governs_builderDiscipline : Governs rt builder (builderDiscipline rt builder) where
  trace _ _ h := h.trace
  loopEvent w n hn hw := by
    refine ⟨Advances.record _ _, ?_⟩
    obtain ⟨id, rfl | rfl⟩ := hn
    · exact hw.record_other (fun h => h) (fun h => h)
    · exact hw.record_other (fun h => h) (fun h => h)
  -- The invariant does not mention the list of operations.
  setOperations _ _ hw := ⟨⟨id, id, id, List.prefix_rfl⟩,
    ⟨hw.endorsed, hw.committed, hw.filtered, hw.broadcasts, hw.streams, hw.opened⟩⟩
  operate kind _ hw := by
    cases kind with
    | propose raiseErrors => exact safe_propose raiseErrors hw
    | submit => exact safe_submit hw
    | waitForCommit raiseErrors timeout => exact safe_waitForCommit raiseErrors timeout hw

/-! ## Every reachable state -/

/-- A new builder satisfies the invariant. -/
theorem builderInv_new : BuilderInv rt builder SharedBuilder.new.world where
  endorsed _ h := nomatch h
  committed h := nomatch h
  filtered _ h := nomatch h
  broadcasts := comesAfter_nil _ _
  streams := comesAfter_nil _ _
  opened _ h := nomatch h

/-- A builder reached from a new one is governed by the discipline. -/
theorem governed_run_new (labels : List SharedBuilder.Label) :
    (SharedBuilder.new.run rt builder labels).Governed (builderDiscipline rt builder) :=
  ((SharedBuilder.governed_new (builderInv_new rt builder)).run
    (governs_builderDiscipline rt builder) labels).1

/-- **The builder state invariant.** After any interleaving of queueing calls and awaiting tasks: a
committed builder is endorsed, a filtered one is committed, what is stored has the id of the
transaction of the builder, no broadcast precedes the return of a proposal and no commit stream that
of a commit; and however the interleaving goes on, an endorsed builder stays endorsed. -/
theorem builder_invariant (labels : List SharedBuilder.Label) :
    let s := SharedBuilder.new.run rt builder labels
    (s.world.state.committed = true → s.world.state.endorsedTx.isSome = true) ∧
    (s.world.state.filteredTx.isSome = true → s.world.state.committed = true) ∧
    (∀ tx, s.world.state.endorsedTx = some tx → tx.txId = builder.transaction.txId) ∧
    (∀ tx, s.world.state.filteredTx = some tx → tx.txId = builder.transaction.txId) ∧
    ComesAfter Event.IsBroadcast (Event.ProposeReturned builder.transaction) s.world.trace ∧
    ComesAfter Event.IsDeliver (Event.CommitReturned builder.transaction) s.world.trace ∧
    ∀ labels', s.world.state.endorsedTx.isSome = true →
      (s.run rt builder labels').world.state.endorsedTx.isSome = true := by
  intro s
  have hgoverned : s.Governed (builderDiscipline rt builder) := governed_run_new rt builder labels
  have hinv : BuilderInv rt builder s.world := hgoverned.world
  refine ⟨fun h => (hinv.committed h).1, ?_, ?_, fun tx h => (hinv.filtered tx h).2,
    hinv.broadcasts, hinv.streams, ?_⟩
  · intro h
    obtain ⟨tx, htx⟩ := Option.isSome_iff_exists.mp h
    exact (hinv.filtered tx htx).1
  · intro tx htx
    obtain ⟨rs, rfl, -⟩ := hinv.endorsed tx htx
    exact txId_endorsedFrom _ _
  · intro labels'
    exact (hgoverned.run (governs_builderDiscipline rt builder) labels').2.endorsed

end Snakeskin
