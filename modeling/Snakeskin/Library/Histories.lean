import Snakeskin.Library.Hoare

/-! # Rules on what a coroutine may ask

What a coroutine may ask its environment for often depends on what it was told before: an order is
placed only after an offer was accepted. The *history* of a coroutine is what it asked so far, with
the answers; a *rule* says which requests are allowed after a history.

* `Coro.Obeys` — whatever it is answered, the coroutine asks only for what the rule allows, and ends
  in its postconditions; with one proof rule for each way of building a coroutine, and
  `Obeys.of_ensures` for a rule that does not look at the history.
* `Coro.Pool` — any number of coroutines side by side, answered in any order; the log of a pool says
  who asked for what, and who was told what.
* `Coro.Pool.Obedient.run` — in every interleaving of coroutines that obey a rule each, every request
  in the log was allowed by what its own coroutine had been told by then. -/

namespace Coro

variable {σ Q : Type} {A : Q → Type} {N ε α β : Type}

/-- What was asked so far, with the answers, oldest first. -/
abbrev History (Q : Type) (A : Q → Type) := List (Σ q : Q, A q)

/-- After the history, the coroutine asks only for what is allowed by then, whatever it is answered;
a value it returns satisfies `post` with the state and the history it leaves, and an exception it
raises `epost`. -/
def Obeys (allowed : History Q A → Q → Prop) (post : α → σ → History Q A → Prop)
    (epost : ε → σ → History Q A → Prop) : Coro σ Q A N ε α → σ → History Q A → Prop
  | ret a, s, h => post a s h
  | raise e, s, h => epost e s h
  | get k, s, h => Obeys allowed post epost (k s) s h
  | set s' k, _, h => Obeys allowed post epost k s' h
  | note _ k, s, h => Obeys allowed post epost k s h
  -- Any answer is possible, and becomes part of the history.
  | call q k, s, h => allowed h q ∧ ∀ a, Obeys allowed post epost (k a) s (h ++ [⟨q, a⟩])

namespace Obeys

variable {allowed : History Q A → Q → Prop} {post : α → σ → History Q A → Prop}
  {epost : ε → σ → History Q A → Prop}

/-! ## Proof rules -/

/-- Consequence: the conditions may be weakened, where a history of the coroutine is one that goes
on from where it started. -/
theorem mono {post' : α → σ → History Q A → Prop} {epost' : ε → σ → History Q A → Prop}
    {c : Coro σ Q A N ε α} {s : σ} {h : History Q A}
    (hpost : ∀ a s' h', h <+: h' → post a s' h' → post' a s' h')
    (hepost : ∀ e s' h', h <+: h' → epost e s' h' → epost' e s' h')
    (hc : Obeys allowed post epost c s h) : Obeys allowed post' epost' c s h := by
  induction c generalizing s h with
  | ret a => exact hpost a s h List.prefix_rfl hc
  | raise e => exact hepost e s h List.prefix_rfl hc
  | get k ih => exact ih s hpost hepost hc
  | set s' k ih => exact ih hpost hepost hc
  | note n k ih => exact ih hpost hepost hc
  | call q k ih =>
      refine ⟨hc.1, fun a => ih a ?_ ?_ (hc.2 a)⟩
      · exact fun b s' h' hle hb => hpost b s' h' ((List.prefix_append _ _).trans hle) hb
      · exact fun e s' h' hle he => hepost e s' h' ((List.prefix_append _ _).trans hle) he

/-- A coroutine that obeys a rule obeys one that allows more. -/
theorem imp {allowed' : History Q A → Q → Prop} {c : Coro σ Q A N ε α} {s : σ} {h : History Q A}
    (hrule : ∀ h q, allowed h q → allowed' h q) (hc : Obeys allowed post epost c s h) :
    Obeys allowed' post epost c s h := by
  induction c generalizing s h with
  | ret a => exact hc
  | raise e => exact hc
  | get k ih => exact ih s hc
  | set s' k ih => exact ih hc
  | note n k ih => exact ih hc
  | call q k ih => exact ⟨hrule h q hc.1, fun a => ih a (hc.2 a)⟩

/-- Sequencing: the second part starts wherever the first returns. -/
theorem bind {post' : β → σ → History Q A → Prop} {c : Coro σ Q A N ε α}
    {f : α → Coro σ Q A N ε β} {s : σ} {h : History Q A}
    (hc : Obeys allowed (fun a s' h' => Obeys allowed post' epost (f a) s' h') epost c s h) :
    Obeys allowed post' epost (c.bind f) s h := by
  induction c generalizing s h with
  | ret a => exact hc
  | raise e => exact hc
  | get k ih => exact ih s hc
  | set s' k ih => exact ih hc
  | note n k ih => exact ih hc
  | call q k ih => exact ⟨hc.1, fun a => ih a (hc.2 a)⟩

/-- Handling: the handler starts wherever the coroutine raises. -/
theorem tryCatch {c : Coro σ Q A N ε α} {handler : ε → Coro σ Q A N ε α} {s : σ} {h : History Q A}
    (hc : Obeys allowed post (fun e s' h' => Obeys allowed post epost (handler e) s' h') c s h) :
    Obeys allowed post epost (c.tryCatch handler) s h := by
  induction c generalizing s h with
  | ret a => exact hc
  | raise e => exact hc
  | get k ih => exact ih s hc
  | set s' k ih => exact ih hc
  | note n k ih => exact ih hc
  | call q k ih => exact ⟨hc.1, fun a => ih a (hc.2 a)⟩

/-- A request comes first: it has to be allowed, and may be answered in any way. -/
theorem request_bind {q : Q} {f : A q → Coro σ Q A N ε α} {s : σ} {h : History Q A}
    (hq : allowed h q) (hf : ∀ a, Obeys allowed post epost (f a) s (h ++ [⟨q, a⟩])) :
    Obeys allowed post epost ((request q).bind f) s h :=
  ⟨hq, hf⟩

/-- Reading comes first. -/
theorem read_bind {f : σ → Coro σ Q A N ε α} {s : σ} {h : History Q A}
    (hf : Obeys allowed post epost (f s) s h) : Obeys allowed post epost (read.bind f) s h :=
  hf

/-- A write comes first. -/
theorem modify_bind {g : σ → σ} {f : Unit → Coro σ Q A N ε α} {s : σ} {h : History Q A}
    (hf : Obeys allowed post epost (f ()) (g s) h) :
    Obeys allowed post epost ((modify g).bind f) s h :=
  hf

/-- An annotation comes first; it asks for nothing. -/
theorem annotate_bind {n : N} {f : Unit → Coro σ Q A N ε α} {s : σ} {h : History Q A}
    (hf : Obeys allowed post epost (f ()) s h) :
    Obeys allowed post epost ((annotate n).bind f) s h :=
  hf

/-- A computation without effects asks for nothing. -/
theorem ofExcept {x : Except ε α} {s : σ} {h : History Q A} (hok : ∀ a, x = .ok a → post a s h)
    (herror : ∀ e, x = .error e → epost e s h) :
    Obeys allowed post epost (Coro.ofExcept x : Coro σ Q A N ε α) s h := by
  cases x with
  | ok a => exact hok a rfl
  | error e => exact herror e rfl

/-- A computation without effects comes first. -/
theorem ofExcept_bind {x : Except ε α} {post' : β → σ → History Q A → Prop}
    {f : α → Coro σ Q A N ε β} {s : σ} {h : History Q A} (herror : ∀ e, x = .error e → epost e s h)
    (hf : ∀ a, x = .ok a → Obeys allowed post' epost (f a) s h) :
    Obeys allowed post' epost ((Coro.ofExcept x).bind f) s h :=
  bind (ofExcept hf herror)

/-- A coroutine without state keeps the state it is lifted to. -/
theorem lift {post : α → Unit → History Q A → Prop} {epost : ε → Unit → History Q A → Prop}
    {c : Coro Unit Q A N ε α} {h : History Q A} (hc : Obeys allowed post epost c () h) (s : σ) :
    Obeys allowed (fun a s' h' => post a () h' ∧ s' = s) (fun e s' h' => epost e () h' ∧ s' = s)
      (Coro.lift c) s h := by
  induction c generalizing h with
  | ret a => exact ⟨hc, rfl⟩
  | raise e => exact ⟨hc, rfl⟩
  | get k ih => exact ih () hc
  | set s' k ih => exact ih hc
  | note n k ih => exact ih hc
  | call q k ih => exact ⟨hc.1, fun a => ih a (hc.2 a)⟩

/-- A coroutine with private state asks for what it asks for. -/
theorem withState {c : Coro σ Q A N ε α} {s : σ} {h : History Q A}
    (hc : Obeys allowed post epost c s h) :
    Obeys allowed (fun a _ h' => ∃ s', post a s' h') (fun e _ h' => ∃ s', epost e s' h')
      (Coro.withState c s) () h := by
  induction c generalizing s h with
  | ret a => exact ⟨s, hc⟩
  | raise e => exact ⟨s, hc⟩
  | get k ih => exact ih s hc
  | set s' k ih => exact ih hc
  | note n k ih => exact ih hc
  | call q k ih => exact ⟨hc.1, fun a => ih a (hc.2 a)⟩

/-- So does a coroutine whose exceptions are taken into another type. -/
theorem mapError {ε' : Type} {g : ε → ε'} {epost' : ε' → σ → History Q A → Prop}
    {c : Coro σ Q A N ε α} {s : σ} {h : History Q A}
    (hc : Obeys allowed post (fun e s' h' => epost' (g e) s' h') c s h) :
    Obeys allowed post epost' (c.mapError g) s h := by
  induction c generalizing s h with
  | ret a => exact hc
  | raise e => exact hc
  | get k ih => exact ih s hc
  | set s' k ih => exact ih hc
  | note n k ih => exact ih hc
  | call q k ih => exact ⟨hc.1, fun a => ih a (hc.2 a)⟩

end Obeys

/-! ## Pools -/

/-- A coroutine of a pool waits for an answer, or has ended. -/
inductive Thread (Q : Type) (A : Q → Type) (N ε : Type) where
  | waiting (q : Q) (k : A q → Coro Unit Q A N ε Unit)
  | ended

/-- What happens in a pool: a coroutine asks, or is answered. -/
inductive Happening (Q : Type) (A : Q → Type) where
  | asked (thread : Nat) (q : Q)
  | answered (thread : Nat) (q : Q) (a : A q)

/-- The history of one coroutine in the log of a pool. -/
def historyOf (thread : Nat) (log : List (Happening Q A)) : History Q A :=
  log.filterMap fun happening => match happening with
    | .answered thread' q a => if thread' = thread then some ⟨q, a⟩ else none
    | .asked _ _ => none

@[simp] theorem historyOf_nil (thread : Nat) : historyOf thread ([] : List (Happening Q A)) = [] :=
  rfl

theorem historyOf_append (thread : Nat) (log log' : List (Happening Q A)) :
    historyOf thread (log ++ log') = historyOf thread log ++ historyOf thread log' := by
  simp [historyOf]

@[simp] theorem historyOf_asked (thread thread' : Nat) (q : Q) :
    historyOf thread [(.asked thread' q : Happening Q A)] = [] := rfl

@[simp] theorem historyOf_answered_self (thread : Nat) (q : Q) (a : A q) :
    historyOf thread [.answered thread q a] = [⟨q, a⟩] := by
  simp [historyOf]

theorem historyOf_answered_of_ne {thread thread' : Nat} (h : thread' ≠ thread) (q : Q) (a : A q) :
    historyOf thread [.answered thread' q a] = [] := by
  simp [historyOf, h]

/-- Coroutines side by side: how each stands, how many there are, and what happened so far. -/
structure Pool (Q : Type) (A : Q → Type) (N ε : Type) where
  threads : Nat → Thread Q A N ε
  spawned : Nat
  log : List (Happening Q A)

namespace Pool

/-- No coroutine yet. -/
def empty : Pool Q A N ε := ⟨fun _ => .ended, 0, []⟩

/-- A coroutine goes on up to its next suspension; between two of its suspensions nobody else
runs. -/
def advance (pool : Pool Q A N ε) (thread : Nat) (c : Coro Unit Q A N ε Unit) : Pool Q A N ε :=
  match c.segment ⟨(), []⟩ with
  | .suspended q k _ =>
      { pool with
        threads := Function.update pool.threads thread (.waiting q k)
        log := pool.log ++ [.asked thread q] }
  | _ => { pool with threads := Function.update pool.threads thread .ended }

/-- What may be done to a pool. -/
inductive Label (Q : Type) (A : Q → Type) (N ε : Type) where
  /-- Another coroutine is started. -/
  | spawn (c : Coro Unit Q A N ε Unit)
  /-- A coroutine that waits is answered. -/
  | answer (thread : Nat) (answer : (q : Q) → A q)
  /-- A coroutine that waits is cancelled. -/
  | cancel (thread : Nat)

/-- The coroutine that a label starts. -/
def Label.spawned? : Label Q A N ε → Option (Coro Unit Q A N ε Unit)
  | .spawn c => some c
  | .answer _ _ => none
  | .cancel _ => none

/-- One step; nothing happens to a coroutine that does not wait. -/
def step (pool : Pool Q A N ε) : Label Q A N ε → Pool Q A N ε
  | .spawn c => advance { pool with spawned := pool.spawned + 1 } pool.spawned c
  | .answer thread answer =>
      match pool.threads thread with
      | .waiting q k =>
          advance { pool with log := pool.log ++ [.answered thread q (answer q)] } thread
            (k (answer q))
      | .ended => pool
  | .cancel thread => { pool with threads := Function.update pool.threads thread .ended }

/-- Any number of steps, in any order. -/
def run (pool : Pool Q A N ε) (labels : List (Label Q A N ε)) : Pool Q A N ε :=
  labels.foldl step pool

/-- Every coroutine of a pool keeps to a rule of its own: what is in the log was allowed when it was
asked for, and a coroutine that waits goes on to obey whatever it is answered. -/
structure Obedient (allowed : Nat → History Q A → Q → Prop) (pool : Pool Q A N ε) : Prop where
  asked : ∀ before thread q after, pool.log = before ++ .asked thread q :: after →
    allowed thread (historyOf thread before) q
  waiting : ∀ thread q k, pool.threads thread = .waiting q k → ∀ a,
    Obeys (allowed thread) (fun _ _ _ => True) (fun _ _ _ => True) (k a) ()
      (historyOf thread pool.log ++ [⟨q, a⟩])
  fresh : ∀ thread, pool.spawned ≤ thread →
    historyOf thread pool.log = [] ∧ pool.threads thread = .ended

/-- One segment of a coroutine that obeys: where it suspends, the request is allowed, and it goes on
to obey. -/
theorem obeys_segment {allowed : History Q A → Q → Prop}
    {post : α → σ → History Q A → Prop} {epost : ε → σ → History Q A → Prop}
    {c : Coro σ Q A N ε α} {w w' : World σ Q N} {h : History Q A}
    (hc : Obeys allowed post epost c w.state h) {q : Q} {k : A q → Coro σ Q A N ε α}
    (hsegment : c.segment w = .suspended q k w') :
    allowed h q ∧ ∀ a, Obeys allowed post epost (k a) w'.state (h ++ [⟨q, a⟩]) := by
  induction c generalizing w with
  | ret a => cases hsegment
  | raise e => cases hsegment
  | get k' ih => exact ih _ hc hsegment
  | set s k' ih => exact ih (w := w.update s) hc hsegment
  | note n k' ih => exact ih (w := w.record (.inr n)) hc hsegment
  | call q' k' ih =>
      cases hsegment
      exact hc

variable {allowed : Nat → History Q A → Q → Prop}

/-- A log with one more request in it. -/
theorem asked_concat {log : List (Happening Q A)}
    (h : ∀ before thread q after, log = before ++ .asked thread q :: after →
      allowed thread (historyOf thread before) q) {thread : Nat} {q : Q}
    (hq : allowed thread (historyOf thread log) q)
    (before : List (Happening Q A)) (thread' : Nat) (q' : Q)
    (after : List (Happening Q A))
    (hlog : log ++ [.asked thread q] = before ++ .asked thread' q' :: after) :
    allowed thread' (historyOf thread' before) q' := by
  rcases List.eq_nil_or_concat after with rfl | ⟨after', last, rfl⟩
  · obtain ⟨rfl, hlast⟩ := List.append_inj' hlog rfl
    cases hlast
    exact hq
  · rw [List.concat_eq_append, ← List.cons_append, ← List.append_assoc] at hlog
    obtain ⟨hbefore, -⟩ := List.append_inj' hlog rfl
    exact h before thread' q' after' hbefore

/-- A log with one more answer in it has no more requests. -/
theorem asked_of_answered {log : List (Happening Q A)}
    (h : ∀ before thread q after, log = before ++ .asked thread q :: after →
      allowed thread (historyOf thread before) q) {thread : Nat} {q : Q} {a : A q}
    (before : List (Happening Q A)) (thread' : Nat) (q' : Q) (after : List (Happening Q A))
    (hlog : log ++ [.answered thread q a] = before ++ .asked thread' q' :: after) :
    allowed thread' (historyOf thread' before) q' := by
  rcases List.eq_nil_or_concat after with rfl | ⟨after', last, rfl⟩
  · obtain ⟨-, hlast⟩ := List.append_inj' hlog rfl
    cases hlast
  · rw [List.concat_eq_append, ← List.cons_append, ← List.append_assoc] at hlog
    obtain ⟨hbefore, -⟩ := List.append_inj' hlog rfl
    exact h before thread' q' after' hbefore

/-- A coroutine that obeys goes on, the others being in order. -/
theorem Obedient.advance {pool : Pool Q A N ε} {thread : Nat} {c : Coro Unit Q A N ε Unit}
    (hasked : ∀ before thread q after, pool.log = before ++ .asked thread q :: after →
      allowed thread (historyOf thread before) q)
    (hwaiting : ∀ thread' q k, thread' ≠ thread → pool.threads thread' = .waiting q k → ∀ a,
      Obeys (allowed thread') (fun _ _ _ => True) (fun _ _ _ => True) (k a) ()
        (historyOf thread' pool.log ++ [⟨q, a⟩]))
    (hfresh : ∀ thread', pool.spawned ≤ thread' →
      thread' ≠ thread ∧ historyOf thread' pool.log = [] ∧ pool.threads thread' = .ended)
    (hc : Obeys (allowed thread) (fun _ _ _ => True) (fun _ _ _ => True) c ()
      (historyOf thread pool.log)) :
    (pool.advance thread c).Obedient allowed := by
  unfold Pool.advance
  split
  · rename_i q k w' hsegment
    obtain ⟨hq, hk⟩ := obeys_segment (w := ⟨(), []⟩) hc hsegment
    have hhistory : ∀ thread', historyOf thread' (pool.log ++ [.asked thread q]) =
        historyOf thread' pool.log := by
      intro thread'
      rw [historyOf_append, historyOf_asked, List.append_nil]
    refine ⟨asked_concat hasked hq, ?_, ?_⟩
    · intro thread' q' k' hthread a
      dsimp only at hthread ⊢
      rw [hhistory]
      by_cases heq : thread' = thread
      · subst heq
        rw [Function.update_self] at hthread
        cases hthread
        exact hk a
      · rw [Function.update_of_ne heq] at hthread
        exact hwaiting thread' q' k' heq hthread a
    · intro thread' hle
      obtain ⟨hne, hnil, hended⟩ := hfresh thread' hle
      dsimp only
      rw [hhistory, Function.update_of_ne hne]
      exact ⟨hnil, hended⟩
  · -- It has ended, and there is nothing more to obey.
    refine ⟨hasked, ?_, ?_⟩
    · intro thread' q' k' hthread a
      dsimp only at hthread
      by_cases heq : thread' = thread
      · rw [heq, Function.update_self] at hthread
        cases hthread
      · rw [Function.update_of_ne heq] at hthread
        exact hwaiting thread' q' k' heq hthread a
    · intro thread' hle
      obtain ⟨hne, hnil, hended⟩ := hfresh thread' hle
      dsimp only
      rw [Function.update_of_ne hne]
      exact ⟨hnil, hended⟩

/-- **Every step keeps a pool obedient**, provided that what is started obeys. -/
theorem Obedient.step {pool : Pool Q A N ε} (h : pool.Obedient allowed) (label : Label Q A N ε)
    (hspawn : ∀ c, label = .spawn c →
      Obeys (allowed pool.spawned) (fun _ _ _ => True) (fun _ _ _ => True) c () []) :
    (pool.step label).Obedient allowed := by
  cases label with
  | spawn c =>
      have hnew := h.fresh pool.spawned (Nat.le_refl _)
      refine Obedient.advance h.asked ?_ ?_ ?_
      · exact fun thread q k _ hthread => h.waiting thread q k hthread
      · intro thread hle
        obtain ⟨hnil, hended⟩ := h.fresh thread (Nat.le_of_succ_le hle)
        exact ⟨Nat.ne_of_gt hle, hnil, hended⟩
      · dsimp only
        rw [hnew.1]
        exact hspawn c rfl
  | answer thread answer =>
      unfold Pool.step
      dsimp only
      split
      · rename_i q k hthread
        have hhistory : ∀ thread', thread' ≠ thread →
            historyOf thread' (pool.log ++ [.answered thread q (answer q)]) =
              historyOf thread' pool.log := by
          intro thread' hne
          rw [historyOf_append, historyOf_answered_of_ne (Ne.symm hne), List.append_nil]
        refine Obedient.advance (asked_of_answered h.asked) ?_ ?_ ?_
        · intro thread' q' k' hne hthread' a
          dsimp only
          rw [hhistory thread' hne]
          exact h.waiting thread' q' k' hthread' a
        · intro thread' hle
          obtain ⟨hnil, hended⟩ := h.fresh thread' hle
          -- A coroutine that is not there does not wait.
          have hne : thread' ≠ thread := by
            rintro rfl
            rw [hthread] at hended
            cases hended
          dsimp only
          rw [hhistory thread' hne]
          exact ⟨hne, hnil, hended⟩
        · dsimp only
          rw [historyOf_append, historyOf_answered_self]
          exact h.waiting thread q k hthread (answer q)
      · exact h
  | cancel thread =>
      refine ⟨h.asked, ?_, ?_⟩
      · intro thread' q k hthread a
        change Function.update pool.threads thread .ended thread' = .waiting q k at hthread
        by_cases heq : thread' = thread
        · rw [heq, Function.update_self] at hthread
          cases hthread
        · rw [Function.update_of_ne heq] at hthread
          exact h.waiting thread' q k hthread a
      · intro thread' hle
        obtain ⟨hnil, hended⟩ := h.fresh thread' hle
        refine ⟨hnil, ?_⟩
        show Function.update pool.threads thread .ended thread' = .ended
        by_cases heq : thread' = thread
        · rw [heq, Function.update_self]
        · rw [Function.update_of_ne heq]
          exact hended

/-- The empty pool is obedient. -/
theorem obedient_empty : (empty : Pool Q A N ε).Obedient allowed where
  asked before thread q after hlog := by
    exact absurd hlog.symm (List.append_ne_nil_of_right_ne_nil _ (List.cons_ne_nil _ _))
  waiting _ _ _ hthread := by cases hthread
  fresh _ _ := ⟨rfl, rfl⟩

/-- A coroutine that goes on starts none. -/
theorem spawned_advance (pool : Pool Q A N ε) (thread : Nat) (c : Coro Unit Q A N ε Unit) :
    (pool.advance thread c).spawned = pool.spawned := by
  unfold advance
  split <;> rfl

/-- A step starts at most one coroutine. -/
theorem spawned_step (pool : Pool Q A N ε) (label : Label Q A N ε) :
    (pool.step label).spawned = pool.spawned + label.spawned?.toList.length := by
  cases label with
  | spawn c => exact spawned_advance _ _ _
  | answer thread answer =>
      unfold step
      dsimp only
      split
      · exact spawned_advance _ _ _
      · rfl
  | cancel thread => rfl

/-- The coroutines that are started by some steps. -/
theorem filterMap_spawned?_cons (label : Label Q A N ε) (labels : List (Label Q A N ε)) :
    (label :: labels).filterMap Label.spawned? =
      label.spawned?.toList ++ labels.filterMap Label.spawned? := by
  cases hlabel : label.spawned? <;> simp [hlabel]

/-- **Every interleaving of coroutines that obey a rule each** is obedient, by induction on its
steps; the coroutines are numbered in the order in which they are started. -/
theorem Obedient.run {pool : Pool Q A N ε} (h : pool.Obedient allowed)
    (labels : List (Label Q A N ε))
    (hspawn : ∀ i c, (labels.filterMap Label.spawned?)[i]? = some c →
      Obeys (allowed (pool.spawned + i)) (fun _ _ _ => True) (fun _ _ _ => True) c () []) :
    (pool.run labels).Obedient allowed := by
  induction labels generalizing pool with
  | nil => exact h
  | cons label labels ih =>
      rw [filterMap_spawned?_cons] at hspawn
      have hstep : (pool.step label).Obedient allowed := by
        refine h.step label ?_
        rintro c rfl
        exact hspawn 0 c rfl
      refine ih hstep fun i c hc => ?_
      -- The coroutine that this step starts, if any, comes before those of the later steps.
      rw [spawned_step, Nat.add_assoc]
      refine hspawn _ c ?_
      rw [List.getElem?_append_right (Nat.le_add_right _ _), Nat.add_sub_cancel_left]
      exact hc

end Pool

end Coro
