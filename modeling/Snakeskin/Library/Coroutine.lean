import Mathlib.Logic.Function.Basic

/-! # Coroutines over a shared state

A *coroutine* reads and writes a shared state, raises and catches exceptions, and suspends itself on
*requests* to its environment. Between two suspensions it runs atomically; while it is suspended,
others may change the state. This file gives

* `Coro` — the syntax tree of a coroutine, its monad structure and its laws, `tryCatch`;
* `Coro.segment` — one atomic segment, from a start or a resumption to the next suspension, the
  semantics on which interleavings are built;
* `Coro.run` — a whole run against an environment that answers every request as a function of the
  requests made so far, with `run_bind` as its composition rule;
* `Coro.lift` — a coroutine that does not touch the state, at any state type; `Coro.withState` — a
  coroutine whose state is its own;
* `Coro.observe` — what is seen of a run from outside, annotations aside;
* `Coro.mapError` — a coroutine whose exceptions are taken into another type. -/

universe u

/-- Coroutines with state `σ`, requests `Q` answered by `A q`, annotations `N` for the trace,
exceptions `ε` and result `α`. -/
inductive Coro (σ : Type) (Q : Type) (A : Q → Type) (N : Type) (ε : Type) (α : Type u) : Type u
  /-- Return a value. -/
  | ret (a : α)
  /-- Raise an exception. -/
  | raise (e : ε)
  /-- Read the shared state. -/
  | get (k : σ → Coro σ Q A N ε α)
  /-- Write the shared state. -/
  | set (s : σ) (k : Coro σ Q A N ε α)
  /-- Record an annotation in the trace. -/
  | note (n : N) (k : Coro σ Q A N ε α)
  /-- Make a request and suspend until it is answered. -/
  | call (q : Q) (k : A q → Coro σ Q A N ε α)

namespace Coro

variable {σ Q : Type} {A : Q → Type} {N ε : Type} {α β γ : Type u}

/-! ## Sequencing -/

/-- Continue with `f` on the value returned; an exception skips `f`. -/
def bind : Coro σ Q A N ε α → (α → Coro σ Q A N ε β) → Coro σ Q A N ε β
  | ret a, f => f a
  | raise e, _ => raise e
  | get k, f => get fun s => bind (k s) f
  | set s k, f => set s (bind k f)
  | note n k, f => note n (bind k f)
  | call q k, f => call q fun a => bind (k a) f

/-- Run `c`, and the handler in its place from where `c` raises. -/
def tryCatch : Coro σ Q A N ε α → (ε → Coro σ Q A N ε α) → Coro σ Q A N ε α
  | ret a, _ => ret a
  | raise e, h => h e
  | get k, h => get fun s => tryCatch (k s) h
  | set s k, h => set s (tryCatch k h)
  | note n k, h => note n (tryCatch k h)
  | call q k, h => call q fun a => tryCatch (k a) h

instance : Monad (Coro σ Q A N ε) where
  pure := ret
  bind := bind

/-- Make a request and return its answer. -/
def request (q : Q) : Coro σ Q A N ε (A q) := call q ret

/-- Record an annotation. -/
def annotate (n : N) : Coro σ Q A N ε Unit := note n (ret ())

/-- Read the state. -/
def read : Coro σ Q A N ε σ := get ret

/-- Change the state. -/
def modify (f : σ → σ) : Coro σ Q A N ε Unit := get fun s => set (f s) (ret ())

/-- Return the value of a computation without effects, or raise its exception. -/
def ofExcept : Except ε α → Coro σ Q A N ε α
  | .ok a => ret a
  | .error e => raise e

@[simp] theorem pure_eq (a : α) : (pure a : Coro σ Q A N ε α) = ret a := rfl

@[simp] theorem bind_eq (c : Coro σ Q A N ε α) (f : α → Coro σ Q A N ε β) : c >>= f = c.bind f := rfl

@[simp] theorem ret_bind (a : α) (f : α → Coro σ Q A N ε β) : (ret a).bind f = f a := rfl

@[simp] theorem raise_bind (e : ε) (f : α → Coro σ Q A N ε β) : (raise e).bind f = raise e := rfl

/-- Returning what was returned changes nothing. -/
@[simp] theorem bind_ret (c : Coro σ Q A N ε α) : c.bind ret = c := by
  induction c with
  | ret => rfl
  | raise => rfl
  | get k ih => exact congrArg get (funext ih)
  | set s k ih => exact congrArg (set s) ih
  | note n k ih => exact congrArg (note n) ih
  | call q k ih => exact congrArg (call q) (funext ih)

/-- Sequencing is associative. -/
theorem bind_assoc (c : Coro σ Q A N ε α) (f : α → Coro σ Q A N ε β) (g : β → Coro σ Q A N ε γ) :
    (c.bind f).bind g = c.bind fun a => (f a).bind g := by
  induction c with
  | ret => rfl
  | raise => rfl
  | get k ih => exact congrArg get (funext ih)
  | set s k ih => exact congrArg (set s) ih
  | note n k ih => exact congrArg (note n) ih
  | call q k ih => exact congrArg (call q) (funext ih)

/-! ## Worlds -/

/-- What coroutines share: the state, and the trace of requests made and annotations recorded. -/
structure World (σ Q N : Type) where
  /-- The shared state. -/
  state : σ
  /-- Requests (`Sum.inl`) and annotations (`Sum.inr`), oldest first. -/
  trace : List (Q ⊕ N)

/-- Append an event to the trace. -/
def World.record (w : World σ Q N) (e : Q ⊕ N) : World σ Q N := { w with trace := w.trace ++ [e] }

/-- Replace the state. -/
def World.update (w : World σ Q N) (s : σ) : World σ Q N := { w with state := s }

@[simp] theorem World.state_record (w : World σ Q N) (e : Q ⊕ N) : (w.record e).state = w.state := rfl

@[simp] theorem World.trace_record (w : World σ Q N) (e : Q ⊕ N) :
    (w.record e).trace = w.trace ++ [e] := rfl

@[simp] theorem World.state_update (w : World σ Q N) (s : σ) : (w.update s).state = s := rfl

@[simp] theorem World.trace_update (w : World σ Q N) (s : σ) : (w.update s).trace = w.trace := rfl

/-- The requests of a trace, oldest first. -/
def requests (trace : List (Q ⊕ N)) : List Q := trace.filterMap Sum.getLeft?

@[simp] theorem requests_nil : requests ([] : List (Q ⊕ N)) = [] := rfl

@[simp] theorem requests_append (t₁ t₂ : List (Q ⊕ N)) :
    requests (t₁ ++ t₂) = requests t₁ ++ requests t₂ := by
  simp [requests]

@[simp] theorem requests_inl (q : Q) : requests ([Sum.inl q] : List (Q ⊕ N)) = [q] := rfl

@[simp] theorem requests_inr (n : N) : requests ([Sum.inr n] : List (Q ⊕ N)) = [] := rfl

/-! ## Atomic segments -/

/-- How a segment ends: with a result, an exception, or suspended on a request. -/
inductive Outcome (σ : Type) (Q : Type) (A : Q → Type) (N : Type) (ε : Type) (α : Type u) : Type u
  /-- The coroutine returned. -/
  | returned (a : α) (w : World σ Q N)
  /-- The coroutine raised an exception. -/
  | raised (e : ε) (w : World σ Q N)
  /-- The coroutine waits for the answer to a request. -/
  | suspended (q : Q) (k : A q → Coro σ Q A N ε α) (w : World σ Q N)

/-- Run a coroutine up to its next suspension. -/
def segment : Coro σ Q A N ε α → World σ Q N → Outcome σ Q A N ε α
  | ret a, w => .returned a w
  | raise e, w => .raised e w
  | get k, w => segment (k w.state) w
  | set s k, w => segment k (w.update s)
  | note n k, w => segment k (w.record (.inr n))
  | call q k, w => .suspended q k (w.record (.inl q))

/-- A coroutine that suspends has just recorded the request it waits for. -/
theorem mem_trace_of_segment {c : Coro σ Q A N ε α} {w w' : World σ Q N} {q : Q}
    {k : A q → Coro σ Q A N ε α} (h : segment c w = .suspended q k w') : .inl q ∈ w'.trace := by
  induction c generalizing w with
  | ret a => cases h
  | raise e => cases h
  | get k' ih => exact ih _ h
  | set s k' ih => exact ih h
  | note n k' ih => exact ih h
  | call q' k' ih =>
      cases h
      exact List.mem_append_right _ (List.mem_singleton_self _)

/-! ## Whole runs -/

/-- An environment: the answer to a request, as a function of the requests made before it. -/
abbrev Environment (Q : Type) (A : Q → Type) := List Q → (q : Q) → A q

/-- Run a coroutine to its end against an environment, with nobody else touching the state. -/
def run (env : Environment Q A) : Coro σ Q A N ε α → World σ Q N → Except ε α × World σ Q N
  | ret a, w => (.ok a, w)
  | raise e, w => (.error e, w)
  | get k, w => run env (k w.state) w
  | set s k, w => run env k (w.update s)
  | note n k, w => run env k (w.record (.inr n))
  | call q k, w => run env (k (env (requests w.trace) q)) (w.record (.inl q))

variable (env : Environment Q A)

@[simp] theorem run_ret (a : α) (w : World σ Q N) :
    run env (ret a : Coro σ Q A N ε α) w = (.ok a, w) := rfl

@[simp] theorem run_raise (e : ε) (w : World σ Q N) :
    run env (raise e : Coro σ Q A N ε α) w = (.error e, w) := rfl

@[simp] theorem run_request (q : Q) (w : World σ Q N) :
    run env (request q : Coro σ Q A N ε (A q)) w =
      (.ok (env (requests w.trace) q), w.record (.inl q)) := rfl

@[simp] theorem run_annotate (n : N) (w : World σ Q N) :
    run env (annotate n : Coro σ Q A N ε Unit) w = (.ok (), w.record (.inr n)) := rfl

@[simp] theorem run_read (w : World σ Q N) :
    run env (read : Coro σ Q A N ε σ) w = (.ok w.state, w) := rfl

@[simp] theorem run_modify (f : σ → σ) (w : World σ Q N) :
    run env (modify f : Coro σ Q A N ε Unit) w = (.ok (), w.update (f w.state)) := rfl

@[simp] theorem run_ofExcept (x : Except ε α) (w : World σ Q N) :
    run env (ofExcept x : Coro σ Q A N ε α) w = (x, w) := by
  cases x <;> rfl

/-- Running a sequence is running its parts one after the other. -/
theorem run_bind (c : Coro σ Q A N ε α) (f : α → Coro σ Q A N ε β) (w : World σ Q N) :
    run env (c.bind f) w =
      match run env c w with
      | (.ok a, w') => run env (f a) w'
      | (.error e, w') => (.error e, w') := by
  induction c generalizing w with
  | ret => rfl
  | raise => rfl
  | get k ih => exact ih _ w
  | set s k ih => exact ih _
  | note n k ih => exact ih _
  | call q k ih => exact ih _ _

/-- A run only appends to the trace. -/
theorem trace_prefix_run (c : Coro σ Q A N ε α) (w : World σ Q N) :
    w.trace <+: (run env c w).2.trace := by
  induction c generalizing w with
  | ret => exact List.prefix_rfl
  | raise => exact List.prefix_rfl
  | get k ih => exact ih _ w
  | set s k ih => exact ih (w.update s)
  | note n k ih => exact (List.prefix_append _ _).trans (ih (w.record (.inr n)))
  | call q k ih => exact (List.prefix_append _ _).trans (ih _ (w.record (.inl q)))

/-! ## Coroutines that leave the state alone -/

/-- A coroutine without state, run beside a state it does not touch. -/
def lift : Coro Unit Q A N ε α → Coro σ Q A N ε α
  | ret a => ret a
  | raise e => raise e
  | get k => lift (k ())
  -- There is only one state to write, so a write is dropped.
  | set _ k => lift k
  | note n k => note n (lift k)
  | call q k => call q fun a => lift (k a)

/-- A lifted coroutine makes the run it makes without state, and keeps the state. -/
theorem run_lift (c : Coro Unit Q A N ε α) (w : World σ Q N) :
    run env (lift c) w =
      ((run env c ⟨(), w.trace⟩).1, ⟨w.state, (run env c ⟨(), w.trace⟩).2.trace⟩) := by
  induction c generalizing w with
  | ret => rfl
  | raise => rfl
  | get k ih => exact ih () w
  | set s k ih => exact ih w
  | note n k ih => exact ih (w.record (.inr n))
  | call q k ih => exact ih _ (w.record (.inl q))

@[simp] theorem lift_ret (a : α) : (lift (ret a) : Coro σ Q A N ε α) = ret a := rfl

@[simp] theorem lift_raise (e : ε) : (lift (raise e) : Coro σ Q A N ε α) = raise e := rfl

/-! ## Private state -/

/-- A coroutine whose state is its own: run from a given state, it keeps the state to itself. -/
def withState : Coro σ Q A N ε α → σ → Coro Unit Q A N ε α
  | ret a, _ => ret a
  | raise e, _ => raise e
  | get k, s => withState (k s) s
  -- A write replaces the private state, and the state outside is not touched.
  | set s k, _ => withState k s
  -- Annotations and requests go through, so the environment sees them as before.
  | note n k, s => note n (withState k s)
  | call q k, s => call q fun a => withState (k a) s

/-! ## Observation

Annotations do not matter to the environment. What is observed of a run is its result, the state it
leaves and the requests it makes. -/

/-- The result of a run from a state and the requests made so far, with the state it leaves and all
the requests made. -/
def observe : Coro σ Q A N ε α → σ → List Q → Except ε α × σ × List Q
  | ret a, s, rs => (.ok a, s, rs)
  | raise e, s, rs => (.error e, s, rs)
  | get k, s, rs => observe (k s) s rs
  | set s k, _, rs => observe k s rs
  | note _ k, s, rs => observe k s rs
  | call q k, s, rs => observe (k (env rs q)) s (rs ++ [q])

@[simp] theorem observe_ret (a : α) (s : σ) (rs : List Q) :
    observe env (ret a : Coro σ Q A N ε α) s rs = (.ok a, s, rs) := rfl

@[simp] theorem observe_raise (e : ε) (s : σ) (rs : List Q) :
    observe env (raise e : Coro σ Q A N ε α) s rs = (.error e, s, rs) := rfl

@[simp] theorem observe_request (q : Q) (s : σ) (rs : List Q) :
    observe env (request q : Coro σ Q A N ε (A q)) s rs = (.ok (env rs q), s, rs ++ [q]) := rfl

@[simp] theorem observe_annotate (n : N) (s : σ) (rs : List Q) :
    observe env (annotate n : Coro σ Q A N ε Unit) s rs = (.ok (), s, rs) := rfl

@[simp] theorem observe_read (s : σ) (rs : List Q) :
    observe env (read : Coro σ Q A N ε σ) s rs = (.ok s, s, rs) := rfl

@[simp] theorem observe_modify (f : σ → σ) (s : σ) (rs : List Q) :
    observe env (modify f : Coro σ Q A N ε Unit) s rs = (.ok (), f s, rs) := rfl

@[simp] theorem observe_ofExcept (x : Except ε α) (s : σ) (rs : List Q) :
    observe env (ofExcept x : Coro σ Q A N ε α) s rs = (x, s, rs) := by
  cases x <;> rfl

/-- What is observed of a run. -/
theorem observe_run (c : Coro σ Q A N ε α) (w : World σ Q N) :
    observe env c w.state (requests w.trace) =
      ((run env c w).1, (run env c w).2.state, requests (run env c w).2.trace) := by
  induction c generalizing w with
  | ret => rfl
  | raise => rfl
  | get k ih => exact ih _ w
  | set s k ih => exact ih (w.update s)
  -- An annotation adds no request.
  | note n k ih =>
      have h := ih (w.record (.inr n))
      simp only [World.state_record, World.trace_record, requests_append, requests_inr,
        List.append_nil] at h
      exact h
  | call q k ih =>
      have h := ih (env (requests w.trace) q) (w.record (.inl q))
      simp only [World.state_record, World.trace_record, requests_append, requests_inl] at h
      exact h

/-- Observing a sequence is observing its parts one after the other. -/
theorem observe_bind (c : Coro σ Q A N ε α) (f : α → Coro σ Q A N ε β) (s : σ) (rs : List Q) :
    observe env (c.bind f) s rs =
      match observe env c s rs with
      | (.ok a, s', rs') => observe env (f a) s' rs'
      | (.error e, s', rs') => (.error e, s', rs') := by
  induction c generalizing s rs with
  | ret => rfl
  | raise => rfl
  | get k ih => exact ih _ s rs
  | set s' k ih => exact ih s' rs
  | note n k ih => exact ih s rs
  | call q k ih => exact ih _ s _

/-- Observing a handled coroutine is observing the handler from where the coroutine raises. -/
theorem observe_tryCatch (c : Coro σ Q A N ε α) (h : ε → Coro σ Q A N ε α) (s : σ) (rs : List Q) :
    observe env (c.tryCatch h) s rs =
      match observe env c s rs with
      | (.ok a, s', rs') => (.ok a, s', rs')
      | (.error e, s', rs') => observe env (h e) s' rs' := by
  induction c generalizing s rs with
  | ret => rfl
  | raise => rfl
  | get k ih => exact ih _ s rs
  | set s' k ih => exact ih s' rs
  | note n k ih => exact ih s rs
  | call q k ih => exact ih _ s _

/-- A run only adds to the requests. -/
theorem prefix_observe (c : Coro σ Q A N ε α) (s : σ) (rs : List Q) :
    rs <+: (observe env c s rs).2.2 := by
  induction c generalizing s rs with
  | ret => exact List.prefix_rfl
  | raise => exact List.prefix_rfl
  | get k ih => exact ih _ s rs
  | set s' k ih => exact ih s' rs
  | note n k ih => exact ih s rs
  | call q k ih => exact (List.prefix_append _ _).trans (ih _ s (rs ++ [q]))

/-- A lifted coroutine is observed to do what it does without state. -/
theorem observe_lift (c : Coro Unit Q A N ε α) (s : σ) (rs : List Q) :
    observe env (lift c) s rs =
      ((observe env c () rs).1, s, (observe env c () rs).2.2) := by
  induction c generalizing rs with
  | ret => rfl
  | raise => rfl
  | get k ih => exact ih () rs
  | set s k ih => exact ih rs
  | note n k ih => exact ih rs
  | call q k ih => exact ih _ _

/-- A coroutine with private state is observed to do what it does, but for the state. -/
theorem observe_withState (c : Coro σ Q A N ε α) (s : σ) (rs : List Q) :
    observe env (withState c s) () rs =
      ((observe env c s rs).1, (), (observe env c s rs).2.2) := by
  induction c generalizing s rs with
  | ret => rfl
  | raise => rfl
  | get k ih => exact ih _ s rs
  | set s' k ih => exact ih s' rs
  | note n k ih => exact ih s rs
  | call q k ih => exact ih _ s _

/-! ## Exceptions of another type -/

/-- A coroutine whose exceptions are taken into another type. -/
def mapError {ε' : Type} (f : ε → ε') : Coro σ Q A N ε α → Coro σ Q A N ε' α
  | ret a => ret a
  | raise e => raise (f e)
  | get k => get fun s => mapError f (k s)
  | set s k => set s (mapError f k)
  | note n k => note n (mapError f k)
  | call q k => call q fun a => mapError f (k a)

/-- It is observed to do the same, and to raise the exception it is taken to. -/
theorem observe_mapError {ε' : Type} (f : ε → ε') (c : Coro σ Q A N ε α) (s : σ) (rs : List Q) :
    observe env (mapError f c) s rs =
      ((observe env c s rs).1.mapError f, (observe env c s rs).2) := by
  induction c generalizing s rs with
  | ret => rfl
  | raise => rfl
  | get k ih => exact ih _ s rs
  | set s' k ih => exact ih s' rs
  | note n k ih => exact ih s rs
  | call q k ih => exact ih _ s _

end Coro
