import Snakeskin.Library.Coroutine

/-! # Pre- and postconditions of coroutines

`Coro.Ensures P post epost c s` is the weakest precondition of a coroutine that nobody interferes
with: started in `s` and whatever it is answered, it requests and records only events of `P`, and
ends in its postconditions. There is one rule for each way of building a coroutine, and
`Ensures.run` and `Ensures.observe` say what the judgment means for a run. -/

namespace Coro

variable {σ Q : Type} {A : Q → Type} {N ε α β : Type}

/-- Started in a state, the coroutine requests and records only events of `P`; a value it returns
satisfies `post` with the state it leaves, and an exception it raises `epost`. -/
def Ensures (P : Q ⊕ N → Prop) (post : α → σ → Prop) (epost : ε → σ → Prop) :
    Coro σ Q A N ε α → σ → Prop
  | ret a, s => post a s
  | raise e, s => epost e s
  | get k, s => Ensures P post epost (k s) s
  | set s' k, _ => Ensures P post epost k s'
  | note n k, s => P (.inr n) ∧ Ensures P post epost k s
  -- Nobody changes the state while the coroutine waits, and any answer is possible.
  | call q k, s => P (.inl q) ∧ ∀ a, Ensures P post epost (k a) s

namespace Ensures

variable {P : Q ⊕ N → Prop} {post : α → σ → Prop} {epost : ε → σ → Prop}

/-! ## Rules -/

/-- Consequence: the conditions may be weakened. -/
theorem mono {P' : Q ⊕ N → Prop} {post' : α → σ → Prop} {epost' : ε → σ → Prop}
    (hP : ∀ e, P e → P' e) (hpost : ∀ a s, post a s → post' a s)
    (hepost : ∀ e s, epost e s → epost' e s) {c : Coro σ Q A N ε α} {s : σ}
    (h : Ensures P post epost c s) : Ensures P' post' epost' c s := by
  induction c generalizing s with
  | ret a => exact hpost a s h
  | raise e => exact hepost e s h
  | get k ih => exact ih s h
  | set s' k ih => exact ih h
  | note n k ih => exact ⟨hP _ h.1, ih h.2⟩
  | call q k ih => exact ⟨hP _ h.1, fun a => ih a (h.2 a)⟩

/-- Sequencing: the second part starts wherever the first returns. -/
theorem bind {post' : β → σ → Prop} {c : Coro σ Q A N ε α} {f : α → Coro σ Q A N ε β} {s : σ}
    (h : Ensures P (fun a s' => Ensures P post' epost (f a) s') epost c s) :
    Ensures P post' epost (c.bind f) s := by
  induction c generalizing s with
  | ret a => exact h
  | raise e => exact h
  | get k ih => exact ih s h
  | set s' k ih => exact ih h
  | note n k ih => exact ⟨h.1, ih h.2⟩
  | call q k ih => exact ⟨h.1, fun a => ih a (h.2 a)⟩

/-- Reading comes first. -/
theorem read_bind {f : σ → Coro σ Q A N ε α} {s : σ} (h : Ensures P post epost (f s) s) :
    Ensures P post epost (read.bind f) s :=
  h

/-- A request comes first. -/
theorem request_bind {post' : β → σ → Prop} {q : Q} {f : A q → Coro σ Q A N ε β} {s : σ}
    (hq : P (.inl q)) (h : ∀ a, Ensures P post' epost (f a) s) :
    Ensures P post' epost ((request q).bind f) s :=
  ⟨hq, h⟩

/-- An annotation comes first. -/
theorem annotate_bind {post' : β → σ → Prop} {n : N} {f : Unit → Coro σ Q A N ε β} {s : σ}
    (hn : P (.inr n)) (h : Ensures P post' epost (f ()) s) :
    Ensures P post' epost ((annotate n).bind f) s :=
  ⟨hn, h⟩

/-- Handling: the handler starts wherever the coroutine raises. -/
theorem tryCatch {c : Coro σ Q A N ε α} {handler : ε → Coro σ Q A N ε α} {s : σ}
    (h : Ensures P post (fun e s' => Ensures P post epost (handler e) s') c s) :
    Ensures P post epost (c.tryCatch handler) s := by
  induction c generalizing s with
  | ret a => exact h
  | raise e => exact h
  | get k ih => exact ih s h
  | set s' k ih => exact ih h
  | note n k ih => exact ⟨h.1, ih h.2⟩
  | call q k ih => exact ⟨h.1, fun a => ih a (h.2 a)⟩

/-- A computation without effects. -/
theorem ofExcept {x : Except ε α} {s : σ} (hok : ∀ a, x = .ok a → post a s)
    (herror : ∀ e, x = .error e → epost e s) :
    Ensures P post epost (Coro.ofExcept x : Coro σ Q A N ε α) s := by
  cases x with
  | ok a => exact hok a rfl
  | error e => exact herror e rfl

/-- A coroutine without state keeps the state it is lifted to. -/
theorem lift {post : α → Unit → Prop} {epost : ε → Unit → Prop} {c : Coro Unit Q A N ε α}
    (h : Ensures P post epost c ()) (s : σ) :
    Ensures P (fun a s' => post a () ∧ s' = s) (fun e s' => epost e () ∧ s' = s)
      (Coro.lift c) s := by
  induction c with
  | ret a => exact ⟨h, rfl⟩
  | raise e => exact ⟨h, rfl⟩
  | get k ih => exact ih () h
  | set s' k ih => exact ih h
  | note n k ih => exact ⟨h.1, ih h.2⟩
  | call q k ih => exact ⟨h.1, fun a => ih a (h.2 a)⟩

/-- A coroutine with private state asks for what it asks for. -/
theorem withState {c : Coro σ Q A N ε α} {s : σ} (h : Ensures P post epost c s) :
    Ensures P (fun a _ => ∃ s', post a s') (fun e _ => ∃ s', epost e s') (Coro.withState c s) () := by
  induction c generalizing s with
  | ret a => exact ⟨s, h⟩
  | raise e => exact ⟨s, h⟩
  | get k ih => exact ih s h
  | set s' k ih => exact ih h
  | note n k ih => exact ⟨h.1, ih h.2⟩
  | call q k ih => exact ⟨h.1, fun a => ih a (h.2 a)⟩

/-- So does a coroutine whose exceptions are taken into another type. -/
theorem mapError {ε' : Type} {g : ε → ε'} {epost' : ε' → σ → Prop} {c : Coro σ Q A N ε α} {s : σ}
    (h : Ensures P post (fun e s' => epost' (g e) s') c s) :
    Ensures P post epost' (c.mapError g) s := by
  induction c generalizing s with
  | ret a => exact h
  | raise e => exact h
  | get k ih => exact ih s h
  | set s' k ih => exact ih h
  | note n k ih => exact ⟨h.1, ih h.2⟩
  | call q k ih => exact ⟨h.1, fun a => ih a (h.2 a)⟩

/-! ## What the judgment means -/

/-- The postcondition that a result and a final state have to satisfy. -/
def Ends (post : α → σ → Prop) (epost : ε → σ → Prop) (s : σ) : Except ε α → Prop
  | .ok a => post a s
  | .error e => epost e s

/-- **A run** appends events of `P` to the trace and ends in the postconditions. -/
theorem run (env : Environment Q A) {c : Coro σ Q A N ε α} (w : World σ Q N)
    (h : Ensures P post epost c w.state) :
    (∃ es, (Coro.run env c w).2.trace = w.trace ++ es ∧ ∀ e ∈ es, P e) ∧
      Ends post epost (Coro.run env c w).2.state (Coro.run env c w).1 := by
  induction c generalizing w with
  | ret a => exact ⟨⟨[], by simp⟩, h⟩
  | raise e => exact ⟨⟨[], by simp⟩, h⟩
  | get k ih => exact ih w.state w h
  | set s' k ih =>
      have hupdate : Ensures P post epost k (w.update s').state := h
      exact ih (w.update s') hupdate
  | note n k ih =>
      have hrecord : Ensures P post epost k (w.record (.inr n)).state := h.2
      obtain ⟨⟨es, htrace, hes⟩, hend⟩ := ih (w.record (.inr n)) hrecord
      refine ⟨⟨.inr n :: es, ?_, List.forall_mem_cons.mpr ⟨h.1, hes⟩⟩, hend⟩
      rw [Coro.run, htrace, World.trace_record, List.append_assoc, List.singleton_append]
  | call q k ih =>
      have hrecord : Ensures P post epost (k (env (requests w.trace) q)) (w.record (.inl q)).state :=
        h.2 _
      obtain ⟨⟨es, htrace, hes⟩, hend⟩ := ih _ (w.record (.inl q)) hrecord
      refine ⟨⟨.inl q :: es, ?_, List.forall_mem_cons.mpr ⟨h.1, hes⟩⟩, hend⟩
      rw [Coro.run, htrace, World.trace_record, List.append_assoc, List.singleton_append]

/-- What is observed of a run ends in the postconditions. -/
theorem observe (env : Environment Q A) {c : Coro σ Q A N ε α} {s : σ} (rs : List Q)
    (h : Ensures P post epost c s) :
    Ends post epost (Coro.observe env c s rs).2.1 (Coro.observe env c s rs).1 := by
  induction c generalizing s rs with
  | ret a => exact h
  | raise e => exact h
  | get k ih => exact ih s rs h
  | set s' k ih => exact ih rs h
  | note n k ih => exact ih rs h.2
  | call q k ih => exact ih _ _ (h.2 _)

/-- What is observed of a run to be requested is of `P`. -/
theorem observe_requests (env : Environment Q A) {c : Coro σ Q A N ε α} {s : σ} (rs : List Q)
    (h : Ensures P post epost c s) :
    ∃ qs, (Coro.observe env c s rs).2.2 = rs ++ qs ∧ ∀ q ∈ qs, P (.inl q) := by
  induction c generalizing s rs with
  | ret a => exact ⟨[], (List.append_nil rs).symm, fun _ hq => by cases hq⟩
  | raise e => exact ⟨[], (List.append_nil rs).symm, fun _ hq => by cases hq⟩
  | get k ih => exact ih s rs h
  | set s' k ih => exact ih rs h
  | note n k ih => exact ih rs h.2
  | call q k ih =>
      obtain ⟨qs, hrequests, hqs⟩ := ih _ (rs ++ [q]) (h.2 _)
      refine ⟨q :: qs, ?_, List.forall_mem_cons.mpr ⟨h.1, hqs⟩⟩
      rw [Coro.observe, hrequests, List.append_assoc, List.singleton_append]

end Ensures

end Coro
