import Snakeskin.Library.Coroutine

/-! # Coroutines that do the same over different states

Two coroutines over different states are *alike* under a relation of the states when they make the
same requests, record the same annotations, and end in the same way, whatever they are answered.
Runs of alike coroutines from related states stay related, `Alike.run`. -/

namespace Coro

variable {σ₁ σ₂ Q : Type} {A : Q → Type} {N ε α β : Type}

/-- The two coroutines proceed in lockstep: they read and write related states, and everything else
they do is the same. -/
inductive Alike (R : σ₁ → σ₂ → Prop) : Coro σ₁ Q A N ε α → Coro σ₂ Q A N ε α → Prop
  | ret (a : α) : Alike R (ret a) (ret a)
  | raise (e : ε) : Alike R (raise e) (raise e)
  | get {k₁ k₂} (h : ∀ s₁ s₂, R s₁ s₂ → Alike R (k₁ s₁) (k₂ s₂)) : Alike R (get k₁) (get k₂)
  | set {s₁ s₂ k₁ k₂} (hs : R s₁ s₂) (h : Alike R k₁ k₂) : Alike R (set s₁ k₁) (set s₂ k₂)
  | note (n : N) {k₁ k₂} (h : Alike R k₁ k₂) : Alike R (note n k₁) (note n k₂)
  | call (q : Q) {k₁ k₂} (h : ∀ a, Alike R (k₁ a) (k₂ a)) : Alike R (call q k₁) (call q k₂)

namespace Alike

variable {R : σ₁ → σ₂ → Prop}

/-- Sequences of alike parts are alike. -/
theorem bind {c₁ : Coro σ₁ Q A N ε α} {c₂ : Coro σ₂ Q A N ε α} {f₁ : α → Coro σ₁ Q A N ε β}
    {f₂ : α → Coro σ₂ Q A N ε β} (h : Alike R c₁ c₂) (hf : ∀ a, Alike R (f₁ a) (f₂ a)) :
    Alike R (c₁.bind f₁) (c₂.bind f₂) := by
  induction h with
  | ret a => exact hf a
  | raise e => exact .raise e
  | get _ ih => exact .get ih
  | set hs _ ih => exact .set hs ih
  | note n _ ih => exact .note n ih
  | call q _ ih => exact .call q ih

/-- So are handled coroutines with alike handlers. -/
theorem tryCatch {c₁ : Coro σ₁ Q A N ε α} {c₂ : Coro σ₂ Q A N ε α} {f₁ : ε → Coro σ₁ Q A N ε α}
    {f₂ : ε → Coro σ₂ Q A N ε α} (h : Alike R c₁ c₂) (hf : ∀ e, Alike R (f₁ e) (f₂ e)) :
    Alike R (c₁.tryCatch f₁) (c₂.tryCatch f₂) := by
  induction h with
  | ret a => exact .ret a
  | raise e => exact hf e
  | get _ ih => exact .get ih
  | set hs _ ih => exact .set hs ih
  | note n _ ih => exact .note n ih
  | call q _ ih => exact .call q ih

/-- A coroutine without state does the same beside any states. -/
theorem lift (R : σ₁ → σ₂ → Prop) (c : Coro Unit Q A N ε α) :
    Alike R (Coro.lift c) (Coro.lift c) := by
  induction c with
  | ret a => exact .ret a
  | raise e => exact .raise e
  | get k ih => exact ih ()
  | set s k ih => exact ih
  | note n k ih => exact .note n ih
  | call q k ih => exact .call q ih

/-- So does a computation without effects. -/
theorem ofExcept (R : σ₁ → σ₂ → Prop) (x : Except ε α) :
    Alike R (Coro.ofExcept x : Coro σ₁ Q A N ε α) (Coro.ofExcept x) := by
  cases x with
  | ok a => exact .ret a
  | error e => exact .raise e

/-- So does an annotation. -/
theorem annotate (R : σ₁ → σ₂ → Prop) (n : N) :
    Alike R (Coro.annotate n : Coro σ₁ Q A N ε Unit) (Coro.annotate n) :=
  .note n (.ret ())

/-- Reading related states and going on alike. -/
theorem read_bind {f₁ : σ₁ → Coro σ₁ Q A N ε α} {f₂ : σ₂ → Coro σ₂ Q A N ε α}
    (h : ∀ s₁ s₂, R s₁ s₂ → Alike R (f₁ s₁) (f₂ s₂)) : Alike R (read.bind f₁) (read.bind f₂) :=
  .get h

/-- Changes that keep states related are alike. -/
theorem modify {f₁ : σ₁ → σ₁} {f₂ : σ₂ → σ₂} (h : ∀ s₁ s₂, R s₁ s₂ → R (f₁ s₁) (f₂ s₂)) :
    Alike R (Coro.modify f₁ : Coro σ₁ Q A N ε Unit) (Coro.modify f₂) :=
  .get fun s₁ s₂ hs => .set (h s₁ s₂ hs) (.ret ())

/-- **Runs of alike coroutines** from related states end in the same result, with the same trace and
in related states. -/
theorem run (env : Environment Q A) {c₁ : Coro σ₁ Q A N ε α} {c₂ : Coro σ₂ Q A N ε α}
    (h : Alike R c₁ c₂) {w₁ : World σ₁ Q N} {w₂ : World σ₂ Q N} (hstate : R w₁.state w₂.state)
    (htrace : w₁.trace = w₂.trace) :
    (Coro.run env c₁ w₁).1 = (Coro.run env c₂ w₂).1 ∧
      R (Coro.run env c₁ w₁).2.state (Coro.run env c₂ w₂).2.state ∧
      (Coro.run env c₁ w₁).2.trace = (Coro.run env c₂ w₂).2.trace := by
  induction h generalizing w₁ w₂ with
  | ret a => exact ⟨rfl, hstate, htrace⟩
  | raise e => exact ⟨rfl, hstate, htrace⟩
  | get _ ih => exact ih _ _ hstate hstate htrace
  | set hs _ ih => exact ih hs htrace
  | note n _ ih =>
      refine ih hstate ?_
      rw [World.trace_record, World.trace_record, htrace]
  | call q _ ih =>
      rw [Coro.run, Coro.run, htrace]
      refine ih _ hstate ?_
      rw [World.trace_record, World.trace_record, htrace]

end Alike

end Coro
