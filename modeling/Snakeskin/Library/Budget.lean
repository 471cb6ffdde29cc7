import Mathlib.Algebra.Order.BigOperators.Group.List
import Snakeskin.Library.Isolation

/-! # Budgets of coroutines

A coroutine that may loop, hand over and start again is bounded by what it asks for in all. Every
request has a price in an ordered monoid, so that several resources can be counted at once;
`Coro.Within price c s budget` says that the coroutine, started in `s`, keeps within the budget
whatever it is answered. There is one rule for each way of building a coroutine, and
`Within.observe` and `Pool.Isolated.within` say what the judgment means for a run alone and among
others. -/

namespace Coro

variable {σ Q : Type} {A : Q → Type} {N ε α β M : Type}
  [AddCommMonoid M] [PartialOrder M]

/-- Started in a state, the coroutine makes requests of a total price within the budget, whatever it
is answered. -/
def Within (price : Q → M) : Coro σ Q A N ε α → σ → M → Prop
  | ret _, _, _ => True
  | raise _, _, _ => True
  | get k, s, budget => Within price (k s) s budget
  | set s' k, _, budget => Within price k s' budget
  | note _ k, s, budget => Within price k s budget
  -- What the request leaves of the budget has to do for what follows.
  | call q k, s, budget => ∃ rest, price q + rest ≤ budget ∧ ∀ a, Within price (k a) s rest

namespace Within

variable {price : Q → M} {budget : M}

/-! ## Rules -/

/-- A budget may be raised. -/
theorem mono {rest : M} (hle : budget ≤ rest) {c : Coro σ Q A N ε α} {s : σ}
    (h : Within price c s budget) : Within price c s rest := by
  induction c generalizing s with
  | ret a => trivial
  | raise e => trivial
  | get k ih => exact ih s h
  | set s' k ih => exact ih h
  | note n k ih => exact ih h
  | call q k ih =>
      obtain ⟨left, hleft, hcont⟩ := h
      exact ⟨left, hleft.trans hle, hcont⟩

/-- An end costs nothing. -/
theorem ret (a : α) (s : σ) : Within price (Coro.ret a : Coro σ Q A N ε α) s budget := trivial

theorem raise (e : ε) (s : σ) : Within price (Coro.raise e : Coro σ Q A N ε α) s budget := trivial

/-- Neither does reading. -/
theorem read_bind {f : σ → Coro σ Q A N ε α} {s : σ} (h : Within price (f s) s budget) :
    Within price (read.bind f) s budget :=
  h

/-- Nor an annotation. -/
theorem annotate_bind {n : N} {f : Unit → Coro σ Q A N ε α} {s : σ}
    (h : Within price (f ()) s budget) : Within price ((annotate n).bind f) s budget :=
  h

/-- A request comes first. -/
theorem request_bind (rest : M) {q : Q} {f : A q → Coro σ Q A N ε α} {s : σ}
    (h : ∀ a, Within price (f a) s rest) :
    Within price ((request q).bind f) s (price q + rest) :=
  ⟨rest, le_rfl, h⟩

/-- Nor a computation without effects. -/
theorem ofExcept (x : Except ε α) (s : σ) :
    Within price (Coro.ofExcept x : Coro σ Q A N ε α) s budget := by
  cases x <;> trivial

/-- What follows a computation without effects is all that costs. -/
theorem ofExcept_bind {x : Except ε α} {f : α → Coro σ Q A N ε β} {s : σ}
    (h : ∀ a, Within price (f a) s budget) :
    Within price ((Coro.ofExcept x : Coro σ Q A N ε α).bind f) s budget := by
  cases x with
  | ok a => exact h a
  | error e => trivial

/-- A coroutine without state costs the same wherever it is lifted to. -/
theorem lift {c : Coro Unit Q A N ε α} (h : Within price c () budget) (s : σ) :
    Within price (Coro.lift c) s budget := by
  induction c generalizing budget with
  | ret a => trivial
  | raise e => trivial
  | get k ih => exact ih () h
  | set s' k ih => exact ih h
  | note n k ih => exact ih h
  | call q k ih =>
      obtain ⟨left, hleft, hcont⟩ := h
      exact ⟨left, hleft, fun a => ih a (hcont a)⟩

/-- So does one with private state. -/
theorem withState {c : Coro σ Q A N ε α} {s : σ} (h : Within price c s budget) :
    Within price (Coro.withState c s) () budget := by
  induction c generalizing s budget with
  | ret a => trivial
  | raise e => trivial
  | get k ih => exact ih s h
  | set s' k ih => exact ih h
  | note n k ih => exact ih h
  | call q k ih =>
      obtain ⟨left, hleft, hcont⟩ := h
      exact ⟨left, hleft, fun a => ih a (hcont a)⟩

/-- So does one whose exceptions are taken into another type. -/
theorem mapError {ε' : Type} {g : ε → ε'} {c : Coro σ Q A N ε α} {s : σ}
    (h : Within price c s budget) : Within price (c.mapError g) s budget := by
  induction c generalizing s budget with
  | ret a => trivial
  | raise e => trivial
  | get k ih => exact ih s h
  | set s' k ih => exact ih h
  | note n k ih => exact ih h
  | call q k ih =>
      obtain ⟨left, hleft, hcont⟩ := h
      exact ⟨left, hleft, fun a => ih a (hcont a)⟩

/-! ## Sequencing and handling -/

variable [IsOrderedAddMonoid M] [CanonicallyOrderedAdd M]

/-- Sequencing: the budgets add up. -/
theorem bind (rest : M) {c : Coro σ Q A N ε α} {f : α → Coro σ Q A N ε β} {s : σ}
    (h : Within price c s budget) (hrest : ∀ a s', Within price (f a) s' rest) :
    Within price (c.bind f) s (budget + rest) := by
  induction c generalizing s budget with
  | ret a => exact mono le_add_self (hrest a s)
  | raise e => trivial
  | get k ih => exact ih s h
  | set s' k ih => exact ih h
  | note n k ih => exact ih h
  | call q k ih =>
      obtain ⟨left, hleft, hcont⟩ := h
      refine ⟨left + rest, ?_, fun a => ih a (hcont a)⟩
      rw [← add_assoc]
      exact add_le_add_left hleft rest

/-- Handling: what the handler may spend is added. -/
theorem tryCatch (rest : M) {c : Coro σ Q A N ε α} {handler : ε → Coro σ Q A N ε α} {s : σ}
    (h : Within price c s budget) (hrest : ∀ e s', Within price (handler e) s' rest) :
    Within price (c.tryCatch handler) s (budget + rest) := by
  induction c generalizing s budget with
  | ret a => trivial
  | raise e => exact mono le_add_self (hrest e s)
  | get k ih => exact ih s h
  | set s' k ih => exact ih h
  | note n k ih => exact ih h
  | call q k ih =>
      obtain ⟨left, hleft, hcont⟩ := h
      refine ⟨left + rest, ?_, fun a => ih a (hcont a)⟩
      rw [← add_assoc]
      exact add_le_add_left hleft rest

/-- What follows does not count where it costs nothing. -/
theorem bind_free {c : Coro σ Q A N ε α} {f : α → Coro σ Q A N ε β} {s : σ}
    (h : Within price c s budget) (hfree : ∀ a s', Within price (f a) s' 0) :
    Within price (c.bind f) s budget :=
  mono (add_zero budget).le (bind 0 h hfree)

/-! ## What the judgment means -/

/-- **A run** makes requests of a total price within the budget. -/
theorem observe (env : Environment Q A) {c : Coro σ Q A N ε α} {s : σ} (rs : List Q)
    (h : Within price c s budget) :
    ∃ qs, (Coro.observe env c s rs).2.2 = rs ++ qs ∧ (qs.map price).sum ≤ budget := by
  induction c generalizing s rs budget with
  | ret a => exact ⟨[], (List.append_nil rs).symm, zero_le⟩
  | raise e => exact ⟨[], (List.append_nil rs).symm, zero_le⟩
  | get k ih => exact ih s rs h
  | set s' k ih => exact ih rs h
  | note n k ih => exact ih rs h
  | call q k ih =>
      obtain ⟨left, hleft, hcont⟩ := h
      obtain ⟨qs, hrequests, hsum⟩ := ih _ (rs ++ [q]) (hcont _)
      refine ⟨q :: qs, ?_, ?_⟩
      · rw [Coro.observe, hrequests, List.append_assoc, List.singleton_append]
      · rw [List.map_cons, List.sum_cons]
        exact (add_le_add_right hsum (price q)).trans hleft

end Within

/-- **Among others** a coroutine keeps within its budget as well. -/
theorem Pool.Isolated.within [IsOrderedAddMonoid M] [CanonicallyOrderedAdd M] {price : Q → M}
    {cs : List (Coro Unit Q A N ε Unit)} {pool : Pool Q A N ε} (h : pool.Isolated cs)
    {thread : Nat} {c : Coro Unit Q A N ε Unit}
    (hc : cs[thread]? = some c) (fallback : (q : Q) → A q) {budget : M}
    (hwithin : Within price c () budget) :
    ((askedBy thread pool.log).map price).sum ≤ budget := by
  obtain ⟨⟨later, hlater⟩, -⟩ :=
    h.runs_as_alone hc (agrees_answering (historyOf thread pool.log) fallback)
  obtain ⟨qs, hqs, hsum⟩ := hwithin.observe (answering (historyOf thread pool.log) fallback) []
  rw [List.nil_append] at hqs
  rw [← hqs, ← hlater, List.map_append, List.sum_append] at hsum
  exact le_self_add.trans hsum

end Coro
