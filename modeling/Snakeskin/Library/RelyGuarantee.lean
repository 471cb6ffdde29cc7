import Snakeskin.Library.Hoare

/-! # Rely–guarantee reasoning for coroutines

An invariant of a shared state is kept by every interleaving of coroutines when each of them keeps
it *by segments*: it may assume at every resumption that the others have moved the state along a
`rely` relation and kept the invariant, and it has to move the state along `rely` itself and
re-establish the invariant wherever it suspends or ends.

* `Discipline` — the invariant and the rely relation, with reflexivity and transitivity as fields.
* `Coro.Safe` — a coroutine follows a discipline, and ends in its postconditions; `Safe.bind`,
  `Safe.tryCatch` compose such facts and `Safe.segment` says what they mean for one atomic segment.
* `Coro.Safe.lift` puts a coroutine that leaves the state alone under a discipline.
* `Coro.Guarantees` — the guarantee alone: what a coroutine itself does to the world, whatever the
  others do while it is suspended, with the same composition rules. -/

namespace Coro

variable {σ Q : Type} {A : Q → Type} {N ε α β : Type}

/-- An invariant of the shared world, and the steps others are relied on to keep to. -/
structure Discipline (σ Q N : Type) where
  /-- What holds wherever a coroutine is suspended. -/
  inv : World σ Q N → Prop
  /-- How the world may move while a coroutine is suspended. -/
  rely : World σ Q N → World σ Q N → Prop
  /-- Standing still is a move. -/
  rely_refl : ∀ w, rely w w
  /-- Two moves make one. -/
  rely_trans : ∀ {w₁ w₂ w₃}, rely w₁ w₂ → rely w₂ w₃ → rely w₁ w₃

/-- Started from `w`, the coroutine keeps to the discipline: every write and every recorded event is
a move of `rely`, the invariant holds at every suspension and at the end, a returned value satisfies
`post` and a raised exception `epost`. -/
def Safe (D : Discipline σ Q N) (post : α → World σ Q N → Prop) (epost : ε → World σ Q N → Prop) :
    Coro σ Q A N ε α → World σ Q N → Prop
  | ret a, w => D.inv w ∧ post a w
  | raise e, w => D.inv w ∧ epost e w
  | get k, w => Safe D post epost (k w.state) w
  | set s k, w => D.rely w (w.update s) ∧ Safe D post epost k (w.update s)
  | note n k, w => D.rely w (w.record (.inr n)) ∧ Safe D post epost k (w.record (.inr n))
  -- Here the others may take over: the invariant has to hold, and the coroutine is resumed
  -- wherever `rely` leads to.
  | call q k, w => D.rely w (w.record (.inl q)) ∧ D.inv (w.record (.inl q)) ∧
      ∀ a w', D.rely (w.record (.inl q)) w' → D.inv w' → Safe D post epost (k a) w'

namespace Safe

variable {D : Discipline σ Q N} {post : α → World σ Q N → Prop} {epost : ε → World σ Q N → Prop}

/-- Postconditions may be weakened. -/
theorem mono {post' : α → World σ Q N → Prop} {epost' : ε → World σ Q N → Prop}
    (hpost : ∀ a w, D.inv w → post a w → post' a w)
    (hepost : ∀ e w, D.inv w → epost e w → epost' e w)
    {c : Coro σ Q A N ε α} {w : World σ Q N} (h : Safe D post epost c w) :
    Safe D post' epost' c w := by
  induction c generalizing w with
  | ret a => exact ⟨h.1, hpost a w h.1 h.2⟩
  | raise e => exact ⟨h.1, hepost e w h.1 h.2⟩
  | get k ih => exact ih _ h
  | set s k ih => exact ⟨h.1, ih h.2⟩
  | note n k ih => exact ⟨h.1, ih h.2⟩
  | call q k ih => exact ⟨h.1, h.2.1, fun a w' hr hi => ih a (h.2.2 a w' hr hi)⟩

/-- **Sequencing**: the continuation has to be safe wherever the first part returns. -/
theorem bind {post' : β → World σ Q N → Prop} {c : Coro σ Q A N ε α}
    {f : α → Coro σ Q A N ε β} {w : World σ Q N}
    (h : Safe D (fun a w' => Safe D post' epost (f a) w') epost c w) :
    Safe D post' epost (c.bind f) w := by
  induction c generalizing w with
  | ret a => exact h.2
  | raise e => exact h
  | get k ih => exact ih _ h
  | set s k ih => exact ⟨h.1, ih h.2⟩
  | note n k ih => exact ⟨h.1, ih h.2⟩
  | call q k ih => exact ⟨h.1, h.2.1, fun a w' hr hi => ih a (h.2.2 a w' hr hi)⟩

/-- **Handling**: the handler has to be safe wherever the first part raises. -/
theorem tryCatch {c : Coro σ Q A N ε α} {handler : ε → Coro σ Q A N ε α} {w : World σ Q N}
    (h : Safe D post (fun e w' => Safe D post epost (handler e) w') c w) :
    Safe D post epost (c.tryCatch handler) w := by
  induction c generalizing w with
  | ret a => exact h
  | raise e => exact h.2
  | get k ih => exact ih _ h
  | set s k ih => exact ⟨h.1, ih h.2⟩
  | note n k ih => exact ⟨h.1, ih h.2⟩
  | call q k ih => exact ⟨h.1, h.2.1, fun a w' hr hi => ih a (h.2.2 a w' hr hi)⟩

/-- Reading comes first. -/
theorem read_bind {f : σ → Coro σ Q A N ε α} {w : World σ Q N}
    (h : Safe D post epost (f w.state) w) : Safe D post epost (read.bind f) w :=
  h

/-- A write comes first; it has to be a move of `rely`. -/
theorem modify_bind {g : σ → σ} {f : Unit → Coro σ Q A N ε α} {w : World σ Q N}
    (hr : D.rely w (w.update (g w.state))) (h : Safe D post epost (f ()) (w.update (g w.state))) :
    Safe D post epost ((modify g).bind f) w :=
  ⟨hr, h⟩

/-- An annotation comes first; it has to be a move of `rely`. -/
theorem annotate_bind {n : N} {f : Unit → Coro σ Q A N ε α} {w : World σ Q N}
    (hr : D.rely w (w.record (.inr n))) (h : Safe D post epost (f ()) (w.record (.inr n))) :
    Safe D post epost ((annotate n).bind f) w :=
  ⟨hr, h⟩

/-- A computation without effects. -/
theorem ofExcept {x : Except ε α} {w : World σ Q N} (hi : D.inv w) (hok : ∀ a, x = .ok a → post a w)
    (herror : ∀ e, x = .error e → epost e w) :
    Safe D post epost (Coro.ofExcept x : Coro σ Q A N ε α) w := by
  cases x with
  | ok a => exact ⟨hi, hok a rfl⟩
  | error e => exact ⟨hi, herror e rfl⟩

end Safe

/-- What safety from `w` says about the way a segment ends. -/
def Outcome.Safe (D : Discipline σ Q N) (post : α → World σ Q N → Prop)
    (epost : ε → World σ Q N → Prop) (w : World σ Q N) : Outcome σ Q A N ε α → Prop
  | .returned a w' => D.inv w' ∧ D.rely w w' ∧ post a w'
  | .raised e w' => D.inv w' ∧ D.rely w w' ∧ epost e w'
  | .suspended _ k w' => D.inv w' ∧ D.rely w w' ∧
      ∀ a w'', D.rely w' w'' → D.inv w'' → Coro.Safe D post epost (k a) w''

/-- Safety of an outcome may be seen from any earlier world. -/
theorem Outcome.Safe.of_rely {D : Discipline σ Q N} {post : α → World σ Q N → Prop}
    {epost : ε → World σ Q N → Prop} {w₀ w : World σ Q N} (h₀ : D.rely w₀ w)
    {o : Outcome σ Q A N ε α} (h : o.Safe D post epost w) : o.Safe D post epost w₀ := by
  cases o with
  | returned a w' => exact ⟨h.1, D.rely_trans h₀ h.2.1, h.2.2⟩
  | raised e w' => exact ⟨h.1, D.rely_trans h₀ h.2.1, h.2.2⟩
  | suspended q k w' => exact ⟨h.1, D.rely_trans h₀ h.2.1, h.2.2⟩

/-- **One atomic segment of a safe coroutine** keeps the invariant and moves along `rely`; where it
suspends, it is safe to resume after any further move. -/
theorem Safe.segment {D : Discipline σ Q N} {post : α → World σ Q N → Prop}
    {epost : ε → World σ Q N → Prop} {c : Coro σ Q A N ε α} {w : World σ Q N}
    (h : Safe D post epost c w) : (c.segment w).Safe D post epost w := by
  induction c generalizing w with
  | ret a => exact ⟨h.1, D.rely_refl w, h.2⟩
  | raise e => exact ⟨h.1, D.rely_refl w, h.2⟩
  | get k ih => exact ih _ h
  | set s k ih => exact (ih h.2).of_rely h.1
  | note n k ih => exact (ih h.2).of_rely h.1
  | call q k ih => exact ⟨h.2.1, h.1, h.2.2⟩

/-! ## Coroutines that leave the state alone -/

/-- **A lifted coroutine under a discipline**: it is enough that from the worlds of `F`, which
`rely` keeps, every event it may emit is a move that keeps the invariant. -/
theorem Safe.lift {P : Q ⊕ N → Prop} {post : α → Unit → Prop} {epost : ε → Unit → Prop}
    {D : Discipline σ Q N} {F : World σ Q N → Prop}
    (hF : ∀ w w', D.rely w w' → F w → F w')
    (hP : ∀ w e, P e → F w → D.inv w → D.rely w (w.record e) ∧ D.inv (w.record e))
    {c : Coro Unit Q A N ε α} (h : Ensures P post epost c ()) {w : World σ Q N} (hw : F w)
    (hi : D.inv w) :
    Safe D (fun a w' => post a () ∧ F w') (fun _ w' => F w') (Coro.lift c) w := by
  induction c generalizing w with
  | ret a => exact ⟨hi, h, hw⟩
  | raise e => exact ⟨hi, hw⟩
  | get k ih => exact ih () h hw hi
  | set s k ih => exact ih h hw hi
  | note n k ih =>
      obtain ⟨hr, hi'⟩ := hP w _ h.1 hw hi
      exact ⟨hr, ih h.2 (hF _ _ hr hw) hi'⟩
  | call q k ih =>
      obtain ⟨hr, hi'⟩ := hP w _ h.1 hw hi
      -- `F` holds at the resumption, since the others keep to `rely`.
      exact ⟨hr, hi', fun a w' hr' hi'' => ih a (h.2 a) (hF _ _ (D.rely_trans hr hr') hw) hi''⟩

/-! ## What a coroutine does itself -/

/-- Started from `w`, every move that the coroutine makes itself is in `G`, whatever the others do
to the world while it is suspended. -/
def Guarantees (G : World σ Q N → World σ Q N → Prop) : Coro σ Q A N ε α → World σ Q N → Prop
  | ret _, _ => True
  | raise _, _ => True
  | get k, w => Guarantees G (k w.state) w
  | set s k, w => G w (w.update s) ∧ Guarantees G k (w.update s)
  | note n k, w => G w (w.record (.inr n)) ∧ Guarantees G k (w.record (.inr n))
  -- Nothing is known of the world in which it is resumed.
  | call q k, w => G w (w.record (.inl q)) ∧ ∀ a w', Guarantees G (k a) w'

namespace Guarantees

variable {G : World σ Q N → World σ Q N → Prop}

/-- Sequencing. -/
theorem bind {c : Coro σ Q A N ε α} {f : α → Coro σ Q A N ε β} {w : World σ Q N}
    (hc : Guarantees G c w) (hf : ∀ a w', Guarantees G (f a) w') : Guarantees G (c.bind f) w := by
  induction c generalizing w with
  | ret a => exact hf a w
  | raise e => trivial
  | get k ih => exact ih _ hc
  | set s k ih => exact ⟨hc.1, ih hc.2⟩
  | note n k ih => exact ⟨hc.1, ih hc.2⟩
  | call q k ih => exact ⟨hc.1, fun a w' => ih a (hc.2 a w')⟩

/-- Handling. -/
theorem tryCatch {c : Coro σ Q A N ε α} {handler : ε → Coro σ Q A N ε α} {w : World σ Q N}
    (hc : Guarantees G c w) (hhandler : ∀ e w', Guarantees G (handler e) w') :
    Guarantees G (c.tryCatch handler) w := by
  induction c generalizing w with
  | ret a => trivial
  | raise e => exact hhandler e w
  | get k ih => exact ih _ hc
  | set s k ih => exact ⟨hc.1, ih hc.2⟩
  | note n k ih => exact ⟨hc.1, ih hc.2⟩
  | call q k ih => exact ⟨hc.1, fun a w' => ih a (hc.2 a w')⟩

/-- Reading comes first. -/
theorem read_bind {f : σ → Coro σ Q A N ε α} {w : World σ Q N} (h : Guarantees G (f w.state) w) :
    Guarantees G (read.bind f) w :=
  h

/-- A write. -/
theorem modify {g : σ → σ} {w : World σ Q N} (h : G w (w.update (g w.state))) :
    Guarantees G (Coro.modify g : Coro σ Q A N ε Unit) w :=
  ⟨h, trivial⟩

/-- An annotation. -/
theorem annotate {n : N} {w : World σ Q N} (h : G w (w.record (.inr n))) :
    Guarantees G (Coro.annotate n : Coro σ Q A N ε Unit) w :=
  ⟨h, trivial⟩

/-- A computation without effects. -/
theorem ofExcept (x : Except ε α) (w : World σ Q N) :
    Guarantees G (Coro.ofExcept x : Coro σ Q A N ε α) w := by
  cases x <;> trivial

/-- A lifted coroutine moves by its events only. -/
theorem lift {P : Q ⊕ N → Prop} {post : α → Unit → Prop} {epost : ε → Unit → Prop}
    (hP : ∀ w e, P e → G w (w.record e)) {c : Coro Unit Q A N ε α} (h : Ensures P post epost c ())
    (w : World σ Q N) : Guarantees G (Coro.lift c) w := by
  induction c generalizing w with
  | ret a => trivial
  | raise e => trivial
  | get k ih => exact ih () h w
  | set s k ih => exact ih h w
  | note n k ih => exact ⟨hP w _ h.1, ih h.2 _⟩
  | call q k ih => exact ⟨hP w _ h.1, fun a w' => ih a (h.2 a) w'⟩

end Guarantees

/-- What a guarantee says about the way a segment ends. -/
def Outcome.Guarantees (G : World σ Q N → World σ Q N → Prop) (w : World σ Q N) :
    Outcome σ Q A N ε α → Prop
  | .returned _ w' => G w w'
  | .raised _ w' => G w w'
  | .suspended _ k w' => G w w' ∧ ∀ a w'', Coro.Guarantees G (k a) w''

/-- It may be seen from any earlier world. -/
theorem Outcome.Guarantees.of_move {G : World σ Q N → World σ Q N → Prop}
    (htrans : ∀ w₁ w₂ w₃, G w₁ w₂ → G w₂ w₃ → G w₁ w₃) {w₀ w : World σ Q N} (h₀ : G w₀ w)
    {o : Outcome σ Q A N ε α} (h : o.Guarantees G w) : o.Guarantees G w₀ := by
  cases o with
  | returned a w' => exact htrans _ _ _ h₀ h
  | raised e w' => exact htrans _ _ _ h₀ h
  | suspended q k w' => exact ⟨htrans _ _ _ h₀ h.1, h.2⟩

/-- **One atomic segment** is a move of the guarantee, when moves compose. -/
theorem Guarantees.segment {G : World σ Q N → World σ Q N → Prop} (hrefl : ∀ w, G w w)
    (htrans : ∀ w₁ w₂ w₃, G w₁ w₂ → G w₂ w₃ → G w₁ w₃) {c : Coro σ Q A N ε α} {w : World σ Q N}
    (h : Guarantees G c w) : (c.segment w).Guarantees G w := by
  induction c generalizing w with
  | ret a => exact hrefl w
  | raise e => exact hrefl w
  | get k ih => exact ih _ h
  | set s k ih => exact (ih h.2).of_move htrans h.1
  | note n k ih => exact (ih h.2).of_move htrans h.1
  | call q k ih => exact h

end Coro
