import Snakeskin.Library.Histories

/-! # Coroutines of a pool by themselves

Coroutines of a pool share nothing, so what one of them does depends on its own answers only. This
file makes that precise: in every interleaving, a coroutine does what it does alone against an
environment that answers it as it was answered.

* `Coro.Agrees` — an environment answers as it was answered in a history; `Coro.answering` is one.
* `Coro.Pool.Isolated` — how each coroutine of a pool stands, compared with its run alone.
* `Coro.Pool.isolated_run` — every interleaving is isolated.
* `Coro.Pool.Isolated.runs_as_alone` — what a coroutine asks for among others, it asks for alone.
* `Coro.Pool.Isolated.historyOf_of_asked_twice` — a coroutine that asks again was answered. -/

namespace Coro

variable {σ Q : Type} {A : Q → Type} {N ε α : Type}

/-! ## Environments that agree with a history -/

/-- The environment answers as it was answered in the history. -/
def Agrees (env : Environment Q A) (h : History Q A) : Prop :=
  ∀ before q a after, h = before ++ ⟨q, a⟩ :: after → env (before.map Sigma.fst) q = a

/-- The last answer of a history that is agreed with. -/
theorem Agrees.concat {env : Environment Q A} {h : History Q A} {q : Q} {a : A q}
    (hagrees : Agrees env (h ++ [⟨q, a⟩])) :
    Agrees env h ∧ env (h.map Sigma.fst) q = a := by
  constructor
  · intro before q' a' after hsplit
    refine hagrees before q' a' (after ++ [⟨q, a⟩]) ?_
    rw [hsplit, List.append_assoc, List.cons_append]
  · exact hagrees h q a [] rfl

open Classical in
/-- The environment that answers from a history as long as the requests are those of the history. -/
noncomputable def answering (h : History Q A) (fallback : (q : Q) → A q) : Environment Q A :=
  fun rs q => match h[rs.length]? with
    | some exchange => if heq : exchange.1 = q then heq ▸ exchange.2 else fallback q
    | none => fallback q

/-- It agrees with the history. -/
theorem agrees_answering (h : History Q A) (fallback : (q : Q) → A q) :
    Agrees (answering h fallback) h := by
  rintro before q a after rfl
  have hnext : (before ++ ⟨q, a⟩ :: after)[(before.map Sigma.fst).length]? = some ⟨q, a⟩ := by
    rw [List.length_map, List.getElem?_append_right (Nat.le_refl _), Nat.sub_self]
    rfl
  rw [answering, hnext]
  exact dif_pos rfl

/-- What is observed of a run goes on after its first segment. -/
theorem observe_segment (env : Environment Q A) (c : Coro σ Q A N ε α) (w : World σ Q N)
    (rs : List Q) :
    observe env c w.state rs = match c.segment w with
      | .returned a w' => (.ok a, w'.state, rs)
      | .raised e w' => (.error e, w'.state, rs)
      | .suspended q k w' => observe env (k (env rs q)) w'.state (rs ++ [q]) := by
  induction c generalizing w with
  | ret a => rfl
  | raise e => rfl
  | get k ih => exact ih _ w
  | set s k ih => exact ih (w.update s)
  | note n k ih => exact ih (w.record (.inr n))
  | call q k ih => rfl

namespace Pool

/-! ## What happens to one coroutine -/

/-- Whether something happens to a coroutine. -/
def concerns (thread : Nat) : Happening Q A → Bool
  | .asked thread' _ => thread' = thread
  | .answered thread' _ _ => thread' = thread

/-- What happens to one coroutine in a log. -/
def own (thread : Nat) (log : List (Happening Q A)) : List (Happening Q A) :=
  log.filter (concerns thread)

/-- What a coroutine asks for in a log. -/
def askedBy (thread : Nat) (log : List (Happening Q A)) : List Q :=
  log.filterMap fun happening => match happening with
    | .asked thread' q => if thread' = thread then some q else none
    | .answered _ _ _ => none

/-- The requests of a history, each with its answer after it. -/
def exchanges (thread : Nat) (h : History Q A) : List (Happening Q A) :=
  h.flatMap fun exchange =>
    [.asked thread exchange.1, .answered thread exchange.1 exchange.2]

@[simp] theorem own_append (thread : Nat) (log log' : List (Happening Q A)) :
    own thread (log ++ log') = own thread log ++ own thread log' :=
  List.filter_append log log'

theorem own_cons_asked (thread : Nat) (q : Q) (log : List (Happening Q A)) :
    own thread (.asked thread q :: log) = .asked thread q :: own thread log := by
  simp [own, concerns]

theorem own_asked_self (thread : Nat) (q : Q) :
    own thread [(.asked thread q : Happening Q A)] = [.asked thread q] :=
  own_cons_asked thread q []

theorem own_answered_self (thread : Nat) (q : Q) (a : A q) :
    own thread [.answered thread q a] = [.answered thread q a] := by
  simp [own, concerns]

theorem own_asked_of_ne {thread thread' : Nat} (h : thread' ≠ thread) (q : Q) :
    own thread [(.asked thread' q : Happening Q A)] = [] := by
  simp [own, concerns, h]

theorem own_answered_of_ne {thread thread' : Nat} (h : thread' ≠ thread) (q : Q) (a : A q) :
    own thread [.answered thread' q a] = [] := by
  simp [own, concerns, h]

/-- One more exchange. -/
theorem exchanges_concat (thread : Nat) (h : History Q A) (q : Q) (a : A q) :
    exchanges thread (h ++ [⟨q, a⟩]) =
      exchanges thread h ++ [.asked thread q] ++ [.answered thread q a] := by
  rw [exchanges, List.flatMap_append, List.append_assoc]
  rfl

/-- What is collected from one coroutine is collected from what happens to it. -/
theorem filterMap_own {β : Type} {thread : Nat} {f : Happening Q A → Option β}
    (hf : ∀ happening, concerns thread happening = false → f happening = none)
    (log : List (Happening Q A)) : (own thread log).filterMap f = log.filterMap f := by
  induction log with
  | nil => rfl
  | cons happening log ih =>
      rw [own] at ih
      cases hconcerns : concerns thread happening with
      | true => rw [own, List.filter_cons_of_pos hconcerns, List.filterMap_cons, List.filterMap_cons, ih]
      | false =>
          rw [own, List.filter_cons_of_neg (by simp [hconcerns]), List.filterMap_cons,
            hf happening hconcerns, ih]

/-- The history of a coroutine is in what happens to it. -/
theorem historyOf_own (thread : Nat) (log : List (Happening Q A)) :
    historyOf thread (own thread log) = historyOf thread log := by
  refine filterMap_own (fun happening hconcerns => ?_) log
  cases happening with
  | asked thread' q => rfl
  | answered thread' q a => exact if_neg (of_decide_eq_false hconcerns)

/-- So is what it asks for. -/
theorem askedBy_own (thread : Nat) (log : List (Happening Q A)) :
    askedBy thread (own thread log) = askedBy thread log := by
  refine filterMap_own (fun happening hconcerns => ?_) log
  cases happening with
  | asked thread' q => exact if_neg (of_decide_eq_false hconcerns)
  | answered thread' q a => rfl

theorem askedBy_append (thread : Nat) (log log' : List (Happening Q A)) :
    askedBy thread (log ++ log') = askedBy thread log ++ askedBy thread log' :=
  List.filterMap_append

theorem historyOf_exchanges (thread : Nat) (h : History Q A) :
    historyOf thread (exchanges thread h) = h := by
  induction h with
  | nil => rfl
  | cons exchange h ih =>
      have hcons : exchanges thread (exchange :: h) =
          [.asked thread exchange.1, .answered thread exchange.1 exchange.2] ++
            exchanges thread h := rfl
      rw [hcons, historyOf_append, ih]
      simp [historyOf]

theorem askedBy_exchanges (thread : Nat) (h : History Q A) :
    askedBy thread (exchanges thread h) = h.map Sigma.fst := by
  induction h with
  | nil => rfl
  | cons exchange h ih =>
      have hcons : exchanges thread (exchange :: h) =
          [.asked thread exchange.1, .answered thread exchange.1 exchange.2] ++
            exchanges thread h := rfl
      rw [hcons, askedBy_append, ih]
      simp [askedBy]

/-! ## How one coroutine stands

In what follows `c` is the coroutine as it was started, and `h` what it was told. -/

/-- The coroutine was answered everything, and goes on with what is left of it. -/
structure GoesOn (c : Coro Unit Q A N ε Unit) (thread : Nat) (log : List (Happening Q A))
    (h : History Q A) (left : Coro Unit Q A N ε Unit) : Prop where
  own_eq : own thread log = exchanges thread h
  observe_eq : ∀ env, Agrees env h →
    observe env c () [] = observe env left () (h.map Sigma.fst)

/-- The coroutine waits for the answer to one more request. -/
structure WaitsFor (c : Coro Unit Q A N ε Unit) (thread : Nat) (log : List (Happening Q A))
    (h : History Q A) (q : Q) (k : A q → Coro Unit Q A N ε Unit) : Prop where
  own_eq : own thread log = exchanges thread h ++ [.asked thread q]
  observe_eq : ∀ env, Agrees env h → observe env c () [] =
    observe env (k (env (h.map Sigma.fst) q)) () (h.map Sigma.fst ++ [q])

/-- What the coroutine did so far, whether it goes on or not: alone it asks for as much, and, unless
the answer to a request is pending, for no more. -/
structure DoneAlone (c : Coro Unit Q A N ε Unit) (thread : Nat) (log : List (Happening Q A))
    (h : History Q A) (pending : Option Q) : Prop where
  own_eq : own thread log = exchanges thread h ++ pending.toList.map (.asked thread)
  prefix_observe : ∀ env, Agrees env h →
    h.map Sigma.fst ++ pending.toList <+: (observe env c () []).2.2
  eq_observe : pending = none → ∀ env, Agrees env h →
    (observe env c () []).2.2 = h.map Sigma.fst

section Standing

variable {c left : Coro Unit Q A N ε Unit} {thread : Nat} {log log' : List (Happening Q A)}
  {h : History Q A} {q : Q} {k : A q → Coro Unit Q A N ε Unit} {pending : Option Q}

/-- A coroutine that is started goes on with all of it. -/
theorem GoesOn.start (hown : own thread log = []) : GoesOn c thread log [] c :=
  ⟨hown, fun _ _ => rfl⟩

/-- A coroutine that goes on up to its next suspension waits. -/
theorem GoesOn.suspended (hgoes : GoesOn c thread log h left) {w' : World Unit Q N}
    (hsegment : left.segment ⟨(), []⟩ = .suspended q k w') :
    WaitsFor c thread (log ++ [.asked thread q]) h q k := by
  refine ⟨?_, fun env hagrees => ?_⟩
  · rw [own_append, own_asked_self, hgoes.own_eq]
  · rw [hgoes.observe_eq env hagrees,
      observe_segment env left (⟨(), []⟩ : World Unit Q N) (h.map Sigma.fst), hsegment]

/-- A coroutine that goes on to its end has asked for all that it asks for. -/
theorem GoesOn.ended (hgoes : GoesOn c thread log h left)
    (hsegment : ∀ q k w', left.segment ⟨(), []⟩ ≠ .suspended q k w') :
    DoneAlone c thread log h none := by
  have hall : ∀ env, Agrees env h → (observe env c () []).2.2 = h.map Sigma.fst := by
    intro env hagrees
    rw [hgoes.observe_eq env hagrees,
      observe_segment env left (⟨(), []⟩ : World Unit Q N) (h.map Sigma.fst)]
    cases hleft : left.segment (⟨(), []⟩ : World Unit Q N) with
    | returned a w' => rfl
    | raised e w' => rfl
    | suspended q k w' => exact absurd hleft (hsegment q k w')
  refine ⟨?_, fun env hagrees => ?_, fun _ => hall⟩
  · rw [hgoes.own_eq, Option.toList_none, List.map_nil, List.append_nil]
  · exact ⟨[], by rw [hall env hagrees, Option.toList_none, List.append_nil, List.append_nil]⟩

/-- A coroutine that is answered goes on. -/
theorem WaitsFor.answered (hwaits : WaitsFor c thread log h q k) (a : A q) :
    GoesOn c thread (log ++ [.answered thread q a]) (h ++ [⟨q, a⟩]) (k a) := by
  refine ⟨?_, fun env hagrees => ?_⟩
  · rw [own_append, own_answered_self, hwaits.own_eq, exchanges_concat]
  · obtain ⟨hbefore, hanswer⟩ := hagrees.concat
    rw [hwaits.observe_eq env hbefore, hanswer, List.map_append]
    rfl

/-- A coroutine that waits has asked so far for what it asks for first. -/
theorem WaitsFor.doneAlone (hwaits : WaitsFor c thread log h q k) :
    DoneAlone c thread log h (some q) := by
  refine ⟨hwaits.own_eq, fun env hagrees => ?_, fun hnone => by cases hnone⟩
  rw [hwaits.observe_eq env hagrees]
  exact prefix_observe env _ _ _

/-- What happens to others does not matter. -/
theorem WaitsFor.congr (hwaits : WaitsFor c thread log h q k) (hown : own thread log' = own thread log) :
    WaitsFor c thread log' h q k :=
  ⟨hown.trans hwaits.own_eq, hwaits.observe_eq⟩

theorem DoneAlone.congr (hdone : DoneAlone c thread log h pending)
    (hown : own thread log' = own thread log) : DoneAlone c thread log' h pending :=
  ⟨hown.trans hdone.own_eq, hdone.prefix_observe, hdone.eq_observe⟩

/-- What a coroutine was told, in terms of the log. -/
theorem DoneAlone.historyOf_eq (hdone : DoneAlone c thread log h pending) :
    historyOf thread log = h := by
  have hpending : historyOf thread (pending.toList.map (.asked thread) : List (Happening Q A)) = [] := by
    cases pending <;> rfl
  rw [← historyOf_own, hdone.own_eq, historyOf_append, historyOf_exchanges, hpending,
    List.append_nil]

/-- What it asked for, in terms of the log. -/
theorem DoneAlone.askedBy_eq (hdone : DoneAlone c thread log h pending) :
    askedBy thread log = h.map Sigma.fst ++ pending.toList := by
  have hpending :
      askedBy thread (pending.toList.map (.asked thread) : List (Happening Q A)) = pending.toList := by
    cases pending <;> simp [askedBy]
  rw [← askedBy_own, hdone.own_eq, askedBy_append, askedBy_exchanges, hpending]

end Standing

/-! ## Every interleaving is isolated -/

/-- Of the coroutines that were started, each has done what it does alone, and each that waits goes
on to do so. -/
structure Isolated (cs : List (Coro Unit Q A N ε Unit)) (pool : Pool Q A N ε) : Prop where
  spawned : pool.spawned = cs.length
  done : ∀ thread c, cs[thread]? = some c → ∃ h pending, DoneAlone c thread pool.log h pending
  waiting : ∀ thread q k, pool.threads thread = .waiting q k →
    ∃ c h, cs[thread]? = some c ∧ WaitsFor c thread pool.log h q k
  fresh : ∀ thread, cs.length ≤ thread →
    own thread pool.log = [] ∧ pool.threads thread = .ended

/-- A coroutine goes on, the others being isolated. -/
theorem Isolated.advance {cs : List (Coro Unit Q A N ε Unit)} {pool : Pool Q A N ε} {thread : Nat}
    {c left : Coro Unit Q A N ε Unit} {h : History Q A} (hspawned : pool.spawned = cs.length)
    (hc : cs[thread]? = some c) (hgoes : GoesOn c thread pool.log h left)
    (hdone : ∀ thread' c', thread' ≠ thread → cs[thread']? = some c' →
      ∃ h' pending, DoneAlone c' thread' pool.log h' pending)
    (hwaiting : ∀ thread' q k, thread' ≠ thread → pool.threads thread' = .waiting q k →
      ∃ c' h', cs[thread']? = some c' ∧ WaitsFor c' thread' pool.log h' q k)
    (hfresh : ∀ thread', cs.length ≤ thread' →
      own thread' pool.log = [] ∧ pool.threads thread' = .ended) :
    (pool.advance thread left).Isolated cs := by
  have hlt : thread < cs.length := (List.getElem?_eq_some_iff.mp hc).1
  unfold Pool.advance
  split
  · rename_i q k w' hsegment
    have hwaits := hgoes.suspended hsegment
    have hothers : ∀ thread', thread' ≠ thread →
        own thread' (pool.log ++ [.asked thread q]) = own thread' pool.log := by
      intro thread' hne
      rw [own_append, own_asked_of_ne (Ne.symm hne), List.append_nil]
    refine ⟨hspawned, fun thread' c' hc' => ?_, fun thread' q' k' hthread => ?_,
      fun thread' hle => ?_⟩
    · by_cases heq : thread' = thread
      · subst heq
        rw [hc] at hc'
        cases hc'
        exact ⟨h, some q, hwaits.doneAlone⟩
      · obtain ⟨h', pending, hdone'⟩ := hdone thread' c' heq hc'
        exact ⟨h', pending, hdone'.congr (hothers thread' heq)⟩
    · dsimp only at hthread
      by_cases heq : thread' = thread
      · subst heq
        rw [Function.update_self] at hthread
        cases hthread
        exact ⟨c, h, hc, hwaits⟩
      · rw [Function.update_of_ne heq] at hthread
        obtain ⟨c', h', hc', hwaits'⟩ := hwaiting thread' q' k' heq hthread
        exact ⟨c', h', hc', hwaits'.congr (hothers thread' heq)⟩
    · have hne : thread' ≠ thread := by omega
      dsimp only
      rw [hothers thread' hne, Function.update_of_ne hne]
      exact hfresh thread' hle
  · rename_i hsegment
    have hended := hgoes.ended fun q k w' => hsegment q k w'
    refine ⟨hspawned, fun thread' c' hc' => ?_, fun thread' q' k' hthread => ?_,
      fun thread' hle => ?_⟩
    · by_cases heq : thread' = thread
      · subst heq
        rw [hc] at hc'
        cases hc'
        exact ⟨h, none, hended⟩
      · exact hdone thread' c' heq hc'
    · dsimp only at hthread
      by_cases heq : thread' = thread
      · subst heq
        rw [Function.update_self] at hthread
        cases hthread
      · rw [Function.update_of_ne heq] at hthread
        exact hwaiting thread' q' k' heq hthread
    · have hne : thread' ≠ thread := by omega
      dsimp only
      rw [Function.update_of_ne hne]
      exact hfresh thread' hle

/-- **Every step keeps coroutines isolated.** -/
theorem Isolated.step {cs : List (Coro Unit Q A N ε Unit)} {pool : Pool Q A N ε}
    (h : pool.Isolated cs) (label : Label Q A N ε) :
    (pool.step label).Isolated (cs ++ label.spawned?.toList) := by
  cases label with
  | spawn c =>
      have hlast : (cs ++ [c])[pool.spawned]? = some c := by
        rw [h.spawned, List.getElem?_concat_length]
      have hbefore : ∀ thread c', thread ≠ pool.spawned → (cs ++ [c])[thread]? = some c' →
          cs[thread]? = some c' := by
        intro thread c' hne hc'
        have hlt : thread < (cs ++ [c]).length := (List.getElem?_eq_some_iff.mp hc').1
        rw [List.length_append, List.length_singleton] at hlt
        rw [h.spawned] at hne
        rwa [List.getElem?_append_left (by omega)] at hc'
      refine Isolated.advance (c := c) (h := []) ?_ hlast
        (GoesOn.start (h.fresh pool.spawned (Nat.le_of_eq h.spawned.symm)).1) ?_ ?_ ?_
      · rw [List.length_append, h.spawned]
        rfl
      · exact fun thread c' hne hc' => h.done thread c' (hbefore thread c' hne hc')
      · intro thread q k _ hthread
        obtain ⟨c', h', hc', hwaits⟩ := h.waiting thread q k hthread
        exact ⟨c', h', by rw [List.getElem?_append_left (List.getElem?_eq_some_iff.mp hc').1, hc'],
          hwaits⟩
      · intro thread hle
        rw [List.length_append] at hle
        exact h.fresh thread (by omega)
  | answer thread answer =>
      rw [Label.spawned?, Option.toList_none, List.append_nil]
      unfold Pool.step
      dsimp only
      split
      · rename_i q k hthread
        obtain ⟨c, history, hc, hwaits⟩ := h.waiting thread q k hthread
        have hothers : ∀ thread', thread' ≠ thread →
            own thread' (pool.log ++ [.answered thread q (answer q)]) = own thread' pool.log := by
          intro thread' hne
          rw [own_append, own_answered_of_ne (Ne.symm hne), List.append_nil]
        have hlt : thread < cs.length := (List.getElem?_eq_some_iff.mp hc).1
        refine Isolated.advance h.spawned hc (hwaits.answered (answer q)) ?_ ?_ ?_
        · intro thread' c' hne hc'
          obtain ⟨h', pending, hdone⟩ := h.done thread' c' hc'
          exact ⟨h', pending, hdone.congr (hothers thread' hne)⟩
        · intro thread' q' k' hne hthread'
          obtain ⟨c', h', hc', hwaits'⟩ := h.waiting thread' q' k' hthread'
          exact ⟨c', h', hc', hwaits'.congr (hothers thread' hne)⟩
        · intro thread' hle
          dsimp only
          rw [hothers thread' (by omega)]
          exact h.fresh thread' hle
      · exact h
  | cancel thread =>
      rw [Label.spawned?, Option.toList_none, List.append_nil]
      refine ⟨h.spawned, h.done, fun thread' q k hthread => ?_, fun thread' hle => ?_⟩
      · change Function.update pool.threads thread .ended thread' = .waiting q k at hthread
        by_cases heq : thread' = thread
        · rw [heq, Function.update_self] at hthread
          cases hthread
        · rw [Function.update_of_ne heq] at hthread
          exact h.waiting thread' q k hthread
      · obtain ⟨hnil, hended⟩ := h.fresh thread' hle
        refine ⟨hnil, ?_⟩
        show Function.update pool.threads thread .ended thread' = .ended
        by_cases heq : thread' = thread
        · rw [heq, Function.update_self]
        · rw [Function.update_of_ne heq]
          exact hended

/-- **Every interleaving is isolated**, by induction on its steps. -/
theorem isolated_run (labels : List (Label Q A N ε)) :
    ((empty : Pool Q A N ε).run labels).Isolated (labels.filterMap Label.spawned?) := by
  have hempty : (empty : Pool Q A N ε).Isolated [] :=
    ⟨rfl, fun _ _ hc => (by cases hc), fun _ _ _ hthread => (by cases hthread),
      fun _ _ => ⟨rfl, rfl⟩⟩
  suffices hrun : ∀ (cs : List (Coro Unit Q A N ε Unit)) (pool : Pool Q A N ε), pool.Isolated cs →
      (pool.run labels).Isolated (cs ++ labels.filterMap Label.spawned?) from hrun [] _ hempty
  induction labels with
  | nil =>
      intro cs pool h
      rwa [List.filterMap_nil, List.append_nil]
  | cons label labels ih =>
      intro cs pool h
      have hstep := ih _ _ (h.step label)
      rw [List.append_assoc] at hstep
      rw [filterMap_spawned?_cons]
      exact hstep

/-! ## What isolation gives -/

/-- **A coroutine does what it does alone**: against every environment that answers it as it was
answered, it first asks alone for what it asked for; and for that only, when everything that it
asked for was answered. -/
theorem Isolated.runs_as_alone {cs : List (Coro Unit Q A N ε Unit)} {pool : Pool Q A N ε}
    (h : pool.Isolated cs) {thread : Nat} {c : Coro Unit Q A N ε Unit} (hc : cs[thread]? = some c)
    {env : Environment Q A} (hagrees : Agrees env (historyOf thread pool.log)) :
    askedBy thread pool.log <+: (observe env c () []).2.2 ∧
      ((askedBy thread pool.log).length = (historyOf thread pool.log).length →
        askedBy thread pool.log = (observe env c () []).2.2) := by
  obtain ⟨history, pending, hdone⟩ := h.done thread c hc
  rw [hdone.historyOf_eq] at hagrees
  rw [hdone.askedBy_eq, hdone.historyOf_eq]
  refine ⟨hdone.prefix_observe env hagrees, fun hlength => ?_⟩
  cases pending with
  | none => rw [hdone.eq_observe rfl env hagrees, Option.toList_none, List.append_nil]
  | some q => simp at hlength

/-- A coroutine that waits was answered whatever it asked for but the last request. -/
theorem Isolated.length_askedBy_of_waiting {cs : List (Coro Unit Q A N ε Unit)}
    {pool : Pool Q A N ε} (h : pool.Isolated cs) {thread : Nat} {q : Q}
    {k : A q → Coro Unit Q A N ε Unit} (hwaiting : pool.threads thread = .waiting q k) :
    (askedBy thread pool.log).length = (historyOf thread pool.log).length + 1 := by
  obtain ⟨c, history, -, hwaits⟩ := h.waiting thread q k hwaiting
  rw [hwaits.doneAlone.askedBy_eq, hwaits.doneAlone.historyOf_eq, List.length_append,
    List.length_map]
  rfl

end Pool

end Coro
