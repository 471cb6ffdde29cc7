import Mathlib.Data.List.OfFn
import Snakeskin.Transact

/-! # Proposals

A proposal goes to all the peers of a list at once, and their answers arrive in any order. This file
says what `propose_tx` makes of them: the responses of all the peers, in the order of the list, or
the failure that arrives first. -/

namespace Snakeskin

open Wire

/-! ## Gathering -/

/-- Nothing fails when every result is a value. -/
theorem firstFailure_ofFn_eq_none {α : Type} {n : Nat} {results : Fin n → Except Exc α × Nat} :
    firstFailure (List.ofFn results) = none ↔ ∀ i, ∃ a, (results i).1 = .ok a := by
  induction n with
  | zero => simp [firstFailure]
  | succ n ih =>
      rw [List.ofFn_succ, Fin.forall_fin_succ]
      rcases hhead : results 0 with ⟨e | a, t⟩
      · -- The first result is a failure, so something fails.
        refine iff_of_false ?_ fun h => by simpa using h.1
        rw [firstFailure]
        cases firstFailure (List.ofFn fun i => results i.succ) with
        | none => simp
        | some later =>
            dsimp only
            split <;> simp
      · rw [firstFailure, ih]
        simp

/-- The failure that arrives first is no later than any other, and before those of later arguments
that arrive with it; by induction on the arguments. -/
theorem firstFailure_ofFn {α : Type} {n : Nat} {results : Fin n → Except Exc α × Nat} {e : Exc}
    {t : Nat} (h : firstFailure (List.ofFn results) = some (e, t)) :
    ∃ i, results i = (.error e, t) ∧ ∀ j e', (results j).1 = .error e' →
      t < (results j).2 ∨ t = (results j).2 ∧ i ≤ j := by
  induction n generalizing e t with
  | zero => cases h
  | succ n ih =>
      rw [List.ofFn_succ] at h
      rcases hhead : results 0 with ⟨e₀ | a, t₀⟩
      · rw [hhead, firstFailure] at h
        cases hlater : firstFailure (List.ofFn fun i => results i.succ) with
        | none =>
            -- The first result is the only failure.
            rw [hlater] at h
            cases h
            have hvalues := firstFailure_ofFn_eq_none.mp hlater
            refine ⟨0, hhead, fun j e' hj => ?_⟩
            obtain rfl | ⟨k, rfl⟩ := Fin.eq_zero_or_eq_succ j
            · exact .inr ⟨by rw [hhead], le_refl _⟩
            · obtain ⟨a, ha⟩ := hvalues k
              rw [ha] at hj
              cases hj
        | some later =>
            obtain ⟨e₁, t₁⟩ := later
            obtain ⟨i, hi, hleast⟩ := ih hlater
            rw [hlater] at h
            dsimp only at h
            by_cases hearlier : t₁ < t₀
            · -- A later argument fails strictly earlier.
              rw [if_pos hearlier] at h
              cases h
              refine ⟨i.succ, hi, fun j e' hj => ?_⟩
              obtain rfl | ⟨k, rfl⟩ := Fin.eq_zero_or_eq_succ j
              · exact .inl (by rw [hhead]; exact hearlier)
              · obtain hlt | ⟨heq, hle⟩ := hleast k e' hj
                · exact .inl hlt
                · exact .inr ⟨heq, Fin.succ_le_succ_iff.mpr hle⟩
            · rw [if_neg hearlier] at h
              obtain ⟨rfl, rfl⟩ : e₀ = e ∧ t₀ = t := by simpa using h
              refine ⟨0, hhead, fun j e' hj => ?_⟩
              obtain rfl | ⟨k, rfl⟩ := Fin.eq_zero_or_eq_succ j
              · exact .inr ⟨by rw [hhead], le_refl _⟩
              · have hk := hleast k e' hj
                obtain hlt | heq := lt_or_eq_of_le (show t₀ ≤ (results k.succ).2 by omega)
                · exact .inl hlt
                · exact .inr ⟨heq, Fin.zero_le _⟩
      · -- A value is skipped.
        rw [hhead, firstFailure] at h
        obtain ⟨i, hi, hleast⟩ := ih h
        refine ⟨i.succ, hi, fun j e' hj => ?_⟩
        obtain rfl | ⟨k, rfl⟩ := Fin.eq_zero_or_eq_succ j
        · rw [hhead] at hj
          cases hj
        · obtain hlt | ⟨heq, hle⟩ := hleast k e' hj
          · exact .inl hlt
          · exact .inr ⟨heq, Fin.succ_le_succ_iff.mpr hle⟩

/-- The values of results none of which is a failure. -/
theorem filterMap_toOption_ofFn {α : Type} {n : Nat} {results : Fin n → Except Exc α × Nat}
    {values : Fin n → α} (h : ∀ i, (results i).1 = .ok (values i)) :
    (List.ofFn results).filterMap (fun r => r.1.toOption) = List.ofFn values := by
  induction n with
  | zero => rfl
  | succ n ih =>
      rw [List.ofFn_succ, List.filterMap_cons, h 0, List.ofFn_succ, ih fun i => h i.succ]
      rfl

/-- **Gathering returns** when every result is a value: the values, in the order of the
arguments. -/
theorem gather_ofFn_eq_ok {α : Type} {n : Nat} {results : Fin n → Except Exc α × Nat}
    {values : List α} :
    gather (List.ofFn results) = .ok values ↔
      ∃ value : Fin n → α, (∀ i, (results i).1 = .ok (value i)) ∧ values = List.ofFn value := by
  rw [gather]
  cases hfirst : firstFailure (List.ofFn results) with
  | none =>
      choose value hvalue using firstFailure_ofFn_eq_none.mp hfirst
      dsimp only
      rw [filterMap_toOption_ofFn hvalue]
      constructor
      · rintro ⟨⟩
        exact ⟨value, hvalue, rfl⟩
      · rintro ⟨value', hvalue', rfl⟩
        have hsame : value = value' := by
          funext i
          exact Except.ok.inj ((hvalue i).symm.trans (hvalue' i))
        rw [hsame]
  | some failure =>
      obtain ⟨i, hi, -⟩ := firstFailure_ofFn hfirst
      refine iff_of_false (fun h => by cases h) ?_
      rintro ⟨value, hvalue, -⟩
      have hvalue := hvalue i
      rw [hi] at hvalue
      cases hvalue

/-- **Gathering raises** the failure that arrives first; of two that arrive together, that of the
earlier argument. -/
theorem gather_ofFn_eq_error {α : Type} {n : Nat} {results : Fin n → Except Exc α × Nat} {e : Exc} :
    gather (List.ofFn results) = .error e ↔
      ∃ i, (results i).1 = .error e ∧ ∀ j e', (results j).1 = .error e' →
        (results i).2 < (results j).2 ∨ (results i).2 = (results j).2 ∧ i ≤ j := by
  rw [gather]
  cases hfirst : firstFailure (List.ofFn results) with
  | none =>
      have hvalues := firstFailure_ofFn_eq_none.mp hfirst
      refine iff_of_false (fun h => by cases h) ?_
      rintro ⟨i, hi, -⟩
      obtain ⟨a, ha⟩ := hvalues i
      rw [ha] at hi
      cases hi
  | some failure =>
      obtain ⟨e₀, t₀⟩ := failure
      obtain ⟨i, hi, hleast⟩ := firstFailure_ofFn hfirst
      dsimp only
      constructor
      · rintro ⟨⟩
        refine ⟨i, by rw [hi], ?_⟩
        rw [hi]
        exact hleast
      · rintro ⟨j, hj, hleast'⟩
        -- Both come first, so they are the same.
        have hij := hleast j e hj
        have hji := hleast' i e₀ (by rw [hi])
        rw [hi] at hji
        have hsame : i = j := by
          refine Fin.le_antisymm ?_ ?_
          · omega
          · omega
        rw [← hsame, hi] at hj
        cases hj
        rfl

/-! ## The outcome of a proposal -/

variable (network : Network)

/-- A proposal to some peers is observed to send it once to all of them, and to gather their
answers. -/
theorem observe_proposeTx {peers : List Peer} (hpeers : peers ≠ []) (generatedTx : GeneratedTX)
    (sends : List Request) :
    Coro.observe network (proposeTx peers generatedTx) () sends =
      let answers : ProposalAnswers peers.length :=
        network sends (.processProposals generatedTx.signedProposal peers)
      ((gather (List.ofFn fun i => (processProposalOnPeer (answers.result i), answers.arrival i))).map
          (endorsedFrom generatedTx),
        (), sends ++ [.processProposals generatedTx.signedProposal peers]) := by
  rw [proposeTx, if_neg hpeers]
  show Coro.observe network (Coro.bind (Coro.ofExcept (gather _)) _) () _ = _
  rw [Coro.observe_bind, Coro.observe_ofExcept]
  dsimp only
  generalize gather _ = gathered
  cases gathered with
  | error e => rfl
  | ok responses => rfl

/-- A mapped result is a value, or an error, where the result is. -/
theorem map_eq_ok {α β : Type} {f : α → β} {x : Except Exc α} {b : β} :
    x.map f = .ok b ↔ ∃ a, x = .ok a ∧ b = f a := by
  cases x <;> simp [Except.map, eq_comm]

theorem map_eq_error {α β : Type} {f : α → β} {x : Except Exc α} {e : Exc} :
    x.map f = .error e ↔ x = .error e := by
  cases x <;> simp [Except.map]

/-- What a peer answers is what is processed, but for the type of its error. -/
theorem processProposalOnPeer_eq_ok {answer : Except RpcError ProposalResponse}
    {response : ProposalResponse} :
    processProposalOnPeer answer = .ok response ↔ answer = .ok response := by
  cases answer <;> simp [processProposalOnPeer]

theorem processProposalOnPeer_eq_error {answer : Except RpcError ProposalResponse} {e : Exc} :
    processProposalOnPeer answer = .error e ↔ ∃ error, answer = .error error ∧ error.toExc = e := by
  cases answer <;> simp [processProposalOnPeer]

/-- **The outcome of a proposal**: it is sent once, to all the peers. It returns the responses of
all of them, in the order of the list and whatever the order of arrival, when every peer answers;
and it raises the failure of the peer that fails first, of two at once that of the earlier peer. -/
theorem proposeTx_outcome {peers : List Peer} (hpeers : peers ≠ []) (generatedTx : GeneratedTX)
    (sends : List Request) :
    let answers : ProposalAnswers peers.length :=
      network sends (.processProposals generatedTx.signedProposal peers)
    let outcome := Coro.observe network (proposeTx peers generatedTx) () sends
    outcome.2.2 = sends ++ [.processProposals generatedTx.signedProposal peers] ∧
    (∀ tx, outcome.1 = .ok tx ↔ ∃ responses : Fin peers.length → ProposalResponse,
      (∀ i, answers.result i = .ok (responses i)) ∧
      tx = endorsedFrom generatedTx (List.ofFn responses)) ∧
    ∀ e, outcome.1 = .error e ↔ ∃ i error, answers.result i = .error error ∧ error.toExc = e ∧
      ∀ j error', answers.result j = .error error' →
        answers.arrival i < answers.arrival j ∨ answers.arrival i = answers.arrival j ∧ i ≤ j := by
  intro answers outcome
  have hobserve : outcome = _ := observe_proposeTx network hpeers generatedTx sends
  rw [hobserve]
  refine ⟨rfl, fun tx => ?_, fun e => ?_⟩
  · simp only [map_eq_ok, gather_ofFn_eq_ok, processProposalOnPeer_eq_ok]
    constructor
    · rintro ⟨responses, ⟨response, hresponse, rfl⟩, rfl⟩
      exact ⟨response, hresponse, rfl⟩
    · rintro ⟨response, hresponse, rfl⟩
      exact ⟨_, ⟨response, hresponse, rfl⟩, rfl⟩
  · simp only [map_eq_error, gather_ofFn_eq_error, processProposalOnPeer_eq_error]
    constructor
    · rintro ⟨i, ⟨error, herror, rfl⟩, hleast⟩
      exact ⟨i, error, herror, rfl, fun j error' hj => hleast j _ ⟨error', hj, rfl⟩⟩
    · rintro ⟨i, error, herror, rfl, hleast⟩
      refine ⟨i, ⟨error, herror, rfl⟩, ?_⟩
      rintro j e' ⟨error', hj, -⟩
      exact hleast j error' hj

/-- A network in which the first peer of a proposal answers and the others fail, the last of them
first. -/
def unevenNetwork : Network
  | _, .entropy => ([], {})
  | _, .processProposals _ _ =>
      ⟨fun i => if i.val = 0 then .ok {} else .error ⟨i.val, "unavailable"⟩, fun i => 10 - i.val⟩
  | _, .broadcast _ _ => ⟨[], .closed⟩
  | _, .deliverFiltered _ _ => ⟨[], .closed⟩
  | _, .deliver _ _ => ⟨[], .closed⟩

/-- Of three peers the last decides. -/
theorem proposeTx_outcome_unevenNetwork :
    (Coro.observe unevenNetwork
      (proposeTx [{ endpoint := "a" }, { endpoint := "b" }, { endpoint := "c" }]
        { proposal := {}, signedProposal := {}, header := {},
          txContext := { identity := {}, nonce := [], txId := "tx" } }) () []).1 =
      .error (.blockchainConnectionError 2 "unavailable") := by
  refine ((proposeTx_outcome unevenNetwork (List.cons_ne_nil _ _) _ []).2.2 _).mpr
    ⟨2, ⟨2, "unavailable"⟩, rfl, rfl, fun j error' _ => ?_⟩
  show 8 < 10 - j.val ∨ 8 = 10 - j.val ∧ 2 ≤ j.val
  have hj : j.val < 3 := j.isLt
  omega

end Snakeskin
