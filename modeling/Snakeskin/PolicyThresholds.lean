import Snakeskin.PolicyIdentities

/-! # Vacuous and impossible policies

A compiled rule asks for a number out of its members, and only `OutOf` looks at the number: zero is
refused there. This file says which policies are compiled to a rule that holds with no signature at
all, and which to one that the signatures of all its identities do not satisfy. -/

namespace Snakeskin

open Wire

/-! ## The shape of a policy -/

mutual

/-- The policy needs nobody: those of its sub-policies that need nobody are as many as it asks
for. -/
def EndorsementPolicy.needsNobody : EndorsementPolicy → Bool
  | ⟨expr, outOf, roles, subPolicies⟩ =>
      let parts := EndorsementPolicy.needsNobodyEach subPolicies
      match expr, outOf with
      -- A role needs somebody, so an `And` needs nobody without roles only.
      | .inl .And, _ => roles.isEmpty && parts.all id
      | .inl .Or, _ => parts.any id
      | .inl .OutOf, some n => n ≤ parts.count true
      | _, _ => false

/-- Which policies of a list need nobody. -/
def EndorsementPolicy.needsNobodyEach : List EndorsementPolicy → List Bool
  | [] => []
  | policy :: policies => policy.needsNobody :: EndorsementPolicy.needsNobodyEach policies

end

mutual

/-- The policy can be met: its roles, with those of its sub-policies that can be met, are as many as
it asks for. -/
def EndorsementPolicy.canBeMet : EndorsementPolicy → Bool
  | ⟨expr, outOf, roles, subPolicies⟩ =>
      let parts := EndorsementPolicy.canBeMetEach subPolicies
      match expr, outOf with
      | .inl .And, _ => parts.all id
      | .inl .Or, _ => !roles.isEmpty || parts.any id
      | .inl .OutOf, some n => n ≤ roles.length + parts.count true
      | _, _ => false

/-- Which policies of a list can be met. -/
def EndorsementPolicy.canBeMetEach : List EndorsementPolicy → List Bool
  | [] => []
  | policy :: policies => policy.canBeMet :: EndorsementPolicy.canBeMetEach policies

end

/-- They are those of its members. -/
theorem EndorsementPolicy.needsNobodyEach_eq (policies : List EndorsementPolicy) :
    needsNobodyEach policies = policies.map needsNobody := by
  induction policies with
  | nil => rfl
  | cons policy policies ih => rw [needsNobodyEach, ih, List.map_cons]

/-- They are those of its members. -/
theorem EndorsementPolicy.canBeMetEach_eq (policies : List EndorsementPolicy) :
    canBeMetEach policies = policies.map canBeMet := by
  induction policies with
  | nil => rfl
  | cons policy policies ih => rw [canBeMetEach, ih, List.map_cons]

variable (case : CaseMapping)

/-- Where no principal holds, a policy holds when it needs nobody; by induction on the policy. -/
theorem EndorsementPolicy.holds_nobody (policy : EndorsementPolicy) :
    policy.holds case (fun _ _ => false) = policy.needsNobody := by
  induction policy using EndorsementPolicy.induction with
  | step expr outOf roles subPolicies ih =>
      have hroles : roles.map (EndorsementPolicyRole.holds case fun _ _ => false) =
          List.replicate roles.length false := by
        rw [List.eq_replicate_iff, List.length_map]
        refine ⟨rfl, fun b hb => ?_⟩
        obtain ⟨role, -, rfl⟩ := List.mem_map.mp hb
        rw [EndorsementPolicyRole.holds]
        split <;> rfl
      rw [holds, holdEach_eq, hroles, List.map_congr_left ih, ← needsNobodyEach_eq]
      rcases expr with (_ | _ | _) | text
      · cases roles <;> simp [combine, needsNobody]
      · simp [combine, needsNobody]
      · cases outOf <;> simp [combine, needsNobody, List.count_replicate]
      · simp [combine, needsNobody]

/-- Where the principals of all its roles hold, a policy holds when it can be met; by induction on
the policy. -/
theorem EndorsementPolicy.holds_everybody (policy : EndorsementPolicy)
    (hroles : ∀ role ∈ policy.occurrences, role.holds case (fun _ _ => true) = true) :
    policy.holds case (fun _ _ => true) = policy.canBeMet := by
  induction policy using EndorsementPolicy.induction with
  | step expr outOf roles subPolicies ih =>
      rw [occurrences, occurrencesEach_eq] at hroles
      have hown : roles.map (EndorsementPolicyRole.holds case fun _ _ => true) =
          List.replicate roles.length true := by
        rw [List.eq_replicate_iff, List.length_map]
        refine ⟨rfl, fun b hb => ?_⟩
        obtain ⟨role, hrole, rfl⟩ := List.mem_map.mp hb
        exact hroles role (List.mem_append_left _ hrole)
      have hsubs : ∀ sub ∈ subPolicies, sub.holds case (fun _ _ => true) = sub.canBeMet :=
        fun sub hsub => ih sub hsub fun role hrole => hroles role
          (List.mem_append_right _ (List.mem_flatMap.mpr ⟨sub, hsub, hrole⟩))
      rw [holds, holdEach_eq, hown, List.map_congr_left hsubs, ← canBeMetEach_eq]
      rcases expr with (_ | _ | _) | text
      · simp [combine, canBeMet]
      · cases roles <;> simp [combine, canBeMet]
      · cases outOf <;> simp [combine, canBeMet]
      · simp [combine, canBeMet]

/-! ## Compiled policies -/

/-- The rule holds although no principal has signed. -/
def SignaturePolicyEnvelope.Vacuous (envelope : SignaturePolicyEnvelope) : Prop :=
  envelope.rule.holds (fun _ => false) = true

/-- The rule holds when every principal in the identities list has signed. -/
def SignaturePolicyEnvelope.Satisfiable (envelope : SignaturePolicyEnvelope) : Prop :=
  envelope.rule.holds
    (fun index => 0 ≤ index.toInt ∧ index.toInt < envelope.identities.length) = true

variable {rt : Runtime} {case}

/-- A compiled policy is vacuous when it needs nobody. -/
theorem vacuous_iff {order order' : SetOrder EndorsementPolicyRole} {policy : EndorsementPolicy}
    {envelope : SignaturePolicyEnvelope}
    (h : buildSignaturePolicyEnvelope rt case order order' policy = .ok envelope) :
    envelope.Vacuous ↔ policy.needsNobody = true := by
  obtain ⟨hrule, -, -⟩ := buildSignaturePolicyEnvelope_cases h
  have hholds : envelope.rule.holds (fun _ => false) = policy.holds case fun _ _ => false := by
    refine buildEndorsementPolicy_holds order (policy.nodup_allRoles order) (fun role _ _ _ => ?_)
      policy rfl (fun _ hrole => hrole) hrule
    rw [EndorsementPolicyRole.holds]
    split <;> rfl
  rw [SignaturePolicyEnvelope.Vacuous, hholds, EndorsementPolicy.holds_nobody]

/-- It is satisfied by the signatures of all its identities when it can be met. -/
theorem satisfiable_iff {order order' : SetOrder EndorsementPolicyRole} {policy : EndorsementPolicy}
    {envelope : SignaturePolicyEnvelope}
    (h : buildSignaturePolicyEnvelope rt case order order' policy = .ok envelope) :
    envelope.Satisfiable ↔ policy.canBeMet = true := by
  obtain ⟨hrule, hentries, henumerators⟩ := buildSignaturePolicyEnvelope_cases h
  have hroles : ∀ role ∈ policy.allRoles order, role.holds case (fun _ _ => true) = true := by
    intro role hrole
    obtain ⟨type, htype⟩ := henumerators role hrole
    rw [EndorsementPolicyRole.holds, htype]
  have hholds : envelope.rule.holds
      (fun index => 0 ≤ index.toInt ∧ index.toInt < envelope.identities.length) =
      policy.holds case fun _ _ => true := by
    refine buildEndorsementPolicy_holds order (policy.nodup_allRoles order)
      (fun role hrole index hindex => ?_) policy rfl (fun _ hrole => hrole) hrule
    -- The number of a role is within the list of identities.
    have hlt := List.idxOf_lt_length_of_mem hrole
    rw [hentries.length_eq] at hlt
    rw [hroles role hrole, hindex, decide_eq_true_iff]
    exact ⟨Int.natCast_nonneg _, Int.ofNat_lt.mpr hlt⟩
  rw [SignaturePolicyEnvelope.Satisfiable, hholds, EndorsementPolicy.holds_everybody case policy]
  exact fun role hrole => hroles role ((policy.mem_allRoles_iff order role).mpr hrole)

variable (rt case)

/-- **Which compiled policies are neither vacuous nor impossible**: those that need somebody and can
be met, by the numbers of the members of each expression. -/
theorem compiled_policy_meaningful_iff (order order' : SetOrder EndorsementPolicyRole)
    {policy : EndorsementPolicy} {envelope : SignaturePolicyEnvelope}
    (h : buildSignaturePolicyEnvelope rt case order order' policy = .ok envelope) :
    (¬ envelope.Vacuous ∧ envelope.Satisfiable) ↔
      policy.needsNobody = false ∧ policy.canBeMet = true := by
  rw [vacuous_iff h, satisfiable_iff h, Bool.not_eq_true]

/-- An `And` of nothing is compiled to a rule that needs no signature, and an `Or` of nothing to one
that no signatures satisfy. -/
theorem compiled_policy_meaningless :
    (∃ envelope, buildSignaturePolicyEnvelope (wireRuntime id) asciiCase (.listed _) (.listed _)
        { expr := .inl .And } = .ok envelope ∧ envelope.Vacuous) ∧
    ∃ envelope, buildSignaturePolicyEnvelope (wireRuntime id) asciiCase (.listed _) (.listed _)
        { expr := .inl .Or } = .ok envelope ∧ ¬ envelope.Satisfiable :=
  ⟨⟨_, rfl, rfl⟩, _, rfl, Bool.false_ne_true⟩

/-- Two roles that are both asked for make a rule that is neither. -/
theorem compiled_policy_meaningful_rolePair :
    ∃ envelope, buildSignaturePolicyEnvelope (wireRuntime id) asciiCase (.listed _) (.listed _)
        rolePair = .ok envelope ∧ ¬ envelope.Vacuous ∧ envelope.Satisfiable := by
  have hcompiles : (buildSignaturePolicyEnvelope (wireRuntime id) asciiCase (.listed _) (.listed _)
      rolePair).toOption.isSome = true := by
    decide +kernel
  obtain ⟨envelope, h⟩ := exists_ok_of_isSome hcompiles
  exact ⟨envelope, h, (compiled_policy_meaningful_iff asciiCase (wireRuntime id) (.listed _)
    (.listed _) h).mpr ⟨rfl, rfl⟩⟩

end Snakeskin
