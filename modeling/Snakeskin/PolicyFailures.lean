import Snakeskin.PolicyIdentities

/-! # When a policy is refused

Compiling a policy raises for a missing threshold and for a role without an enumerator, and for
nothing else: the role map that is passed down from the root has an entry for every role at every
depth. -/

namespace Snakeskin

open Wire

/-! ## Nodes -/

mutual

/-- The policies at any depth of a policy, itself among them. -/
def EndorsementPolicy.nodes : EndorsementPolicy → List EndorsementPolicy
  | ⟨expr, outOf, roles, subPolicies⟩ =>
      ⟨expr, outOf, roles, subPolicies⟩ :: EndorsementPolicy.nodesEach subPolicies

/-- The policies at any depth of a list of policies. -/
def EndorsementPolicy.nodesEach : List EndorsementPolicy → List EndorsementPolicy
  | [] => []
  | policy :: policies => policy.nodes ++ EndorsementPolicy.nodesEach policies

end

/-- They are those of its members. -/
theorem EndorsementPolicy.nodesEach_eq (policies : List EndorsementPolicy) :
    nodesEach policies = policies.flatMap nodes := by
  induction policies with
  | nil => rfl
  | cons policy policies ih => rw [nodesEach, ih, List.flatMap_cons]

/-- A node is the policy itself or a node of a sub-policy. -/
theorem EndorsementPolicy.forall_nodes {P : EndorsementPolicy → Prop} {policy : EndorsementPolicy} :
    (∀ node ∈ policy.nodes, P node) ↔
      P policy ∧ ∀ sub ∈ policy.subPolicies, ∀ node ∈ sub.nodes, P node := by
  obtain ⟨expr, outOf, roles, subPolicies⟩ := policy
  rw [nodes, List.forall_mem_cons, nodesEach_eq]
  refine and_congr_right fun _ => ⟨fun h sub hsub node hnode => ?_, fun h node hnode => ?_⟩
  · exact h node (List.mem_flatMap.mpr ⟨sub, hsub, hnode⟩)
  · obtain ⟨sub, hsub, hnode⟩ := List.mem_flatMap.mp hnode
    exact h sub hsub node hnode

/-- The roles that occur in a policy are those of its nodes, by induction on the policy. -/
theorem EndorsementPolicy.mem_occurrences_iff {role : EndorsementPolicyRole}
    (policy : EndorsementPolicy) :
    role ∈ policy.occurrences ↔ ∃ node ∈ policy.nodes, role ∈ node.roles := by
  induction policy using EndorsementPolicy.induction with
  | step expr outOf roles subPolicies ih =>
      rw [occurrences, occurrencesEach_eq, nodes, nodesEach_eq, List.mem_append,
        List.exists_mem_cons_iff, List.mem_flatMap]
      refine or_congr_right ⟨?_, ?_⟩
      · rintro ⟨sub, hsub, hrole⟩
        obtain ⟨node, hnode, hrole⟩ := (ih sub hsub).mp hrole
        exact ⟨node, List.mem_flatMap.mpr ⟨sub, hsub, hnode⟩, hrole⟩
      · rintro ⟨node, hnode, hrole⟩
        obtain ⟨sub, hsub, hnode⟩ := List.mem_flatMap.mp hnode
        exact ⟨sub, hsub, (ih sub hsub).mpr ⟨node, hnode, hrole⟩⟩

/-! ## What is refused -/

/-- The policy asks for a number out of its members and does not say which, or says zero. -/
def EndorsementPolicy.MissingOutOf (policy : EndorsementPolicy) : Prop :=
  policy.expr = .inl .OutOf ∧ (policy.outOf = none ∨ policy.outOf = some 0)

/-- The name of the role, in upper case, is not that of an enumerator. -/
def EndorsementPolicyRole.Undeclared (case : CaseMapping) (role : EndorsementPolicyRole) : Prop :=
  MSPRoleType.value? (case.upper role.role) = none

/-- The number is in the range of an `int32` field. -/
def FitsInt32 (n : Int) : Prop := -2 ^ 31 ≤ n ∧ n < 2 ^ 31
  deriving Decidable

/-- The thresholds of a policy, at every depth, and the length of the list of all its roles are in
the range of an `int32` field. -/
structure EndorsementPolicy.Fits (order : SetOrder EndorsementPolicyRole)
    (policy : EndorsementPolicy) : Prop where
  thresholds : ∀ node ∈ policy.nodes, ∀ n, node.numberOutOf = .ok n → FitsInt32 n
  allRoles : FitsInt32 (policy.allRoles order).length

/-- A number in range is written into the field. -/
theorem int32Field_of_fits {n : Int} (h : FitsInt32 n) : ∃ field, int32Field n = .ok field :=
  ⟨Int32.ofInt n, if_pos h⟩

/-- A number that is refused is refused with a `ValueError`. -/
theorem error_of_int32Field {n : Int} {e : Exc} (h : int32Field n = .error e) :
    ∃ msg, e = .valueError msg := by
  unfold int32Field at h
  split at h
  · cases h
  · cases h
    exact ⟨_, rfl⟩

/-- A declared expression has a threshold unless it is missing. -/
theorem EndorsementPolicy.numberOutOf_ok_iff {policy : EndorsementPolicy} {expr : PolicyExpression}
    (h : policy.expr = .inl expr) : (∃ n, policy.numberOutOf = .ok n) ↔ ¬ policy.MissingOutOf := by
  obtain ⟨expr', outOf, roles, subPolicies⟩ := policy
  obtain rfl : expr' = .inl expr := h
  cases expr with
  | And => exact iff_of_true ⟨_, rfl⟩ fun h => (by cases h.1)
  | Or => exact iff_of_true ⟨_, rfl⟩ fun h => (by cases h.1)
  | OutOf =>
      rcases outOf with _ | n
      · exact iff_of_false (fun ⟨_, h⟩ => (by cases h)) fun h => h ⟨rfl, .inl rfl⟩
      · by_cases hn : n = 0
        · subst hn
          exact iff_of_false (fun ⟨_, h⟩ => (by cases h)) fun h => h ⟨rfl, .inr rfl⟩
        · refine iff_of_true ⟨n, if_neg hn⟩ ?_
          rintro ⟨-, h | h⟩
          · cases h
          · exact hn (Option.some.inj h)

/-- A threshold that is refused is refused with a `ValueError`. -/
theorem EndorsementPolicy.error_of_numberOutOf {policy : EndorsementPolicy} {e : Exc}
    (h : policy.numberOutOf = .error e) : ∃ msg, e = .valueError msg := by
  unfold numberOutOf at h
  split at h
  · cases h
  · cases h
  · split at h
    · cases h
      exact ⟨_, rfl⟩
    · split at h
      · cases h
        exact ⟨_, rfl⟩
      · cases h
  · cases h
    exact ⟨_, rfl⟩

/-- A role has a principal when its name is declared, and is refused with a `ValueError`
otherwise. -/
theorem rolePrincipal_cases (rt : Runtime) (case : CaseMapping) (role : EndorsementPolicyRole) :
    role.Undeclared case ∧ (∃ msg, rolePrincipal rt case role = .error (.valueError msg)) ∨
      ¬ role.Undeclared case ∧ ∃ principal, rolePrincipal rt case role = .ok principal := by
  unfold rolePrincipal EndorsementPolicyRole.Undeclared
  cases MSPRoleType.value? (case.upper role.role) with
  | none => exact .inl ⟨rfl, _, rfl⟩
  | some type => exact .inr ⟨Option.some_ne_none type, _, rfl⟩

/-! ## The role map at every depth -/

section RoleMaps

variable (order : SetOrder EndorsementPolicyRole)

/-- Compiling a policy with a role map compiles a node below it with a role map. -/
inductive CompiledWith :
    EndorsementPolicy → Option RoleMap → EndorsementPolicy → RoleMap → Prop
  /-- The policy itself is compiled with the effective role map. -/
  | here (policy : EndorsementPolicy) (roleMap : Option RoleMap) :
      CompiledWith policy roleMap policy (policy.effectiveRoleMap order roleMap)
  /-- Its sub-policies are compiled with that map in turn. -/
  | sub {policy sub node : EndorsementPolicy} {roleMap : Option RoleMap} {map : RoleMap}
      (hsub : sub ∈ policy.subPolicies)
      (h : CompiledWith sub (some (policy.effectiveRoleMap order roleMap)) node map) :
      CompiledWith policy roleMap node map

variable {order}

/-- The roles of a sub-policy are among those of the policy. -/
theorem EndorsementPolicy.allRoles_subset_of_sub {roles : List EndorsementPolicyRole}
    {policy sub : EndorsementPolicy} (h : ∀ role ∈ policy.allRoles order, role ∈ roles)
    (hsub : sub ∈ policy.subPolicies) : ∀ role ∈ sub.allRoles order, role ∈ roles :=
  fun role hrole => h role ((mem_allRoles order).mpr (.inr ⟨sub, hsub, hrole⟩))

/-- **One role map at every depth**: where a policy is compiled with the map of a list that has all
its roles, so is every node below it, by induction on the way down. -/
theorem CompiledWith.eq_enumerate {roles : List EndorsementPolicyRole} (hnodup : roles.Nodup)
    {policy node : EndorsementPolicy} {roleMap : Option RoleMap} {map : RoleMap}
    (h : CompiledWith order policy roleMap node map)
    (hmap : policy.effectiveRoleMap order roleMap = RoleMap.enumerate roles)
    (hsubset : ∀ role ∈ policy.allRoles order, role ∈ roles) :
    map = RoleMap.enumerate roles ∧ ∀ role ∈ node.roles, role ∈ roles := by
  induction h with
  | here policy roleMap =>
      refine ⟨hmap, fun role hrole => ?_⟩
      exact hsubset role ((EndorsementPolicy.mem_allRoles order).mpr (.inl hrole))
  | sub hsub _ ih =>
      have hbelow := EndorsementPolicy.allRoles_subset_of_sub hsubset hsub
      refine ih ?_ hbelow
      rw [hmap]
      exact effectiveRoleMap_of_subset order hnodup hbelow

/-- A role of the list is compiled to its number, which is refused only out of range, with a
`ValueError`. -/
theorem signedByRole_enumerate {roles : List EndorsementPolicyRole} (hnodup : roles.Nodup)
    {role : EndorsementPolicyRole} (hmem : role ∈ roles) :
    (FitsInt32 roles.length → ∃ rule, signedByRole (RoleMap.enumerate roles) role = .ok rule) ∧
      ∀ e, signedByRole (RoleMap.enumerate roles) role = .error e → ∃ msg, e = .valueError msg := by
  unfold signedByRole
  rw [RoleMap.lookup_enumerate hnodup hmem]
  refine ⟨fun hfits => ?_, fun e h => ?_⟩
  · have hlt : roles.idxOf role < roles.length := List.idxOf_lt_length_iff.mpr hmem
    obtain ⟨field, hfield⟩ := int32Field_of_fits (n := roles.idxOf role)
      ⟨by omega, by have := hfits.2; omega⟩
    refine ⟨.signedBy field, ?_⟩
    dsimp only
    rw [hfield]
    rfl
  · obtain h | ⟨field, -, h⟩ := bind_eq_error.mp h
    · exact error_of_int32Field h
    · cases h

end RoleMaps

/-! ## Compilation -/

/-- **The rule is refused for a missing threshold only**, and with a `ValueError`, wherever the
policy is compiled with the map of a list that has all its roles; by induction on the policy. -/
theorem buildEndorsementPolicy_refuses (order : SetOrder EndorsementPolicyRole)
    {roles : List EndorsementPolicyRole} (hnodup : roles.Nodup) (policy : EndorsementPolicy)
    {roleMap : Option RoleMap}
    (hmap : policy.effectiveRoleMap order roleMap = RoleMap.enumerate roles)
    (hsubset : ∀ role ∈ policy.allRoles order, role ∈ roles) :
    (FitsInt32 roles.length → (∀ node ∈ policy.nodes, ∃ expr, node.expr = .inl expr) →
      (∀ node ∈ policy.nodes, ∀ n, node.numberOutOf = .ok n → FitsInt32 n) →
      ((∃ rule, buildEndorsementPolicy order roleMap policy = .ok rule) ↔
        ∀ node ∈ policy.nodes, ¬ node.MissingOutOf)) ∧
    ∀ e, buildEndorsementPolicy order roleMap policy = .error e → ∃ msg, e = .valueError msg := by
  induction policy using EndorsementPolicy.induction generalizing roleMap with
  | step expr outOf ownRoles subPolicies ih =>
      have hown : ∀ role ∈ ownRoles, role ∈ roles := fun role hrole =>
        hsubset role ((EndorsementPolicy.mem_allRoles order).mpr (.inl hrole))
      have hbelow : ∀ sub ∈ subPolicies, ∀ role ∈ sub.allRoles order, role ∈ roles := fun sub hsub =>
        EndorsementPolicy.allRoles_subset_of_sub hsubset hsub
      have hsubs := fun sub hsub => ih sub hsub
        (effectiveRoleMap_of_subset order hnodup (hbelow sub hsub)) (hbelow sub hsub)
      rw [buildEndorsementPolicy, hmap, buildSubPolicies_eq_mapM]
      refine ⟨fun hlength hexpr hthresholds => ?_, fun e h => ?_⟩
      · rw [EndorsementPolicy.forall_nodes] at hexpr hthresholds ⊢
        obtain ⟨⟨declared, hdeclared⟩, hexprs⟩ := hexpr
        rw [← EndorsementPolicy.numberOutOf_ok_iff hdeclared]
        have hnested : (∃ nested, subPolicies.mapM
            (buildEndorsementPolicy order (some (RoleMap.enumerate roles))) = .ok nested) ↔
            ∀ sub ∈ subPolicies, ∀ node ∈ sub.nodes, ¬ node.MissingOutOf := by
          rw [exists_mapM_ok_iff]
          exact forall_congr' fun sub => forall_congr' fun hsub =>
            (hsubs sub hsub).1 hlength (hexprs sub hsub) (hthresholds.2 sub hsub)
        rw [← hnested]
        constructor
        · rintro ⟨rule, h⟩
          obtain ⟨n, hn, h⟩ := bind_eq_ok.mp h
          obtain ⟨signed, -, h⟩ := bind_eq_ok.mp h
          obtain ⟨nested, hok, -⟩ := bind_eq_ok.mp h
          exact ⟨⟨n, hn⟩, nested, hok⟩
        · rintro ⟨⟨n, hn⟩, nested, hok⟩
          obtain ⟨signed, hsigned⟩ := exists_mapM_ok_iff.mpr fun role hrole =>
            (signedByRole_enumerate hnodup (hown role hrole)).1 hlength
          obtain ⟨field, hfield⟩ := int32Field_of_fits (hthresholds.1 n hn)
          refine ⟨.nOutOf field (signed ++ nested), ?_⟩
          rw [hn, ok_bind, hsigned, ok_bind, hok, ok_bind, hfield]
          rfl
      · obtain h | ⟨n, -, h⟩ := bind_eq_error.mp h
        · exact EndorsementPolicy.error_of_numberOutOf h
        obtain h | ⟨signed, -, h⟩ := bind_eq_error.mp h
        · obtain ⟨role, hrole, h⟩ := exists_of_mapM_eq_error h
          exact (signedByRole_enumerate hnodup (hown role hrole)).2 e h
        obtain h | ⟨nested, -, h⟩ := bind_eq_error.mp h
        · obtain ⟨sub, hsub, h⟩ := exists_of_mapM_eq_error h
          exact (hsubs sub hsub).2 e h
        obtain h | ⟨field, -, h⟩ := bind_eq_error.mp h
        · exact error_of_int32Field h
        · cases h

variable (rt : Runtime) (case : CaseMapping)

/-- The identities are listed when every role at every depth has a declared name. -/
theorem identities_ok_iff (order : SetOrder EndorsementPolicyRole) {policy : EndorsementPolicy} :
    (∃ principals, (policy.allRoles order).mapM (rolePrincipal rt case) = .ok principals) ↔
      ∀ node ∈ policy.nodes, ∀ role ∈ node.roles, ¬ role.Undeclared case := by
  have hroles : ∀ role, role ∈ policy.allRoles order ↔ ∃ node ∈ policy.nodes, role ∈ node.roles :=
    fun role => (policy.mem_allRoles_iff order role).trans policy.mem_occurrences_iff
  rw [exists_mapM_ok_iff]
  constructor
  · intro h node hnode role hrole hundeclared
    obtain ⟨principal, hprincipal⟩ := h role ((hroles role).mpr ⟨node, hnode, hrole⟩)
    obtain ⟨-, msg, herror⟩ | ⟨hdeclared, -⟩ := rolePrincipal_cases rt case role
    · cases herror.symm.trans hprincipal
    · exact hdeclared hundeclared
  · intro h role hmem
    obtain ⟨node, hnode, hrole⟩ := (hroles role).mp hmem
    obtain ⟨hundeclared, -⟩ | ⟨-, hprincipal⟩ := rolePrincipal_cases rt case role
    · exact absurd hundeclared (h node hnode role hrole)
    · exact hprincipal

/-- An envelope is returned when its rule and its identities are. -/
theorem buildSignaturePolicyEnvelope_ok_iff (order order' : SetOrder EndorsementPolicyRole)
    (policy : EndorsementPolicy) :
    (∃ envelope, buildSignaturePolicyEnvelope rt case order order' policy = .ok envelope) ↔
      (∃ rule, buildEndorsementPolicy order none policy = .ok rule) ∧
        ∃ principals, (policy.allRoles order').mapM (rolePrincipal rt case) = .ok principals := by
  constructor
  · rintro ⟨envelope, h⟩
    obtain ⟨rule, hrule, h⟩ := bind_eq_ok.mp h
    obtain ⟨principals, hprincipals, -⟩ := bind_eq_ok.mp h
    exact ⟨⟨rule, hrule⟩, principals, hprincipals⟩
  · rintro ⟨⟨rule, hrule⟩, principals, hprincipals⟩
    refine ⟨⟨0, rule, principals⟩, ?_⟩
    rw [buildSignaturePolicyEnvelope, hrule, ok_bind, hprincipals]
    rfl

/-- **When policy compilation fails.** A policy of declared expressions whose thresholds and list of
all roles are in range is refused if and only if some node asks for a number and does not say which,
or says zero, or some role of a node has an undeclared name; what is raised is a `ValueError`; and
each node, at any depth, is compiled with a map in which the roles of the node are looked up with
success. -/
theorem compilation_refused_iff (order order' : SetOrder EndorsementPolicyRole)
    {policy : EndorsementPolicy} (hexpr : ∀ node ∈ policy.nodes, ∃ expr, node.expr = .inl expr)
    (hfits : policy.Fits order) :
    ((∃ e, buildSignaturePolicyEnvelope rt case order order' policy = .error e) ↔
      ∃ node ∈ policy.nodes, node.MissingOutOf ∨ ∃ role ∈ node.roles, role.Undeclared case) ∧
    (∀ e, buildSignaturePolicyEnvelope rt case order order' policy = .error e →
      ∃ msg, e = .valueError msg) ∧
    ∀ node map, CompiledWith order policy none node map →
      ∀ role ∈ node.roles, ∃ index, map.lookup role = some index := by
  have hnodup := policy.nodup_allRoles order
  obtain ⟨hrule, hruleError⟩ :=
    buildEndorsementPolicy_refuses order hnodup policy
      (show policy.effectiveRoleMap order none = _ from rfl) fun _ h => h
  refine ⟨?_, fun e h => ?_, fun node map hcompiled role hrole => ?_⟩
  · have hok := buildSignaturePolicyEnvelope_ok_iff rt case order order' policy
    rw [hrule hfits.allRoles hexpr hfits.thresholds, identities_ok_iff, ← forall₂_and] at hok
    -- It is refused when it is not returned: when some node is not as the others.
    have hrefused : (∃ e, buildSignaturePolicyEnvelope rt case order order' policy = .error e) ↔
        ¬ ∃ envelope, buildSignaturePolicyEnvelope rt case order order' policy = .ok envelope := by
      cases buildSignaturePolicyEnvelope rt case order order' policy with
      | ok envelope => exact iff_of_false (fun ⟨_, h⟩ => (by cases h)) fun h => h ⟨envelope, rfl⟩
      | error e => exact iff_of_true ⟨e, rfl⟩ fun ⟨_, h⟩ => (by cases h)
    rw [hrefused, hok]
    push Not
    exact exists_congr fun node => and_congr_right fun _ => or_iff_not_imp_left.symm
  · obtain h | ⟨rule, -, h⟩ := bind_eq_error.mp h
    · exact hruleError e h
    obtain h | ⟨principals, -, h⟩ := bind_eq_error.mp h
    · obtain ⟨role, -, h⟩ := exists_of_mapM_eq_error h
      obtain ⟨-, msg, herror⟩ | ⟨-, principal, hok⟩ := rolePrincipal_cases rt case role
      · cases herror.symm.trans h
        exact ⟨msg, rfl⟩
      · cases hok.symm.trans h
    · cases h
  · obtain ⟨rfl, hmem⟩ := hcompiled.eq_enumerate hnodup rfl fun _ h => h
    exact ⟨_, RoleMap.lookup_enumerate hnodup (hmem role hrole)⟩

/-- A policy without roles at the root, one of whose branches has no roles either; the other asks
for a number two levels down and does not say which. -/
def missingBelow : EndorsementPolicy where
  expr := .inl .And
  subPolicies := [
    { expr := .inl .Or, subPolicies := [{ expr := .inl .And }] },
    { expr := .inl .Or
      subPolicies := [{ expr := .inl .OutOf, roles := [⟨"Org1MSP", "member"⟩] }] }]

/-- It is refused. -/
theorem compilation_refused_missingBelow :
    ∃ msg, buildSignaturePolicyEnvelope (wireRuntime id) asciiCase (.listed _) (.listed _)
      missingBelow = .error (.valueError msg) := by
  have hexpr : ∀ node ∈ missingBelow.nodes, ∃ expr, node.expr = .inl expr := by
    simp [missingBelow, EndorsementPolicy.nodes, EndorsementPolicy.nodesEach]
  have hfits : missingBelow.Fits (.listed _) := by
    refine ⟨?_, by decide +kernel⟩
    simp [missingBelow, EndorsementPolicy.nodes, EndorsementPolicy.nodesEach,
      EndorsementPolicy.numberOutOf, FitsInt32]
  obtain ⟨hrefused, herror, -⟩ := compilation_refused_iff (wireRuntime id) asciiCase (.listed _)
    (.listed _) hexpr hfits
  have hmissing : ∃ node ∈ missingBelow.nodes,
      node.MissingOutOf ∨ ∃ role ∈ node.roles, role.Undeclared asciiCase := by
    simp [missingBelow, EndorsementPolicy.nodes, EndorsementPolicy.nodesEach,
      EndorsementPolicy.MissingOutOf]
  obtain ⟨e, h⟩ := hrefused.mpr hmissing
  obtain ⟨msg, rfl⟩ := herror e h
  exact ⟨msg, h⟩

end Snakeskin
