import Snakeskin.Policies

/-! # What endorsement policies mean

A valuation says which principals have endorsed. An endorsement policy is evaluated as it is
written, and a signature policy envelope as a peer does, by the principals that its identities
encode. Compiling preserves the meaning: `compiled_policy_holds`. -/

namespace Snakeskin

open Wire

/-! ## Meanings -/

/-- Which principals hold: an MSP identifier and a role enumerator make a principal. -/
abbrev Valuation := String → MSPRoleType → Bool

section Direct

variable (case : CaseMapping) (v : Valuation)

/-- A role holds when its principal does. -/
def EndorsementPolicyRole.holds (role : EndorsementPolicyRole) : Bool :=
  match MSPRoleType.value? (case.upper role.role) with
  | some type => v role.msp type
  | none => false

/-- What an expression makes of the truth values of its roles and sub-policies together: all, at
least one, or at least `outOf` of them hold. -/
def combine (expr : PolicyExpression ⊕ String) (outOf : Option Int) (parts : List Bool) : Bool :=
  match expr, outOf with
  | .inl .And, _ => parts.all id
  | .inl .Or, _ => parts.any id
  | .inl .OutOf, some n => n ≤ parts.count true
  | _, _ => false

mutual

/-- An endorsement policy, evaluated directly. -/
def EndorsementPolicy.holds : EndorsementPolicy → Bool
  | ⟨expr, outOf, roles, subPolicies⟩ =>
      combine expr outOf (roles.map (EndorsementPolicyRole.holds case v) ++ holdEach subPolicies)

/-- The truth values of a list of policies. -/
def EndorsementPolicy.holdEach : List EndorsementPolicy → List Bool
  | [] => []
  | policy :: policies => policy.holds :: EndorsementPolicy.holdEach policies

end

/-- They are those of its members. -/
theorem EndorsementPolicy.holdEach_eq (policies : List EndorsementPolicy) :
    holdEach case v policies = policies.map (EndorsementPolicy.holds case v) := by
  induction policies with
  | nil => rfl
  | cons policy policies ih => rw [holdEach, ih, List.map_cons]

end Direct

mutual

/-- A signature policy, given which identities hold: a number out of rules holds when at least that
many of them do. -/
def SignaturePolicy.holds (identities : Int32 → Bool) : SignaturePolicy → Bool
  | .signedBy identity => identities identity
  | .nOutOf n rules => n.toInt ≤ (SignaturePolicy.holdEach identities rules).count true

/-- The truth values of a list of rules. -/
def SignaturePolicy.holdEach (identities : Int32 → Bool) : List SignaturePolicy → List Bool
  | [] => []
  | rule :: rules => rule.holds identities :: SignaturePolicy.holdEach identities rules

end

/-- They are those of its members. -/
theorem SignaturePolicy.holdEach_eq (identities : Int32 → Bool) (rules : List SignaturePolicy) :
    holdEach identities rules = rules.map (SignaturePolicy.holds identities) := by
  induction rules with
  | nil => rfl
  | cons rule rules ih => rw [holdEach, ih, List.map_cons]

/-- The enumerator of a number. -/
def MSPRoleType.ofNumber? (n : Int32) : Option MSPRoleType :=
  [MSPRoleType.member, .admin, .client, .peer].find? fun type => type.number = n

/-- Every enumerator is found under its own number. -/
@[simp] theorem MSPRoleType.ofNumber?_number (type : MSPRoleType) :
    ofNumber? type.number = some type := by
  cases type <;> rfl

variable (rt : Runtime)

/-- A principal of the role classification holds when the role that it encodes does. -/
def MSPPrincipal.holds (v : Valuation) (principal : MSPPrincipal) : Bool :=
  if principal.principalClassification = MSPPrincipal.ROLE then
    match rt.fromString MSPRole principal.principal with
    | some role =>
        match MSPRoleType.ofNumber? role.role with
        | some type => v role.mspIdentifier type
        | none => false
    | none => false
  else false

/-- An identity of an envelope holds when the principal at its index does. -/
def SignaturePolicyEnvelope.identityHolds (v : Valuation) (envelope : SignaturePolicyEnvelope)
    (identity : Int32) : Bool :=
  if 0 ≤ identity.toInt then
    match envelope.identities[identity.toInt.toNat]? with
    | some principal => principal.holds rt v
    | none => false
  else false

/-- An envelope holds when its rule does. -/
def SignaturePolicyEnvelope.holds (v : Valuation) (envelope : SignaturePolicyEnvelope) : Bool :=
  envelope.rule.holds (envelope.identityHolds rt v)

/-! ## The list of all roles -/

/-- What holds of a policy whenever it holds of its sub-policies holds of every policy. -/
theorem EndorsementPolicy.induction {P : EndorsementPolicy → Prop}
    (step : ∀ expr outOf roles subPolicies, (∀ policy ∈ subPolicies, P policy) →
      P ⟨expr, outOf, roles, subPolicies⟩) : ∀ policy, P policy
  | ⟨expr, outOf, roles, subPolicies⟩ =>
      step expr outOf roles subPolicies fun policy _ => EndorsementPolicy.induction step policy

section Roles

variable (order order' : SetOrder EndorsementPolicyRole)

/-- The roles of the union are the given ones and those of the policies, by induction on the
policies. -/
theorem mem_unionAllRoles {role : EndorsementPolicyRole} (policies : List EndorsementPolicy)
    (roles : List EndorsementPolicyRole) :
    role ∈ unionAllRoles order roles policies ↔
      role ∈ roles ∨ ∃ policy ∈ policies, role ∈ policy.allRoles order := by
  induction policies generalizing roles with
  | nil => simp [unionAllRoles]
  | cons policy policies ih =>
      rw [unionAllRoles, ih, List.mem_union_iff, List.mem_dedup, List.exists_mem_cons_iff, or_assoc]

/-- The union has no duplicates. -/
theorem nodup_unionAllRoles (policies : List EndorsementPolicy) {roles : List EndorsementPolicyRole}
    (h : roles.Nodup) : (unionAllRoles order roles policies).Nodup := by
  induction policies generalizing roles with
  | nil => exact h
  | cons policy policies ih => exact ih (List.Nodup.union _ (List.nodup_dedup _))

/-- All the roles of a policy are its own and those of its sub-policies. -/
theorem EndorsementPolicy.mem_allRoles {role : EndorsementPolicyRole} {policy : EndorsementPolicy} :
    role ∈ policy.allRoles order ↔
      role ∈ policy.roles ∨ ∃ sub ∈ policy.subPolicies, role ∈ sub.allRoles order := by
  obtain ⟨expr, outOf, roles, subPolicies⟩ := policy
  rw [allRoles, List.mem_insertionSort, (order.perm _).mem_iff, mem_unionAllRoles, List.mem_dedup]

/-- They are listed without duplicates. -/
theorem EndorsementPolicy.nodup_allRoles (policy : EndorsementPolicy) :
    (policy.allRoles order).Nodup := by
  obtain ⟨expr, outOf, roles, subPolicies⟩ := policy
  rw [allRoles, (List.perm_insertionSort _ _).nodup_iff, (order.perm _).nodup_iff]
  exact nodup_unionAllRoles order subPolicies (List.nodup_dedup _)

/-- Whatever the order of iteration, the same roles are listed, by induction on the policy. -/
theorem EndorsementPolicy.mem_allRoles_congr (role : EndorsementPolicyRole)
    (policy : EndorsementPolicy) : role ∈ policy.allRoles order ↔ role ∈ policy.allRoles order' := by
  induction policy using EndorsementPolicy.induction with
  | step expr outOf roles subPolicies ih =>
      rw [mem_allRoles, mem_allRoles]
      refine or_congr_right (exists_congr fun sub => and_congr_right fun hsub => ih sub hsub)

instance : Std.Total EndorsementPolicyRole.Before := ⟨fun _ _ => le_total _ _⟩

instance : IsTrans EndorsementPolicyRole EndorsementPolicyRole.Before :=
  ⟨fun _ _ _ => le_trans⟩

/-- They are sorted by their keys. -/
theorem EndorsementPolicy.pairwise_allRoles (policy : EndorsementPolicy) :
    (policy.allRoles order).Pairwise EndorsementPolicyRole.Before := by
  obtain ⟨expr, outOf, roles, subPolicies⟩ := policy
  rw [allRoles]
  exact List.pairwise_insertionSort _ _

end Roles

/-! ## Sorting keys

The names of the enumerators have no dot, so the key of a role that has an enumerator can be taken
apart at its last dot. -/

/-- No name of an enumerator has a dot. -/
theorem dot_not_mem_of_value? {name : String} {type : MSPRoleType}
    (h : MSPRoleType.value? name = some type) : '.' ∉ name.toList := by
  unfold MSPRoleType.value? at h
  split at h
  · decide
  · decide
  · decide
  · decide
  · cases h

/-- A role with an enumerator has no dot either: the upper case of a dot is a dot. -/
theorem dot_not_mem_role {case : CaseMapping} {role : EndorsementPolicyRole} {type : MSPRoleType}
    (h : MSPRoleType.value? (case.upper role.role) = some type) : '.' ∉ role.role.toList := by
  intro hmem
  refine dot_not_mem_of_value? h ?_
  rw [CaseMapping.upper, String.toList_ofList, List.mem_flatMap]
  refine ⟨'.', hmem, ?_⟩
  rw [case.upperChar_ascii '.' (by decide)]
  decide

/-- Among roles with enumerators, the key tells which role it is. -/
theorem EndorsementPolicyRole.eq_of_sortKey {case : CaseMapping} {a b : EndorsementPolicyRole}
    {type type' : MSPRoleType} (ha : MSPRoleType.value? (case.upper a.role) = some type)
    (hb : MSPRoleType.value? (case.upper b.role) = some type') (h : a.sortKey = b.sortKey) :
    a = b := by
  have hkeys : a.msp.toList ++ '.' :: a.role.toList = b.msp.toList ++ '.' :: b.role.toList := by
    have hlists := congrArg String.toList h
    simpa [sortKey] using hlists
  obtain ⟨hmsp, hrole⟩ := List.append_cons_inj_of_notMem_right (dot_not_mem_role ha)
    (dot_not_mem_role hb) hkeys
  obtain ⟨msp, role⟩ := a
  obtain ⟨msp', role'⟩ := b
  rw [String.toList_inj] at hmsp hrole
  rw [EndorsementPolicyRole.mk.injEq]
  exact ⟨hmsp, hrole⟩

variable {rt} (case : CaseMapping)

/-- **A policy whose roles have enumerators lists them in one order**, however its sets are iterated
over. -/
theorem EndorsementPolicy.allRoles_congr (order order' : SetOrder EndorsementPolicyRole)
    {policy : EndorsementPolicy}
    (hroles : ∀ role ∈ policy.allRoles order',
      ∃ type, MSPRoleType.value? (case.upper role.role) = some type) :
    policy.allRoles order = policy.allRoles order' := by
  have hperm : (policy.allRoles order).Perm (policy.allRoles order') := by
    rw [List.perm_ext_iff_of_nodup (policy.nodup_allRoles order) (policy.nodup_allRoles order')]
    exact fun role => policy.mem_allRoles_congr order order' role
  -- Two sorted listings of the same roles are equal when equal keys mean equal roles.
  refine hperm.eq_of_pairwise ?_ (policy.pairwise_allRoles order) (policy.pairwise_allRoles order')
  intro a b ha hb hle hge
  obtain ⟨type, htype⟩ := hroles a (hperm.subset ha)
  obtain ⟨type', htype'⟩ := hroles b hb
  exact EndorsementPolicyRole.eq_of_sortKey htype htype' (le_antisymm hle hge)

variable {case}

/-! ## Role maps -/

/-- Entering the roles of a list without duplicates numbers them from the start on, by induction on
the list. -/
theorem lookup_enumerate_from (roles : List EndorsementPolicyRole) (hnodup : roles.Nodup)
    (start : Nat) (map : RoleMap) (role : EndorsementPolicyRole) :
    ((roles.zipIdx start).foldl (fun map item => map.insert item.1 item.2) map).lookup role =
      if role ∈ roles then some (start + roles.idxOf role) else map.lookup role := by
  induction roles generalizing start map with
  | nil => rfl
  | cons first roles ih =>
      rw [List.zipIdx_cons, List.foldl_cons, ih hnodup.of_cons]
      by_cases hfirst : role = first
      · -- The role stands once in the list, so no later entry overwrites this one.
        subst hfirst
        rw [if_neg (List.nodup_cons.mp hnodup).1, if_pos List.mem_cons_self, AList.lookup_insert,
          List.idxOf_cons_self, Nat.add_zero]
      · rw [AList.lookup_insert_ne hfirst, List.idxOf_cons_ne _ (Ne.symm hfirst)]
        by_cases hmem : role ∈ roles
        · rw [if_pos hmem, if_pos (List.mem_cons_of_mem _ hmem)]
          congr 1
          omega
        · rw [if_neg hmem, if_neg (by simp [hfirst, hmem])]

/-- The number of a role is its index. -/
theorem RoleMap.lookup_enumerate {roles : List EndorsementPolicyRole} (hnodup : roles.Nodup)
    {role : EndorsementPolicyRole} (hmem : role ∈ roles) :
    (RoleMap.enumerate roles).lookup role = some (roles.idxOf role) := by
  rw [enumerate, lookup_enumerate_from roles hnodup 0, if_pos hmem, Nat.zero_add]

/-- Only an empty list makes an empty map. -/
theorem RoleMap.eq_nil_of_enumerate {roles : List EndorsementPolicyRole} (hnodup : roles.Nodup)
    (h : (RoleMap.enumerate roles).entries.isEmpty = true) : roles = [] := by
  rcases roles with _ | ⟨role, roles⟩
  · rfl
  · have hlookup := RoleMap.lookup_enumerate hnodup List.mem_cons_self
    rw [AList.lookup, List.isEmpty_iff.mp h] at hlookup
    cases hlookup

/-- **Below the root the role map of the root is used**: also where it is empty, since then no
policy below has roles of its own. -/
theorem effectiveRoleMap_of_subset (order : SetOrder EndorsementPolicyRole)
    {roles : List EndorsementPolicyRole} (hnodup : roles.Nodup) {policy : EndorsementPolicy}
    (hsubset : ∀ role ∈ policy.allRoles order, role ∈ roles) :
    policy.effectiveRoleMap order (some (RoleMap.enumerate roles)) = RoleMap.enumerate roles := by
  unfold EndorsementPolicy.effectiveRoleMap
  dsimp only
  split
  · -- An empty map counts as none, and the policy makes its own, which is empty too.
    rename_i hempty
    have hroles := RoleMap.eq_nil_of_enumerate hnodup hempty
    subst hroles
    have hnone : policy.allRoles order = [] :=
      List.eq_nil_iff_forall_not_mem.mpr fun role hmem => nomatch hsubset role hmem
    rw [EndorsementPolicy.roleMap, hnone]
  · rfl

/-! ## Compilation -/

/-- A number that fits into a field is the number that is read from it. -/
theorem toInt_of_int32Field {n : Int} {field : Int32} (h : int32Field n = .ok field) :
    field.toInt = n := by
  unfold int32Field at h
  split at h
  · rename_i hrange
    cases h
    exact Int32.toInt_ofInt_of_le hrange.1 hrange.2
  · cases h

/-- The sub-policies are built in order. -/
theorem buildSubPolicies_eq_mapM (order : SetOrder EndorsementPolicyRole) (roleMap : RoleMap)
    (policies : List EndorsementPolicy) :
    buildSubPolicies order roleMap policies =
      policies.mapM (buildEndorsementPolicy order (some roleMap)) := by
  induction policies with
  | nil => rfl
  | cons policy policies ih => rw [buildSubPolicies, ih, List.mapM_cons]

/-- What a policy is compiled to: the rules of its roles and of its sub-policies, and how many of
them are asked for. -/
theorem buildEndorsementPolicy_cases {order : SetOrder EndorsementPolicyRole}
    {roleMap : Option RoleMap} {policy : EndorsementPolicy} {rule : SignaturePolicy}
    (h : buildEndorsementPolicy order roleMap policy = .ok rule) :
    ∃ number n signed nested,
      policy.numberOutOf = .ok number ∧ n.toInt = number ∧
      List.Forall₂ (fun role rule =>
        signedByRole (policy.effectiveRoleMap order roleMap) role = .ok rule) policy.roles signed ∧
      List.Forall₂ (fun sub rule => buildEndorsementPolicy order
        (some (policy.effectiveRoleMap order roleMap)) sub = .ok rule) policy.subPolicies nested ∧
      rule = .nOutOf n (signed ++ nested) := by
  obtain ⟨expr, outOf, roles, subPolicies⟩ := policy
  rw [buildEndorsementPolicy] at h
  obtain ⟨number, hnumber, h⟩ := bind_eq_ok.mp h
  obtain ⟨signed, hsigned, h⟩ := bind_eq_ok.mp h
  obtain ⟨nested, hnested, h⟩ := bind_eq_ok.mp h
  obtain ⟨n, hn, h⟩ := bind_eq_ok.mp h
  cases h
  rw [buildSubPolicies_eq_mapM] at hnested
  exact ⟨number, n, signed, nested, hnumber, toInt_of_int32Field hn, forall₂_of_mapM hsigned,
    forall₂_of_mapM hnested, rfl⟩

/-- A list of truth values has as many true ones as members when all are true. -/
theorem length_le_count_true (parts : List Bool) :
    decide ((parts.length : Int) ≤ parts.count true) = parts.all id := by
  have hcount := List.count_le_length (a := true) (l := parts)
  rw [Bool.eq_iff_iff, decide_eq_true_iff, List.all_eq_true, Int.ofNat_le]
  constructor
  · intro hle value hmem
    exact (List.count_eq_length.mp (le_antisymm hcount hle) value hmem).symm
  · intro hall
    exact (List.count_eq_length.mpr fun value hmem => (hall value hmem).symm).ge

/-- It has at least one when some member is true. -/
theorem one_le_count_true (parts : List Bool) :
    decide ((1 : Int) ≤ parts.count true) = parts.any id := by
  rw [Bool.eq_iff_iff, decide_eq_true_iff, List.any_eq_true, ← Nat.cast_one, Int.ofNat_le,
    List.one_le_count_iff]
  exact ⟨fun hmem => ⟨true, hmem, rfl⟩, fun ⟨value, hmem, hvalue⟩ => hvalue ▸ hmem⟩

/-- **The number asked for says what the expression means**, over the truth values of the roles and
the sub-policies. -/
theorem holds_of_numberOutOf {v : Valuation} {policy : EndorsementPolicy} {number : Int}
    (h : policy.numberOutOf = .ok number) :
    decide (number ≤ (policy.roles.map (EndorsementPolicyRole.holds case v) ++
      policy.subPolicies.map (EndorsementPolicy.holds case v)).count true) = policy.holds case v := by
  obtain ⟨expr, outOf, roles, subPolicies⟩ := policy
  rw [EndorsementPolicy.holds, EndorsementPolicy.holdEach_eq]
  dsimp only
  generalize hparts : roles.map (EndorsementPolicyRole.holds case v) ++
    subPolicies.map (EndorsementPolicy.holds case v) = parts
  have hlength : roles.length + subPolicies.length = parts.length := by
    rw [← hparts, List.length_append, List.length_map, List.length_map]
  unfold EndorsementPolicy.numberOutOf at h
  rcases expr with (_ | _ | _) | text
  · -- `And` asks for all, `Or` for one, and `OutOf` for the number it is given.
    cases h
    rw [← Nat.cast_add, hlength]
    exact length_le_count_true parts
  · cases h
    exact one_le_count_true parts
  · rcases outOf with _ | n
    · cases h
    · dsimp only at h
      split at h
      · cases h
      · cases h
        rfl
  · cases h

/-- **Compiling a policy preserves its meaning**, wherever the roles of the root have the indices by
which identities are looked up; by induction on the policy. -/
theorem buildEndorsementPolicy_holds (order : SetOrder EndorsementPolicyRole) {v : Valuation}
    {roles : List EndorsementPolicyRole} (hnodup : roles.Nodup) {identities : Int32 → Bool}
    (hidentities : ∀ role ∈ roles, ∀ index : Int32, index.toInt = roles.idxOf role →
      identities index = role.holds case v)
    (policy : EndorsementPolicy) {roleMap : Option RoleMap}
    (hmap : policy.effectiveRoleMap order roleMap = RoleMap.enumerate roles)
    (hsubset : ∀ role ∈ policy.allRoles order, role ∈ roles) {rule : SignaturePolicy}
    (h : buildEndorsementPolicy order roleMap policy = .ok rule) :
    rule.holds identities = policy.holds case v := by
  induction policy using EndorsementPolicy.induction generalizing roleMap rule with
  | step expr outOf ownRoles subPolicies ih =>
      obtain ⟨number, n, signed, nested, hnumber, hn, hsigned, hnested, rfl⟩ :=
        buildEndorsementPolicy_cases h
      rw [hmap] at hsigned hnested
      -- A role is compiled to its number, under which its principal is looked up.
      have hroles : signed.map (SignaturePolicy.holds identities) =
          ownRoles.map (EndorsementPolicyRole.holds case v) := by
        refine hsigned.map_eq_map fun role hrole rule hrule => ?_
        have hmem : role ∈ roles :=
          hsubset role ((EndorsementPolicy.mem_allRoles order).mpr (.inl hrole))
        unfold signedByRole at hrule
        rw [RoleMap.lookup_enumerate hnodup hmem] at hrule
        obtain ⟨index, hindex, hrule⟩ := bind_eq_ok.mp hrule
        cases hrule
        rw [SignaturePolicy.holds]
        exact hidentities role hmem index (toInt_of_int32Field hindex)
      -- A sub-policy is compiled with the same role map, and its roles are among those of the root.
      have hsubs : nested.map (SignaturePolicy.holds identities) =
          subPolicies.map (EndorsementPolicy.holds case v) := by
        refine hnested.map_eq_map fun sub hsub rule hrule => ?_
        have hbelow : ∀ role ∈ sub.allRoles order, role ∈ roles := fun role hrole =>
          hsubset role ((EndorsementPolicy.mem_allRoles order).mpr (.inr ⟨sub, hsub, hrole⟩))
        exact ih sub hsub (effectiveRoleMap_of_subset order hnodup hbelow) hbelow hrule
      rw [← holds_of_numberOutOf hnumber, SignaturePolicy.holds, SignaturePolicy.holdEach_eq,
        List.map_append, hroles, hsubs, hn]

/-- A role that has a principal has an enumerator. -/
theorem enumerator_of_rolePrincipal {role : EndorsementPolicyRole} {principal : MSPPrincipal}
    (h : rolePrincipal rt case role = .ok principal) :
    ∃ type, MSPRoleType.value? (case.upper role.role) = some type := by
  unfold rolePrincipal at h
  split at h
  · rename_i type htype
    exact ⟨type, htype⟩
  · cases h

/-- The principal of a role holds when the role does. -/
theorem rolePrincipal_holds (hrt : rt.RoundTrip) {v : Valuation} {role : EndorsementPolicyRole}
    {principal : MSPPrincipal} (h : rolePrincipal rt case role = .ok principal) :
    principal.holds rt v = role.holds case v := by
  obtain ⟨type, htype⟩ := enumerator_of_rolePrincipal h
  have hholds : role.holds case v = v role.msp type := by
    rw [EndorsementPolicyRole.holds, htype]
  unfold rolePrincipal at h
  rw [htype] at h
  cases h
  -- The principal carries the role, which is read back as it was written.
  rw [hholds, MSPPrincipal.holds, if_pos rfl, hrt]
  dsimp only
  rw [MSPRoleType.ofNumber?_number]

/-- What an envelope that is returned is made of: the rule and the identities are numbered alike,
whatever the orders in which sets are iterated over, and the roles have enumerators. -/
theorem buildSignaturePolicyEnvelope_cases {order order' : SetOrder EndorsementPolicyRole}
    {policy : EndorsementPolicy} {envelope : SignaturePolicyEnvelope}
    (h : buildSignaturePolicyEnvelope rt case order order' policy = .ok envelope) :
    buildEndorsementPolicy order none policy = .ok envelope.rule ∧
      List.Forall₂ (fun role principal => rolePrincipal rt case role = .ok principal)
        (policy.allRoles order) envelope.identities ∧
      ∀ role ∈ policy.allRoles order,
        ∃ type, MSPRoleType.value? (case.upper role.role) = some type := by
  obtain ⟨rule, hrule, h⟩ := bind_eq_ok.mp h
  obtain ⟨identities, hidentities, h⟩ := bind_eq_ok.mp h
  cases h
  have hprincipals := forall₂_of_mapM hidentities
  have henumerators : ∀ role ∈ policy.allRoles order',
      ∃ type, MSPRoleType.value? (case.upper role.role) = some type := by
    intro role hrole
    obtain ⟨index, hindex⟩ := List.getElem?_of_mem hrole
    obtain ⟨principal, -, hprincipal⟩ := hprincipals.getElem? hindex
    exact enumerator_of_rolePrincipal hprincipal
  rw [EndorsementPolicy.allRoles_congr case order order' henumerators]
  exact ⟨hrule, hprincipals, henumerators⟩

variable (rt case)

/-- **Compiling an endorsement policy preserves its meaning.** Whatever the letter case mapping and
the orders in which sets are iterated over: when an envelope is returned, then for every valuation
of principals the rule of the envelope holds just when the policy does. -/
theorem compiled_policy_holds (hrt : rt.RoundTrip) (order order' : SetOrder EndorsementPolicyRole)
    {policy : EndorsementPolicy} {envelope : SignaturePolicyEnvelope}
    (h : buildSignaturePolicyEnvelope rt case order order' policy = .ok envelope) (v : Valuation) :
    envelope.holds rt v = policy.holds case v := by
  obtain ⟨hrule, hprincipals, -⟩ := buildSignaturePolicyEnvelope_cases h
  refine buildEndorsementPolicy_holds order (policy.nodup_allRoles order) ?_ policy rfl
    (fun _ hrole => hrole) hrule
  intro role hrole index hindex
  obtain ⟨principal, hidentity, hprincipal⟩ :=
    hprincipals.getElem? (List.getElem?_idxOf hrole)
  have hnat : index.toInt.toNat = (policy.allRoles order).idxOf role := by
    rw [hindex]
    exact Int.toNat_natCast _
  unfold SignaturePolicyEnvelope.identityHolds
  rw [if_pos (by omega), hnat, hidentity]
  exact rolePrincipal_holds hrt hprincipal

/-- Any role of one organisation and any role of the other. -/
def bothOrganisations : EndorsementPolicy :=
  let roles (msp : String) : List EndorsementPolicyRole :=
    ["member", "ADMIN", "peer"].map fun role => .postInit asciiCase { msp, role }
  { expr := .inl .And
    subPolicies := [
      { expr := .inl .Or, roles := roles "Org1MSP" }, { expr := .inl .Or, roles := roles "Org2MSP" }] }

/-- The roles of one organisation are not enough. -/
example : bothOrganisations.holds asciiCase (fun msp _ => msp = "Org1MSP") = false := by
  decide +kernel

/-- The policy compiles, with sets that are iterated over in two orders, and keeps its meaning. -/
theorem compiled_policy_holds_bothOrganisations :
    let reversed : SetOrder EndorsementPolicyRole := ⟨List.reverse, List.reverse_perm⟩
    ∃ envelope, buildSignaturePolicyEnvelope (wireRuntime id) asciiCase (.listed _) reversed
        bothOrganisations = .ok envelope ∧
      ∀ v, envelope.holds (wireRuntime id) v = bothOrganisations.holds asciiCase v := by
  intro reversed
  have hcompiles : (buildSignaturePolicyEnvelope (wireRuntime id) asciiCase (.listed _) reversed
      bothOrganisations).toOption.isSome = true := by
    decide +kernel
  rcases h : buildSignaturePolicyEnvelope (wireRuntime id) asciiCase (.listed _) reversed
    bothOrganisations with e | envelope
  · rw [h] at hcompiles
    cases hcompiles
  · exact ⟨envelope, rfl, compiled_policy_holds (wireRuntime id) asciiCase (wireRuntime_roundTrip id)
      (.listed _) reversed h⟩

end Snakeskin
