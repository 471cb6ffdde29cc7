import Snakeskin.PolicyMeaning

/-! # The identities of a policy envelope

The rule of an envelope refers to identities by number, and the numbers and the identities are
computed separately, each from sets that may be iterated over in any order. This file shows that
they agree, and that the identities depend on nothing but the roles that occur in the policy. -/

namespace Snakeskin

open Wire

/-! ## Letter case -/

/-- The same character up to case, which is a matter of ASCII letters only. -/
def SameLetter (c d : Char) : Prop := c.toLower = d.toLower

/-- Two strings that differ in the case of ASCII letters at most. -/
def SameLetters (s t : String) : Prop := List.Forall₂ SameLetter s.toList t.toList

/-- A letter is an ASCII letter, in upper or in lower case. -/
theorem isAlpha_iff {c : Char} : c.isAlpha = true ↔
    65 ≤ c.toNat ∧ c.toNat ≤ 90 ∨ 97 ≤ c.toNat ∧ c.toNat ≤ 122 := by
  show (decide (c.val ≥ 'A'.val ∧ c.val ≤ 'Z'.val) ||
    (decide (c.val ≥ 'a'.val) && decide (c.val ≤ 'z'.val))) = true ↔ _
  rw [Bool.or_eq_true, Bool.and_eq_true, decide_eq_true_iff, decide_eq_true_iff,
    decide_eq_true_iff]
  rfl

/-- The lower case of a letter in upper case is 32 above it, and other characters have none. -/
theorem toNat_toLower (c : Char) : c.toLower.toNat =
    if 65 ≤ c.toNat ∧ c.toNat ≤ 90 then c.toNat + 32 else c.toNat := by
  by_cases hupper : 65 ≤ c.toNat ∧ c.toNat ≤ 90
  · have hlower : c.toLower.val = c.val + 32 :=
      congrArg Char.val (dif_pos (show c.val ≥ 'A'.val ∧ c.val ≤ 'Z'.val from hupper))
    have hsum : (c.val + 32).toNat = c.toNat + 32 := by
      rw [UInt32.toNat_add]
      exact Nat.mod_eq_of_lt (by have := hupper.2; show c.toNat + 32 < _; omega)
    rw [if_pos hupper, ← hsum, ← hlower]
    rfl
  · rw [if_neg hupper]
    exact congrArg Char.toNat (dif_neg (show ¬ (c.val ≥ 'A'.val ∧ c.val ≤ 'Z'.val) from hupper))

/-- A letter is an ASCII character. -/
theorem toNat_lt_of_isAlpha {c : Char} (h : c.isAlpha = true) : c.toNat < 128 := by
  rw [isAlpha_iff] at h
  omega

/-- Other characters have no lower case. -/
theorem toLower_of_not_isAlpha {c : Char} (h : ¬ c.isAlpha = true) : c.toLower = c := by
  rw [isAlpha_iff] at h
  have hlower := toNat_toLower c
  rw [if_neg (by omega)] at hlower
  exact Char.toNat_inj.mp hlower

/-- The lower case of a letter is a letter. -/
theorem isAlpha_toLower (c : Char) : c.toLower.isAlpha = c.isAlpha := by
  rw [Bool.eq_iff_iff, isAlpha_iff, isAlpha_iff, toNat_toLower]
  split <;> omega

/-- Different characters that are the same letter are ASCII letters. -/
theorem SameLetter.eq_or_isAlpha {c d : Char} (h : SameLetter c d) :
    c = d ∨ c.isAlpha = true ∧ d.isAlpha = true := by
  have halpha : c.isAlpha = d.isAlpha := by
    rw [← isAlpha_toLower c, ← isAlpha_toLower d]
    exact congrArg Char.isAlpha h
  by_cases hc : c.isAlpha = true
  · exact .inr ⟨hc, halpha ▸ hc⟩
  · have hd : ¬ d.isAlpha = true := halpha ▸ hc
    rw [SameLetter, toLower_of_not_isAlpha hc, toLower_of_not_isAlpha hd] at h
    exact .inl h

section LetterCase

variable (case : CaseMapping)

/-- The lower case of a character is that of the letter. -/
theorem SameLetter.lowerChar_eq {c d : Char} (h : SameLetter c d) :
    case.lowerChar c = case.lowerChar d := by
  rcases h.eq_or_isAlpha with rfl | ⟨hc, hd⟩
  · rfl
  · rw [case.lowerChar_ascii c (toNat_lt_of_isAlpha hc),
      case.lowerChar_ascii d (toNat_lt_of_isAlpha hd), show c.toLower = d.toLower from h]

/-- Whether a character has a case depends on the letter. -/
theorem SameLetter.cased_eq {c d : Char} (h : SameLetter c d) : case.cased c = case.cased d := by
  rcases h.eq_or_isAlpha with rfl | ⟨hc, hd⟩
  · rfl
  · rw [case.cased_ascii c (toNat_lt_of_isAlpha hc), case.cased_ascii d (toNat_lt_of_isAlpha hd),
      hc, hd]

/-- Whether a character is ignored depends on the letter. -/
theorem SameLetter.caseIgnorable_eq {c d : Char} (h : SameLetter c d) :
    case.caseIgnorable c = case.caseIgnorable d := by
  rcases h.eq_or_isAlpha with rfl | ⟨hc, hd⟩
  · rfl
  · rw [case.caseIgnorable_alpha c hc, case.caseIgnorable_alpha d hd]

/-- A capital sigma is no ASCII letter. -/
theorem SameLetter.eq_sigma_iff {c d : Char} (h : SameLetter c d) : c = 'Σ' ↔ d = 'Σ' := by
  rcases h.eq_or_isAlpha with rfl | ⟨hc, hd⟩
  · rfl
  · exact ⟨fun heq => absurd (heq ▸ hc) (by decide), fun heq => absurd (heq ▸ hd) (by decide)⟩

/-- What comes next has a case in both or in neither, by induction on the characters. -/
theorem nextCased_congr {chars chars' : List Char} (h : List.Forall₂ SameLetter chars chars') :
    case.nextCased chars = case.nextCased chars' := by
  induction h with
  | nil => rfl
  | @cons c d chars chars' hletter _ ih =>
      unfold CaseMapping.nextCased at ih ⊢
      rw [List.dropWhile_cons, List.dropWhile_cons, ← hletter.caseIgnorable_eq case]
      split
      · exact ih
      · exact hletter.cased_eq case

/-- The rests of two strings of the same letters have the same lower case, by induction on them. -/
theorem lowerAfter_congr {before before' rest rest' : List Char}
    (hbefore : List.Forall₂ SameLetter before before') (h : List.Forall₂ SameLetter rest rest') :
    case.lowerAfter before rest = case.lowerAfter before' rest' := by
  induction h generalizing before before' with
  | nil => rfl
  | @cons c d rest rest' hletter hrest ih =>
      have hnext := nextCased_congr case hrest
      have hpreceding := nextCased_congr case hbefore
      unfold CaseMapping.lowerAfter
      rw [hnext, hpreceding, hletter.lowerChar_eq case, ih (.cons hletter hbefore)]
      simp only [hletter.eq_sigma_iff]

/-- **The lower case of a string depends on its letters.** -/
theorem SameLetters.lower_eq {s t : String} (h : SameLetters s t) : case.lower s = case.lower t := by
  rw [CaseMapping.lower, CaseMapping.lower, lowerAfter_congr case .nil h]

end LetterCase

/-! ## Occurrences -/

mutual

/-- The roles that occur in a policy, as often and in the order in which it is compiled. -/
def EndorsementPolicy.occurrences : EndorsementPolicy → List EndorsementPolicyRole
  | ⟨_, _, roles, subPolicies⟩ => roles ++ EndorsementPolicy.occurrencesEach subPolicies

/-- The roles that occur in a list of policies. -/
def EndorsementPolicy.occurrencesEach : List EndorsementPolicy → List EndorsementPolicyRole
  | [] => []
  | policy :: policies => policy.occurrences ++ EndorsementPolicy.occurrencesEach policies

end

/-- They are those of its members. -/
theorem EndorsementPolicy.occurrencesEach_eq (policies : List EndorsementPolicy) :
    occurrencesEach policies = policies.flatMap occurrences := by
  induction policies with
  | nil => rfl
  | cons policy policies ih => rw [occurrencesEach, ih, List.flatMap_cons]

mutual

/-- The numbers of identities in a rule, in order. -/
def SignaturePolicy.signedBys : SignaturePolicy → List Int32
  | .signedBy identity => [identity]
  | .nOutOf _ rules => SignaturePolicy.signedBysEach rules

/-- The numbers of identities in a list of rules. -/
def SignaturePolicy.signedBysEach : List SignaturePolicy → List Int32
  | [] => []
  | rule :: rules => rule.signedBys ++ SignaturePolicy.signedBysEach rules

end

/-- They are those of its members. -/
theorem SignaturePolicy.signedBysEach_eq (rules : List SignaturePolicy) :
    signedBysEach rules = rules.flatMap signedBys := by
  induction rules with
  | nil => rfl
  | cons rule rules ih => rw [signedBysEach, ih, List.flatMap_cons]

/-- The roles that are listed are those that occur, by induction on the policy. -/
theorem EndorsementPolicy.mem_allRoles_iff (order : SetOrder EndorsementPolicyRole)
    (role : EndorsementPolicyRole) (policy : EndorsementPolicy) :
    role ∈ policy.allRoles order ↔ role ∈ policy.occurrences := by
  induction policy using EndorsementPolicy.induction with
  | step expr outOf roles subPolicies ih =>
      rw [mem_allRoles, occurrences, List.mem_append, occurrencesEach_eq, List.mem_flatMap]
      exact or_congr_right (exists_congr fun sub => and_congr_right fun hsub => ih sub hsub)

mutual

/-- A policy with a function applied to its roles. -/
def EndorsementPolicy.mapRoles (f : EndorsementPolicyRole → EndorsementPolicyRole) :
    EndorsementPolicy → EndorsementPolicy
  | ⟨expr, outOf, roles, subPolicies⟩ =>
      ⟨expr, outOf, roles.map f, EndorsementPolicy.mapRolesEach f subPolicies⟩

/-- A list of policies with a function applied to their roles. -/
def EndorsementPolicy.mapRolesEach (f : EndorsementPolicyRole → EndorsementPolicyRole) :
    List EndorsementPolicy → List EndorsementPolicy
  | [] => []
  | policy :: policies => policy.mapRoles f :: EndorsementPolicy.mapRolesEach f policies

end

/-- It is applied to each member. -/
theorem EndorsementPolicy.mapRolesEach_eq (f : EndorsementPolicyRole → EndorsementPolicyRole)
    (policies : List EndorsementPolicy) : mapRolesEach f policies = policies.map (mapRoles f) := by
  induction policies with
  | nil => rfl
  | cons policy policies ih => rw [mapRolesEach, ih, List.map_cons]

/-- The roles that occur in it are the images of those that occurred, by induction on the policy. -/
theorem EndorsementPolicy.occurrences_mapRoles (f : EndorsementPolicyRole → EndorsementPolicyRole)
    (policy : EndorsementPolicy) : (policy.mapRoles f).occurrences = policy.occurrences.map f := by
  induction policy using EndorsementPolicy.induction with
  | step expr outOf roles subPolicies ih =>
      rw [mapRoles, occurrences, occurrences, mapRolesEach_eq, occurrencesEach_eq,
        occurrencesEach_eq, List.map_append, List.flatMap_map, List.map_flatMap]
      congr 1
      exact List.flatMap_congr ih

/-- A policy built with the roles as they are given: Python keeps their names in lower case. -/
def EndorsementPolicy.postInit (case : CaseMapping) (given : EndorsementPolicy) : EndorsementPolicy :=
  given.mapRoles (EndorsementPolicyRole.postInit case)

/-- Each role given in one policy is given in the other, up to the case of ASCII letters. -/
def EndorsementPolicy.CoversUpToCase (given given' : EndorsementPolicy) : Prop :=
  ∀ role ∈ given.occurrences, ∃ role' ∈ given'.occurrences,
    role'.msp = role.msp ∧ SameLetters role'.role role.role

/-- What one policy covers is built into the other. -/
theorem EndorsementPolicy.CoversUpToCase.mem_occurrences {case : CaseMapping}
    {given given' : EndorsementPolicy} (h : given.CoversUpToCase given')
    {role : EndorsementPolicyRole} (hmem : role ∈ (given.postInit case).occurrences) :
    role ∈ (given'.postInit case).occurrences := by
  rw [EndorsementPolicy.postInit, EndorsementPolicy.occurrences_mapRoles, List.mem_map] at hmem ⊢
  obtain ⟨name, hname, rfl⟩ := hmem
  obtain ⟨name', hname', hmsp, hletters⟩ := h name hname
  refine ⟨name', hname', ?_⟩
  rw [EndorsementPolicyRole.postInit, EndorsementPolicyRole.postInit, hmsp,
    hletters.lower_eq case]

/-! ## Indices -/

/-- **Each number in a rule is the index of the role it was built from**, by induction on the
policy. -/
theorem signedBys_of_build (order : SetOrder EndorsementPolicyRole)
    {roles : List EndorsementPolicyRole} (hnodup : roles.Nodup) (policy : EndorsementPolicy)
    {roleMap : Option RoleMap}
    (hmap : policy.effectiveRoleMap order roleMap = RoleMap.enumerate roles)
    (hsubset : ∀ role ∈ policy.allRoles order, role ∈ roles) {rule : SignaturePolicy}
    (h : buildEndorsementPolicy order roleMap policy = .ok rule) :
    List.Forall₂ (fun role (index : Int32) => role ∈ roles ∧ index.toInt = roles.idxOf role)
      policy.occurrences rule.signedBys := by
  induction policy using EndorsementPolicy.induction generalizing roleMap rule with
  | step expr outOf ownRoles subPolicies ih =>
      obtain ⟨number, n, signed, nested, -, -, hsigned, hnested, rfl⟩ := buildEndorsementPolicy_cases h
      rw [hmap] at hsigned hnested
      rw [EndorsementPolicy.occurrences, SignaturePolicy.signedBys,
        EndorsementPolicy.occurrencesEach_eq, SignaturePolicy.signedBysEach_eq, List.flatMap_append]
      refine List.rel_append ?_ (hnested.flatMap fun sub hsub rule hrule => ?_)
      · -- The rule of a role has one number, that of the role.
        rw [← List.flatMap_singleton' ownRoles]
        refine hsigned.flatMap fun role hrole rule hrule => ?_
        have hmem : role ∈ roles :=
          hsubset role ((EndorsementPolicy.mem_allRoles order).mpr (.inl hrole))
        unfold signedByRole at hrule
        rw [RoleMap.lookup_enumerate hnodup hmem] at hrule
        obtain ⟨index, hindex, hrule⟩ := bind_eq_ok.mp hrule
        cases hrule
        exact .cons ⟨hmem, toInt_of_int32Field hindex⟩ .nil
      · have hbelow : ∀ role ∈ sub.allRoles order, role ∈ roles := fun role hrole =>
          hsubset role ((EndorsementPolicy.mem_allRoles order).mpr (.inr ⟨sub, hsub, hrole⟩))
        exact ih sub hsub (effectiveRoleMap_of_subset order hnodup hbelow) hbelow hrule

/-! ## Canonical identities -/

variable (rt : Runtime) (case : CaseMapping)

/-- The identities of an envelope are those of a list of roles, which is made of the roles that
occur in the policy, and the rule refers to them by it. -/
structure CanonicalIdentities (policy : EndorsementPolicy) (envelope : SignaturePolicyEnvelope)
    (roles : List EndorsementPolicyRole) : Prop where
  /-- There is one entry for each role of the list. -/
  entries : List.Forall₂ (fun role principal => rolePrincipal rt case role = .ok principal) roles
    envelope.identities
  /-- No role is listed twice. -/
  nodup : roles.Nodup
  /-- The roles of the list are those that occur. -/
  complete : ∀ role, role ∈ roles ↔ role ∈ policy.occurrences
  /-- They are strictly ordered by their keys. -/
  sorted : roles.Pairwise fun a b => a.sortKey < b.sortKey
  /-- Each number in the rule is that of an entry, which is the entry of the role it was built
  from. -/
  pointsTo : List.Forall₂ (fun role (index : Int32) => 0 ≤ index.toInt ∧
    roles[index.toInt.toNat]? = some role ∧ index.toInt < envelope.identities.length)
    policy.occurrences envelope.rule.signedBys
  /-- Each entry is pointed to. -/
  pointedTo : ∀ i < envelope.identities.length,
    ∃ index ∈ envelope.rule.signedBys, index.toInt = (i : Int)

variable {rt case}

/-- **The identities of an envelope are canonical.** -/
theorem canonical_of_build {order order' : SetOrder EndorsementPolicyRole}
    {policy : EndorsementPolicy} {envelope : SignaturePolicyEnvelope}
    (h : buildSignaturePolicyEnvelope rt case order order' policy = .ok envelope) :
    CanonicalIdentities rt case policy envelope (policy.allRoles order) := by
  obtain ⟨hrule, hentries, henumerators⟩ := buildSignaturePolicyEnvelope_cases h
  have hnodup := policy.nodup_allRoles order
  have hlength := hentries.length_eq
  have hsignedBys := signedBys_of_build order hnodup policy rfl (fun _ hrole => hrole) hrule
  refine ⟨hentries, hnodup, fun role => policy.mem_allRoles_iff order role, ?_, ?_, ?_⟩
  · -- Two roles with the same key would be the same role.
    refine ((policy.pairwise_allRoles order).and hnodup).imp_of_mem fun {a b} ha hb hab => ?_
    obtain ⟨type, htype⟩ := henumerators a ha
    obtain ⟨type', htype'⟩ := henumerators b hb
    exact lt_of_le_of_ne hab.1 fun hkey => hab.2 (EndorsementPolicyRole.eq_of_sortKey htype htype' hkey)
  · refine hsignedBys.imp fun role index hindex => ?_
    obtain ⟨hmem, hindex⟩ := hindex
    rw [hindex, Int.toNat_natCast]
    refine ⟨Int.natCast_nonneg _, List.getElem?_idxOf hmem, ?_⟩
    rw [← hlength]
    exact Int.ofNat_lt.mpr (List.idxOf_lt_length_of_mem hmem)
  · intro i hi
    rw [← hlength] at hi
    have hoccurs := (policy.mem_allRoles_iff order _).mp (List.getElem_mem hi)
    obtain ⟨k, hk⟩ := List.getElem?_of_mem hoccurs
    obtain ⟨index, hindex, -, hidx⟩ := hsignedBys.getElem? hk
    refine ⟨index, List.mem_of_getElem? hindex, ?_⟩
    rw [hidx, hnodup.idxOf_getElem i hi]

/-- The identities of two envelopes are equal when the same roles occur in their policies. -/
theorem identities_congr {order₁ order₁' order₂ order₂' : SetOrder EndorsementPolicyRole}
    {policy₁ policy₂ : EndorsementPolicy} {envelope₁ envelope₂ : SignaturePolicyEnvelope}
    (h₁ : buildSignaturePolicyEnvelope rt case order₁ order₁' policy₁ = .ok envelope₁)
    (h₂ : buildSignaturePolicyEnvelope rt case order₂ order₂' policy₂ = .ok envelope₂)
    (hroles : ∀ role, role ∈ policy₁.occurrences ↔ role ∈ policy₂.occurrences) :
    envelope₁.identities = envelope₂.identities := by
  have hcanonical₁ := canonical_of_build h₁
  have hcanonical₂ := canonical_of_build h₂
  -- Two strictly sorted listings of the same roles are the same listing.
  have hperm : (policy₁.allRoles order₁).Perm (policy₂.allRoles order₂) := by
    rw [List.perm_ext_iff_of_nodup hcanonical₁.nodup hcanonical₂.nodup]
    exact fun role => (hcanonical₁.complete role).trans
      ((hroles role).trans (hcanonical₂.complete role).symm)
  have hlists : policy₁.allRoles order₁ = policy₂.allRoles order₂ :=
    hperm.eq_of_pairwise (fun a b _ _ hab hba => absurd hba (lt_asymm hab)) hcanonical₁.sorted
      hcanonical₂.sorted
  have hentries := hcanonical₁.entries
  rw [hlists] at hentries
  exact List.right_unique_forall₂' (fun _ _ _ h h' => Except.ok.inj (h.symm.trans h')) hentries
    hcanonical₂.entries

variable (rt case)

/-- **Canonical identities.** Whatever the orders in which sets are iterated over: the identities of
an envelope that is returned are those of the roles that occur in the policy, one for each, strictly
ordered by their keys, and the rule points to each of them by its index. They are the same for every
policy in which the same roles occur, and for every policy in which the same roles are given up to
the case of ASCII letters. -/
theorem canonical_identities (order order' : SetOrder EndorsementPolicyRole)
    {policy : EndorsementPolicy} {envelope : SignaturePolicyEnvelope}
    (h : buildSignaturePolicyEnvelope rt case order order' policy = .ok envelope) :
    (∃ roles, CanonicalIdentities rt case policy envelope roles) ∧
    (∀ order₁ order₁' policy₁ envelope₁,
      buildSignaturePolicyEnvelope rt case order₁ order₁' policy₁ = .ok envelope₁ →
      (∀ role, role ∈ policy₁.occurrences ↔ role ∈ policy.occurrences) →
      envelope₁.identities = envelope.identities) ∧
    ∀ order₁ order₁' (given given₁ : EndorsementPolicy) envelope₁, policy = given.postInit case →
      buildSignaturePolicyEnvelope rt case order₁ order₁' (given₁.postInit case) = .ok envelope₁ →
      given.CoversUpToCase given₁ → given₁.CoversUpToCase given →
      envelope₁.identities = envelope.identities := by
  refine ⟨⟨_, canonical_of_build h⟩, fun _ _ _ _ h₁ hroles => identities_congr h₁ h hroles, ?_⟩
  rintro order₁ order₁' given given₁ envelope₁ rfl h₁ hcovers hcovered
  exact identities_congr h₁ h fun role =>
    ⟨hcovered.mem_occurrences, hcovers.mem_occurrences⟩

/-- Two roles. -/
def rolePair : EndorsementPolicy where
  expr := .inl .And
  roles := [{ msp := "A", role := "admin" }, { msp := "B", role := "peer" }]

/-- The same two in another shape and order, and one of them twice. -/
def rolePairNested : EndorsementPolicy where
  expr := .inl .Or
  roles := [{ msp := "B", role := "peer" }]
  subPolicies := [{
    expr := .inl .And, roles := [{ msp := "A", role := "admin" }, { msp := "B", role := "peer" }] }]

/-- The same two as they may be given. -/
def rolePairGiven : EndorsementPolicy where
  expr := .inl .Or
  roles := [{ msp := "B", role := "Peer" }, { msp := "A", role := "ADMIN" },
    { msp := "B", role := "PEER" }]

/-- All of them compile, and have the same canonical identities. -/
theorem canonical_identities_rolePair :
    ∃ envelope envelope₁ envelope₂,
      buildSignaturePolicyEnvelope (wireRuntime id) asciiCase (.listed _) ⟨_, List.reverse_perm⟩
        rolePair = .ok envelope ∧
      buildSignaturePolicyEnvelope (wireRuntime id) asciiCase ⟨_, List.reverse_perm⟩ (.listed _)
        rolePairNested = .ok envelope₁ ∧
      buildSignaturePolicyEnvelope (wireRuntime id) asciiCase (.listed _) (.listed _)
        (rolePairGiven.postInit asciiCase) = .ok envelope₂ ∧
      envelope₁.identities = envelope.identities ∧ envelope₂.identities = envelope.identities := by
  have hcompiles : (buildSignaturePolicyEnvelope (wireRuntime id) asciiCase (.listed _)
      ⟨_, List.reverse_perm⟩ rolePair).toOption.isSome = true := by
    decide +kernel
  have hcompiles₁ : (buildSignaturePolicyEnvelope (wireRuntime id) asciiCase ⟨_, List.reverse_perm⟩
      (.listed _) rolePairNested).toOption.isSome = true := by
    decide +kernel
  have hcompiles₂ : (buildSignaturePolicyEnvelope (wireRuntime id) asciiCase (.listed _) (.listed _)
      (rolePairGiven.postInit asciiCase)).toOption.isSome = true := by
    decide +kernel
  obtain ⟨envelope, h⟩ := exists_ok_of_isSome hcompiles
  obtain ⟨envelope₁, h₁⟩ := exists_ok_of_isSome hcompiles₁
  obtain ⟨envelope₂, h₂⟩ := exists_ok_of_isSome hcompiles₂
  obtain ⟨-, hreshaped, hgiven⟩ := canonical_identities (wireRuntime id) asciiCase (.listed _) _ h
  refine ⟨envelope, envelope₁, envelope₂, h, h₁, h₂, ?_, ?_⟩
  · refine hreshaped _ _ rolePairNested envelope₁ h₁ fun role => ?_
    simp only [rolePair, rolePairNested, EndorsementPolicy.occurrences,
      EndorsementPolicy.occurrencesEach, List.append_nil, List.mem_append, List.mem_cons,
      List.not_mem_nil, or_false]
    grind
  · -- The names of the pair are in lower case as they are given.
    have hlower : asciiCase.lower "admin" = "admin" ∧ asciiCase.lower "peer" = "peer" := by
      decide +kernel
    have hlowered : rolePair = rolePair.postInit asciiCase := by
      simp only [rolePair, EndorsementPolicy.postInit, EndorsementPolicy.mapRoles,
        EndorsementPolicy.mapRolesEach, List.map_cons, List.map_nil, EndorsementPolicyRole.postInit,
        hlower]
    have hcovers : rolePair.CoversUpToCase rolePairGiven := by
      simp [EndorsementPolicy.CoversUpToCase, EndorsementPolicy.occurrences,
        EndorsementPolicy.occurrencesEach, rolePair, rolePairGiven, SameLetters, SameLetter]
    have hcovered : rolePairGiven.CoversUpToCase rolePair := by
      simp [EndorsementPolicy.CoversUpToCase, EndorsementPolicy.occurrences,
        EndorsementPolicy.occurrencesEach, rolePair, rolePairGiven, SameLetters, SameLetter]
    exact hgiven _ _ rolePair rolePairGiven envelope₂ hlowered h₂ hcovers hcovered

/-- The dotless i is no ASCII character. -/
theorem ne_dotless_of_ascii {c : Char} (h : c.toNat < 128) : c ≠ 'ı' := by
  rintro rfl
  exact absurd h (by decide)

/-- The case mapping that also knows the dotless i, whose upper case is that of the dotted one. -/
def dotlessCase : CaseMapping :=
  { asciiCase with
    upperChar := fun c => if c = 'ı' then ['I'] else [c.toUpper]
    cased := fun c => c.isAlpha || c = 'ı'
    upperChar_ascii := fun _ hc => if_neg (ne_dotless_of_ascii hc)
    cased_ascii := fun c hc => by rw [decide_eq_false (ne_dotless_of_ascii hc), Bool.or_false] }

/-- Two spellings of the administrators, with and without the dot. -/
def dotlessAdmins : EndorsementPolicy where
  expr := .inl .Or
  roles := [{ msp := "A", role := "admın" }, { msp := "A", role := "admin" }]

/-- The same with their names in upper case. -/
def upperCasedAdmins : EndorsementPolicy :=
  dotlessAdmins.mapRoles fun role => { role with role := dotlessCase.upper role.role }

/-- Both compile, but what were two identities is one when the names are given in upper case. -/
theorem identities_upperCasedAdmins :
    ∃ envelope envelope₁,
      buildSignaturePolicyEnvelope (wireRuntime id) dotlessCase (.listed _) (.listed _)
        (dotlessAdmins.postInit dotlessCase) = .ok envelope ∧
      buildSignaturePolicyEnvelope (wireRuntime id) dotlessCase (.listed _) (.listed _)
        (upperCasedAdmins.postInit dotlessCase) = .ok envelope₁ ∧
      envelope.identities.length = 2 ∧ envelope₁.identities.length = 1 := by
  have htwo : (buildSignaturePolicyEnvelope (wireRuntime id) dotlessCase (.listed _) (.listed _)
      (dotlessAdmins.postInit dotlessCase)).toOption.map (·.identities.length) = some 2 := by
    decide +kernel
  have hone : (buildSignaturePolicyEnvelope (wireRuntime id) dotlessCase (.listed _) (.listed _)
      (upperCasedAdmins.postInit dotlessCase)).toOption.map (·.identities.length) = some 1 := by
    decide +kernel
  obtain ⟨envelope, h, htwo⟩ := exists_ok_of_map_eq_some htwo
  obtain ⟨envelope₁, h₁, hone⟩ := exists_ok_of_map_eq_some hone
  exact ⟨envelope, envelope₁, h, h₁, htwo, hone⟩

end Snakeskin
