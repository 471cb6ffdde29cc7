import Mathlib.Data.List.AList
import Mathlib.Data.List.Dedup
import Mathlib.Data.List.Sort
import Mathlib.Data.String.Basic
import Snakeskin.Protos.Policies
import Snakeskin.Runtime

/-! # Endorsement policies

The endorsement policies of `models/__init__.py`, and the functions of `factories.py` that compile
them to signature policies. What Python leaves open is a parameter: the letter case of characters
outside ASCII, and the order in which a set is iterated over. -/

namespace Snakeskin

open Wire

/-! ## Strings and sets -/

/-- The case mappings of characters, which are known for ASCII, with the two properties that the
lower case of a capital sigma depends on. -/
structure CaseMapping where
  lowerChar : Char → List Char
  upperChar : Char → List Char
  cased : Char → Bool
  caseIgnorable : Char → Bool
  lowerChar_ascii : ∀ c : Char, c.toNat < 128 → lowerChar c = [c.toLower]
  upperChar_ascii : ∀ c : Char, c.toNat < 128 → upperChar c = [c.toUpper]
  cased_ascii : ∀ c : Char, c.toNat < 128 → cased c = c.isAlpha
  caseIgnorable_alpha : ∀ c : Char, c.isAlpha → caseIgnorable c = false

section LetterCase

variable (case : CaseMapping)

/-- `s.upper()`. -/
def CaseMapping.upper (s : String) : String :=
  String.ofList (s.toList.flatMap case.upperChar)

/-- Whether the first character that is not ignored has a case. -/
def CaseMapping.nextCased (chars : List Char) : Bool :=
  (chars.dropWhile case.caseIgnorable).head?.any case.cased

/-- The lower case of the rest of a string after some characters, which are listed backwards. -/
def CaseMapping.lowerAfter : List Char → List Char → List Char
  | _, [] => []
  | before, c :: rest =>
      -- A capital sigma at the end of a word has a lower case of its own.
      let lowered :=
        if c = 'Σ' then [if case.nextCased before && !case.nextCased rest then 'ς' else 'σ']
        else case.lowerChar c
      lowered ++ CaseMapping.lowerAfter (c :: before) rest

/-- `s.lower()`. -/
def CaseMapping.lower (s : String) : String :=
  String.ofList (case.lowerAfter [] s.toList)

end LetterCase

/-- The case mapping that leaves other characters alone. -/
def asciiCase : CaseMapping where
  lowerChar c := [c.toLower]
  upperChar c := [c.toUpper]
  cased c := c.isAlpha
  caseIgnorable _ := false
  lowerChar_ascii _ _ := rfl
  upperChar_ascii _ _ := rfl
  cased_ascii _ _ := rfl
  caseIgnorable_alpha _ _ := rfl

/-- The order of iteration over a set, which is given as a list of its elements. -/
structure SetOrder (α : Type) where
  iterate : List α → List α
  perm : ∀ s, (iterate s).Perm s

/-- Iteration in the order of the list. -/
def SetOrder.listed (α : Type) : SetOrder α := ⟨id, fun _ => .rfl⟩

/-! ## The models -/

/-- Endorsement policy expressions. -/
inductive PolicyExpression where
  | And
  | Or
  | OutOf
  deriving DecidableEq, Repr

/-- A role specified for an endorsement policy. -/
structure EndorsementPolicyRole where
  msp : String
  role : String
  deriving DecidableEq, Repr

/-- `__post_init__`: a role is kept in lower case. -/
def EndorsementPolicyRole.postInit (case : CaseMapping) (role : EndorsementPolicyRole) :
    EndorsementPolicyRole :=
  { role with role := case.lower role.role }

/-- A structured object to represent a Hyperledger Fabric endorsement policy. Nothing checks the
expression until the policy is compiled: it may be something else, given here by its text. -/
structure EndorsementPolicy where
  expr : PolicyExpression ⊕ String
  outOf : Option Int := none
  roles : List EndorsementPolicyRole := []
  subPolicies : List EndorsementPolicy := []

/-- The key by which roles are sorted. -/
def EndorsementPolicyRole.sortKey (role : EndorsementPolicyRole) : String :=
  role.msp ++ "." ++ role.role

/-- The order in which roles are sorted. -/
abbrev EndorsementPolicyRole.Before (a b : EndorsementPolicyRole) : Prop := a.sortKey ≤ b.sortKey

section Roles

variable (order : SetOrder EndorsementPolicyRole)

mutual

/-- A recursive list of all roles defined in this endorsement policy, sorted by their keys. -/
def EndorsementPolicy.allRoles : EndorsementPolicy → List EndorsementPolicyRole
  | ⟨_, _, roles, subPolicies⟩ =>
      (order.iterate (unionAllRoles roles.dedup subPolicies)).insertionSort
        EndorsementPolicyRole.Before

/-- The loop of `all_roles`: a set of roles with those of the sub-policies. -/
def unionAllRoles (roles : List EndorsementPolicyRole) :
    List EndorsementPolicy → List EndorsementPolicyRole
  | [] => roles
  | policy :: policies => unionAllRoles (roles ∪ policy.allRoles.dedup) policies

end

/-- A dictionary from roles to numbers. -/
abbrev RoleMap := AList fun _ : EndorsementPolicyRole => Nat

/-- `{role: idx for idx, role in enumerate(roles)}`. -/
def RoleMap.enumerate (roles : List EndorsementPolicyRole) : RoleMap :=
  roles.zipIdx.foldl (fun map item => map.insert item.1 item.2) ∅

/-- A map of role and an int id for all roles in the endorsement policy. -/
def EndorsementPolicy.roleMap (policy : EndorsementPolicy) : RoleMap :=
  RoleMap.enumerate (policy.allRoles order)

/-! ## Compilation -/

/-- Setting an `int32` field of a message: a number out of range is refused. -/
def int32Field (n : Int) : Except Exc Int32 :=
  if -2 ^ 31 ≤ n ∧ n < 2 ^ 31 then .ok (Int32.ofInt n)
  else .error (.valueError "Value out of range")

/-- `n_out_of`: how many of the roles and the sub-policies an expression asks for. -/
def EndorsementPolicy.numberOutOf (policy : EndorsementPolicy) : Except Exc Int :=
  match policy.expr with
  | .inl .And => .ok (policy.roles.length + policy.subPolicies.length)
  | .inl .Or => .ok 1
  | .inl .OutOf =>
      match policy.outOf with
      | none => .error (.valueError "Must supply out_of")
      -- `if not policy.out_of`: zero counts as missing.
      | some n => if n = 0 then .error (.valueError "Must supply out_of") else .ok n
  | .inr text => .error (.valueError ("Unrecognized PolicyExpression " ++ text))

/-- `role_map or policy.role_map`: an empty dictionary counts as none. -/
def EndorsementPolicy.effectiveRoleMap (policy : EndorsementPolicy) (roleMap : Option RoleMap) :
    RoleMap :=
  match roleMap with
  | some map => if map.entries.isEmpty then policy.roleMap order else map
  | none => policy.roleMap order

/-- The rule of a role: the signature of the identity with its number. -/
def signedByRole (roleMap : RoleMap) (role : EndorsementPolicyRole) : Except Exc SignaturePolicy :=
  match roleMap.lookup role with
  | some index => do return .signedBy (← int32Field index)
  | none =>
      .error (.keyError
        ("EndorsementPolicyRole(msp='" ++ role.msp ++ "', role='" ++ role.role ++ "')"))

mutual

/-- Recursively builds out a `SignaturePolicy` from an `EndorsementPolicy` definition. -/
def buildEndorsementPolicy (roleMap : Option RoleMap) :
    EndorsementPolicy → Except Exc SignaturePolicy
  | ⟨expr, outOf, roles, subPolicies⟩ => do
      -- Below the root `roleMap` is that of the root, so that all rules number the same identities.
      let rmap := EndorsementPolicy.effectiveRoleMap order ⟨expr, outOf, roles, subPolicies⟩ roleMap
      let nOutOf ← EndorsementPolicy.numberOutOf ⟨expr, outOf, roles, subPolicies⟩
      let signed ← roles.mapM (signedByRole rmap)
      let nested ← buildSubPolicies rmap subPolicies
      return .nOutOf (← int32Field nOutOf) (signed ++ nested)

/-- The loop over the sub-policies, which are built with the role map of the policy. -/
def buildSubPolicies (roleMap : RoleMap) :
    List EndorsementPolicy → Except Exc (List SignaturePolicy)
  | [] => return []
  | policy :: policies => do
      let rule ← buildEndorsementPolicy (some roleMap) policy
      let rules ← buildSubPolicies roleMap policies
      return rule :: rules

end

end Roles

variable (rt : Runtime) (case : CaseMapping)

/-- The principal of a role; a role without an enumerator of its name is refused. -/
def rolePrincipal (role : EndorsementPolicyRole) : Except Exc MSPPrincipal :=
  match MSPRoleType.value? (case.upper role.role) with
  | some type =>
      .ok {
        principalClassification := MSPPrincipal.ROLE
        principal := rt.serializeToString
          ({ role := type.number, mspIdentifier := role.msp } : MSPRole) }
  | none => .error (.valueError "Enum MSPRoleType has no value defined for name")

/-- Builds a `SignaturePolicyEnvelope` from an `EndorsementPolicy`. The roles are listed once for
the rule and once for the identities, and the sets may be iterated over in different orders. -/
def buildSignaturePolicyEnvelope (order order' : SetOrder EndorsementPolicyRole)
    (policy : EndorsementPolicy) : Except Exc SignaturePolicyEnvelope := do
  -- The rule is compiled first, so an expression that is refused is reported before a role.
  let rule ← buildEndorsementPolicy order none policy
  let identities ← (policy.allRoles order').mapM (rolePrincipal rt case)
  return { version := 0, rule, identities }

end Snakeskin
