import Snakeskin.Protos.Msp

/-! # Messages of `policies.proto`

The signature policies in which an endorsement policy is sent with a chaincode. -/

namespace Snakeskin

open Wire

/-- `common.SignaturePolicy`, a `oneof`: the signature of an identity, given by its index, or a
number out of some rules. -/
inductive SignaturePolicy where
  | signedBy (identity : Int32)
  | nOutOf (n : Int32) (rules : List SignaturePolicy)

/-- `common.SignaturePolicyEnvelope`. -/
structure SignaturePolicyEnvelope where
  version : Int32 := 0
  rule : SignaturePolicy
  identities : List MSPPrincipal := []

/-- What holds of the leaves, and of a number out of rules that it holds of, holds of every
policy. -/
theorem SignaturePolicy.induction {P : SignaturePolicy → Prop}
    (signedBy : ∀ identity, P (.signedBy identity))
    (nOutOf : ∀ n rules, (∀ rule ∈ rules, P rule) → P (.nOutOf n rules)) :
    ∀ policy, P policy
  | .signedBy identity => signedBy identity
  | .nOutOf n rules => nOutOf n rules fun rule _ => SignaturePolicy.induction signedBy nOutOf rule

/-! ## Codecs -/

namespace SignaturePolicy

mutual

/-- The fields of a policy: a member of a `oneof` is written even where it has its default. -/
def toFields : SignaturePolicy → List Wire.Field
  | .signedBy identity => [⟨1, .varint (encodeInt32 identity)⟩]
  | .nOutOf n rules =>
      [⟨2, .len (encodeFields (varintField 1 (encodeInt32 n) ++ repeatedField 2 (ruleBytes rules)))⟩]

/-- The rules of a policy, each as a message. -/
def ruleBytes : List SignaturePolicy → List Bytes
  | [] => []
  | rule :: rules => encodeFields rule.toFields :: ruleBytes rules

end

/-- Read a policy with at most `fuel` levels: the last member of the `oneof` counts, and a policy
without one is refused. -/
def ofFieldsAux : (fuel : Nat) → List Wire.Field → Option SignaturePolicy
  | 0, _ => none
  | fuel + 1, fs =>
      match (fs.filter fun f => f.number = 1 ∨ f.number = 2).getLast? with
      | some ⟨1, .varint identity⟩ => some (.signedBy (decodeInt32 identity))
      | some ⟨2, .len bs⟩ => do
          let fs ← decodeFields bs
          let rules ← (allLen 2 fs).mapM fun bs => (decodeFields bs).bind (ofFieldsAux fuel)
          return .nOutOf (decodeInt32 (getVarint 1 fs)) rules
      | _ => none

/-- Read a policy; a rule is shorter than the policy it is in, so the length is fuel enough. -/
def ofFields (fs : List Wire.Field) : Option SignaturePolicy :=
  ofFieldsAux ((encodeFields fs).length + 1) fs

/-- The rules, one by one. -/
theorem ruleBytes_eq (rules : List SignaturePolicy) :
    ruleBytes rules = rules.map fun rule => encodeFields rule.toFields := by
  induction rules with
  | nil => rfl
  | cons rule rules ih => rw [ruleBytes, ih, List.map_cons]

/-- Rules that are read back are read back. -/
theorem mapM_ruleBytes {decodeRule : Bytes → Option SignaturePolicy} {rules : List SignaturePolicy}
    (h : ∀ rule ∈ rules, decodeRule (encodeFields rule.toFields) = some rule) :
    (ruleBytes rules).mapM decodeRule = some rules := by
  induction rules with
  | nil => rfl
  | cons rule rules ih =>
      rw [ruleBytes, List.mapM_cons, h rule List.mem_cons_self,
        ih fun rule' hmem => h rule' (List.mem_cons_of_mem _ hmem)]
      rfl

/-- A rule is shorter than a policy that it is in. -/
theorem length_lt_of_mem {rule : SignaturePolicy} {n : Int32} {rules : List SignaturePolicy}
    (h : rule ∈ rules) :
    (encodeFields rule.toFields).length < (encodeFields (toFields (.nOutOf n rules))).length := by
  let fields := varintField 1 (encodeInt32 n) ++ repeatedField 2 (ruleBytes rules)
  have hrule : Wire.Field.mk 2 (.len (encodeFields rule.toFields)) ∈ fields := by
    have hmem : encodeFields rule.toFields ∈ ruleBytes rules := by
      rw [ruleBytes_eq]
      exact List.mem_map_of_mem h
    simp [fields, repeatedField, hmem]
  have hinner := length_le_length_encodeFields_of_mem hrule
  have houter : (encodeFields fields).length < (encodeFields [⟨2, .len (encodeFields fields)⟩]).length := by
    have hsingle : encodeFields [⟨2, .len (encodeFields fields)⟩] =
        Wire.Field.encode ⟨2, .len (encodeFields fields)⟩ := List.append_nil _
    have htag := encodeVarint_length_pos
      (8 * (Wire.Field.mk 2 (.len (encodeFields fields))).number +
        (Wire.Field.mk 2 (.len (encodeFields fields))).value.wireType)
    rw [hsingle, Wire.Field.encode, Value.encode, List.length_append, List.length_append]
    omega
  rw [toFields]
  exact lt_of_le_of_lt hinner houter

/-- With fuel for every level a policy is read back, by induction on the policy. -/
theorem ofFieldsAux_toFields (policy : SignaturePolicy) (fuel : Nat)
    (h : (encodeFields policy.toFields).length < fuel) :
    ofFieldsAux fuel policy.toFields = some policy := by
  induction policy using SignaturePolicy.induction generalizing fuel with
  | signedBy identity =>
      obtain ⟨fuel, rfl⟩ : ∃ k, fuel = k + 1 := ⟨fuel - 1, by omega⟩
      simp [toFields, ofFieldsAux]
  | nOutOf n rules ih =>
      obtain ⟨fuel, rfl⟩ : ∃ k, fuel = k + 1 := ⟨fuel - 1, by omega⟩
      have hrules : (ruleBytes rules).mapM
          (fun bs => (decodeFields bs).bind (ofFieldsAux fuel)) = some rules := by
        refine mapM_ruleBytes fun rule hrule => ?_
        have hshorter : (encodeFields rule.toFields).length < _ := length_lt_of_mem (n := n) hrule
        rw [decodeFields_encodeFields, Option.bind_some]
        exact ih rule hrule fuel (by omega)
      simp [toFields, ofFieldsAux, getVarint, hrules]

instance : MessageCodec SignaturePolicy where
  toFields := toFields
  ofFields := ofFields
  ofFields_toFields policy := ofFieldsAux_toFields policy _ (Nat.lt_succ_self _)

end SignaturePolicy

instance : MessageCodec SignaturePolicyEnvelope where
  toFields m :=
    varintField 1 (encodeInt32 m.version) ++ messageField 2 (some (encode m.rule)) ++
    repeatedField 3 (m.identities.map encode)
  ofFields fs := do
    let rule ← (getMessage 2 fs).bind (decode SignaturePolicy)
    let identities ← decodeAll MSPPrincipal (allLen 3 fs)
    return ⟨decodeInt32 (getVarint 1 fs), rule, identities⟩
  ofFields_toFields m := by
    have hmerged : ∀ bs, merged [bs] = some bs := fun bs => merged_toList (some bs)
    simp [getVarint, getMessage, hmerged]

end Snakeskin
