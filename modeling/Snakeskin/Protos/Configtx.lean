import Snakeskin.Protos.Common

/-! # The channel configuration of `configtx.proto`

A channel configuration is a tree of groups, each with its values and its policies. The client
decodes it and hands it on whole. The maps of a group are kept as lists of entries, in the order in
which they travel. -/

namespace Snakeskin

open Wire

/-- `common.Policy`. -/
structure PolicyProto where
  type : Int32 := 0
  value : Bytes := []
  deriving DecidableEq, Repr

instance : MessageCodec PolicyProto where
  toFields m := varintField 1 (encodeInt32 m.type) ++ bytesField 2 m.value
  ofFields fs := some ⟨decodeInt32 (getVarint 1 fs), getBytes 2 fs⟩
  ofFields_toFields m := by simp [getBytes, getVarint]

/-- `common.ConfigValue`. -/
structure ConfigValue where
  version : UInt64 := 0
  value : Bytes := []
  modPolicy : String := ""
  deriving DecidableEq

instance : MessageCodec ConfigValue where
  toFields m :=
    varintField 1 m.version.toNat ++ bytesField 2 m.value ++ bytesField 3 (encodeString m.modPolicy)
  ofFields fs := do
    let modPolicy ← decodeString (getBytes 3 fs)
    return ⟨UInt64.ofNat (getVarint 1 fs), getBytes 2 fs, modPolicy⟩
  ofFields_toFields m := by simp [getBytes, getVarint]

/-- `common.ConfigPolicy`. -/
structure ConfigPolicy where
  version : UInt64 := 0
  policy : Option PolicyProto := none
  modPolicy : String := ""
  deriving DecidableEq

instance : MessageCodec ConfigPolicy where
  toFields m :=
    varintField 1 m.version.toNat ++ messageField 2 (m.policy.map encode) ++
    bytesField 3 (encodeString m.modPolicy)
  ofFields fs := do
    let policy ← decodeOptional PolicyProto (getMessage 2 fs)
    let modPolicy ← decodeString (getBytes 3 fs)
    return ⟨UInt64.ofNat (getVarint 1 fs), policy, modPolicy⟩
  ofFields_toFields m := by simp [getBytes, getVarint, getMessage]

/-! ## Groups -/

/-- `common.ConfigGroup`. -/
structure ConfigGroup where
  version : UInt64 := 0
  groups : List (String × ConfigGroup) := []
  values : List (String × ConfigValue) := []
  policies : List (String × ConfigPolicy) := []
  modPolicy : String := ""

namespace ConfigGroup

mutual

/-- The fields of a group. -/
def toFields : ConfigGroup → List Wire.Field
  | ⟨version, groups, values, policies, modPolicy⟩ =>
      varintField 1 version.toNat ++ repeatedField 2 (groupEntries groups) ++
      repeatedField 3 (keyedEntries values) ++ repeatedField 4 (keyedEntries policies) ++
      bytesField 5 (encodeString modPolicy)

/-- The entries of a map of groups. -/
def groupEntries : List (String × ConfigGroup) → List Bytes
  | [] => []
  | (key, group) :: groups => encodeKeyed key (encodeFields group.toFields) :: groupEntries groups

end

/-- Read a group with at most `fuel` levels. -/
def ofFieldsAux : (fuel : Nat) → List Wire.Field → Option ConfigGroup
  | 0, _ => none
  | fuel + 1, fs => do
      let groups ← (allLen 2 fs).mapM
        (decodeKeyed fun bs => (decodeFields bs).bind (ofFieldsAux fuel))
      let values ← decodeKeyedEntries ConfigValue (allLen 3 fs)
      let policies ← decodeKeyedEntries ConfigPolicy (allLen 4 fs)
      let modPolicy ← decodeString (getBytes 5 fs)
      return ⟨UInt64.ofNat (getVarint 1 fs), groups, values, policies, modPolicy⟩

/-- Read a group; a group is shorter than the one it is in, so the length is fuel enough. -/
def ofFields (fs : List Wire.Field) : Option ConfigGroup := ofFieldsAux ((encodeFields fs).length + 1) fs

/-- What holds of a group whenever it holds of the groups in it holds of every group. -/
theorem induction {P : ConfigGroup → Prop}
    (step : ∀ version groups values policies modPolicy, (∀ entry ∈ groups, P entry.2) →
      P ⟨version, groups, values, policies, modPolicy⟩) : ∀ group, P group
  | ⟨version, groups, values, policies, modPolicy⟩ =>
      step version groups values policies modPolicy fun entry hentry =>
        have : sizeOf entry.2 < sizeOf groups := by
          have hmem := List.sizeOf_lt_of_mem hentry
          have hpair : sizeOf entry = 1 + sizeOf entry.1 + sizeOf entry.2 := rfl
          omega
        induction step entry.2
  termination_by group => sizeOf group

/-- The entries of a map of groups, one by one. -/
theorem groupEntries_eq (groups : List (String × ConfigGroup)) :
    groupEntries groups = groups.map fun entry => encodeKeyed entry.1 (encodeFields entry.2.toFields) := by
  induction groups with
  | nil => rfl
  | cons entry groups ih => rw [groupEntries, ih, List.map_cons]

/-- Entries of groups that are read back are read back. -/
theorem mapM_groupEntries {decodeGroup : Bytes → Option ConfigGroup}
    {groups : List (String × ConfigGroup)}
    (h : ∀ entry ∈ groups, decodeGroup (encodeFields entry.2.toFields) = some entry.2) :
    (groupEntries groups).mapM (decodeKeyed decodeGroup) = some groups := by
  induction groups with
  | nil => rfl
  | cons entry groups ih =>
      rw [groupEntries, List.mapM_cons, ih fun entry' hmem => h entry' (List.mem_cons_of_mem _ hmem),
        decodeKeyed_encodeKeyed (h entry List.mem_cons_self)]
      rfl

/-- A group is shorter than a group that it is in. -/
theorem length_lt_of_mem (group : ConfigGroup) {entry : String × ConfigGroup}
    (h : entry ∈ group.groups) :
    (encodeFields entry.2.toFields).length < (encodeFields group.toFields).length := by
  obtain ⟨version, groups, values, policies, modPolicy⟩ := group
  have hentry : Wire.Field.mk 2 (.len (encodeKeyed entry.1 (encodeFields entry.2.toFields))) ∈
      toFields ⟨version, groups, values, policies, modPolicy⟩ := by
    have hmem : encodeKeyed entry.1 (encodeFields entry.2.toFields) ∈ groupEntries groups := by
      rw [groupEntries_eq]
      exact List.mem_map_of_mem h
    simp [toFields, repeatedField, hmem]
  have hkeyed := length_lt_length_encodeKeyed entry.1 (encodeFields entry.2.toFields)
  have hfield := length_le_length_encodeFields_of_mem hentry
  exact lt_of_lt_of_le hkeyed hfield

/-- With fuel for every level a group is read back, by induction on the group. -/
theorem ofFieldsAux_toFields (group : ConfigGroup) (fuel : Nat)
    (h : (encodeFields group.toFields).length < fuel) :
    ofFieldsAux fuel group.toFields = some group := by
  induction group using ConfigGroup.induction generalizing fuel with
  | step version groups values policies modPolicy ih =>
      obtain ⟨fuel, rfl⟩ : ∃ k, fuel = k + 1 := ⟨fuel - 1, by omega⟩
      have hgroups : (groupEntries groups).mapM
          (decodeKeyed fun bs => (decodeFields bs).bind (ofFieldsAux fuel)) = some groups := by
        refine mapM_groupEntries fun entry hentry => ?_
        have hshorter := length_lt_of_mem ⟨version, groups, values, policies, modPolicy⟩ hentry
        rw [decodeFields_encodeFields, Option.bind_some]
        exact ih entry hentry fuel (by omega)
      simp [toFields, ofFieldsAux, getBytes, getVarint, hgroups]

instance : MessageCodec ConfigGroup where
  toFields := toFields
  ofFields := ofFields
  ofFields_toFields group := ofFieldsAux_toFields group _ (Nat.lt_succ_self _)

end ConfigGroup

/-! ## Configurations -/

/-- `common.Config`. -/
structure Config where
  sequence : UInt64 := 0
  channelGroup : Option ConfigGroup := none

instance : MessageCodec Config where
  toFields m := varintField 1 m.sequence.toNat ++ messageField 2 (m.channelGroup.map encode)
  ofFields fs := do
    let channelGroup ← decodeOptional ConfigGroup (getMessage 2 fs)
    return ⟨UInt64.ofNat (getVarint 1 fs), channelGroup⟩
  ofFields_toFields m := by simp [getVarint, getMessage]

/-- `common.ConfigEnvelope`: a configuration with the update that led to it. -/
structure ConfigEnvelope where
  config : Option Config := none
  lastUpdate : Option Envelope := none

instance : MessageCodec ConfigEnvelope where
  toFields m := messageField 1 (m.config.map encode) ++ messageField 2 (m.lastUpdate.map encode)
  ofFields fs := do
    let config ← decodeOptional Config (getMessage 1 fs)
    let lastUpdate ← decodeOptional Envelope (getMessage 2 fs)
    return ⟨config, lastUpdate⟩
  ofFields_toFields m := by simp [getMessage]

/-- `common.ConfigUpdate`. -/
structure ConfigUpdate where
  channelId : String := ""
  readSet : Option ConfigGroup := none
  writeSet : Option ConfigGroup := none
  isolatedData : BytesMap := ∅

instance : MessageCodec ConfigUpdate where
  toFields m :=
    bytesField 1 (encodeString m.channelId) ++ messageField 2 (m.readSet.map encode) ++
    messageField 3 (m.writeSet.map encode) ++ repeatedField 5 (mapEntries m.isolatedData)
  ofFields fs := do
    let channelId ← decodeString (getBytes 1 fs)
    let readSet ← decodeOptional ConfigGroup (getMessage 2 fs)
    let writeSet ← decodeOptional ConfigGroup (getMessage 3 fs)
    let isolatedData ← decodeMap (allLen 5 fs)
    return ⟨channelId, readSet, writeSet, isolatedData⟩
  ofFields_toFields m := by simp [getBytes, getMessage]

end Snakeskin
