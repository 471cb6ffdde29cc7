import Snakeskin.Library.WireFormat

/-! # Messages of `identities.proto` and `msp_principal.proto` -/

namespace Snakeskin

open Wire

/-- `msp.SerializedIdentity`. -/
structure SerializedIdentity where
  mspid : String := ""
  idBytes : Bytes := []
  deriving DecidableEq

instance : MessageCodec SerializedIdentity where
  toFields m := bytesField 1 (encodeString m.mspid) ++ bytesField 2 m.idBytes
  ofFields fs := do
    let mspid ← decodeString (getBytes 1 fs)
    return ⟨mspid, getBytes 2 fs⟩
  ofFields_toFields m := by simp [getBytes]

/-- The enumerators declared in `MSPRole.MSPRoleType`. -/
inductive MSPRoleType where
  | member
  | admin
  | client
  | peer
  deriving DecidableEq, Repr

/-- The number of an enumerator. -/
def MSPRoleType.number : MSPRoleType → Int32
  | .member => 0
  | .admin => 1
  | .client => 2
  | .peer => 3

/-- `MSPRoleType.Value(name)`: the enumerator of that name. -/
def MSPRoleType.value? : String → Option MSPRoleType
  | "MEMBER" => some .member
  | "ADMIN" => some .admin
  | "CLIENT" => some .client
  | "PEER" => some .peer
  | _ => none

/-- `common.MSPRole`; enumerations are open, so `role` is any number. -/
structure MSPRole where
  mspIdentifier : String := ""
  role : Int32 := 0
  deriving DecidableEq

instance : MessageCodec MSPRole where
  toFields m := bytesField 1 (encodeString m.mspIdentifier) ++ varintField 2 (encodeInt32 m.role)
  ofFields fs := do
    let mspIdentifier ← decodeString (getBytes 1 fs)
    return ⟨mspIdentifier, decodeInt32 (getVarint 2 fs)⟩
  ofFields_toFields m := by simp [getBytes, getVarint]

/-- `MSPPrincipal.ROLE`. -/
def MSPPrincipal.ROLE : Int32 := 0

/-- `common.MSPPrincipal`. -/
structure MSPPrincipal where
  principalClassification : Int32 := 0
  principal : Bytes := []
  deriving DecidableEq

instance : MessageCodec MSPPrincipal where
  toFields m := varintField 1 (encodeInt32 m.principalClassification) ++ bytesField 2 m.principal
  ofFields fs := some ⟨decodeInt32 (getVarint 1 fs), getBytes 2 fs⟩
  ofFields_toFields m := by simp [getBytes, getVarint]

end Snakeskin
