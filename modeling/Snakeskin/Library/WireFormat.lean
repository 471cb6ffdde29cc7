import Mathlib.Data.Finmap
import Mathlib.Data.Finset.Sort
import Mathlib.Data.String.Basic
import Mathlib.Tactic.Ring

/-! # The tag–length–value wire format

A message on the wire is a sequence of *fields*: a field number together with either a varint or a
length-delimited run of bytes. This file gives the encoder and the decoder of such sequences and the
round trip between them, and on top of them the typed readers and writers from which the codec of a
message type is assembled:

* `encodeVarint`/`decodeVarint` — little-endian base-128 numbers,
  `decodeVarint_encodeVarint_append`.
* `encodeFields`/`decodeFields` — field sequences, `decodeFields_encodeFields`.
* `allLen`/`allVarint` — every value a sequence carries under one field number; they distribute over
  `++`, which is what makes the round trip of a message a computation over its list of fields.
* `MessageCodec` — a type with its field sequence and its reader, carrying the round trip as a
  field.
* `mapEntries`/`decodeMap` — map fields, a repeated field of key–value messages.

Numbers and lengths are unbounded here: the limits an implementation puts on them (ten bytes for a
varint, 2 GiB for a message) only shrink the set of inputs it accepts. -/

namespace Wire

/-- A byte string. -/
abbrev Bytes := List UInt8

/-! ## Varints -/

/-- Emit at most `groups` groups of seven bits of `n`, lowest first, with the continuation bit on
every group but the last. -/
def encodeGroups : (groups : Nat) → (n : Nat) → Bytes
  | 0, _ => []
  | groups + 1, n =>
      if n < 128 then [UInt8.ofNat n]
      else UInt8.ofNat (n % 128 + 128) :: encodeGroups groups (n / 128)

/-- The varint of `n`. -/
def encodeVarint (n : Nat) : Bytes := encodeGroups (n.log2 / 7 + 1) n

/-- Read one varint off the front of a byte string. -/
def decodeVarint : Bytes → Option (Nat × Bytes)
  | [] => none
  | b :: rest =>
      -- The highest bit says whether another group follows.
      if b.toNat < 128 then some (b.toNat, rest)
      else (decodeVarint rest).map fun p => (b.toNat - 128 + 128 * p.1, p.2)

/-- Enough groups decode to the number they were cut from. -/
theorem decodeVarint_encodeGroups_append (groups n : Nat) (rest : Bytes)
    (hn : n < 128 ^ (groups + 1)) :
    decodeVarint (encodeGroups (groups + 1) n ++ rest) = some (n, rest) := by
  induction groups generalizing n with
  | zero =>
      have hlt : n < 128 := by simpa using hn
      rw [encodeGroups, if_pos hlt, List.singleton_append, decodeVarint]
      have hb : (UInt8.ofNat n).toNat = n := by
        rw [UInt8.toNat_ofNat']; omega
      rw [hb, if_pos hlt]
  | succ groups ih =>
      rw [encodeGroups]
      by_cases hlt : n < 128
      · rw [if_pos hlt, List.singleton_append, decodeVarint]
        have hb : (UInt8.ofNat n).toNat = n := by
          rw [UInt8.toNat_ofNat']; omega
        rw [hb, if_pos hlt]
      · -- A group with the continuation bit: its seven bits come first, the others by induction.
        have hdiv : n / 128 < 128 ^ (groups + 1) := by
          rw [Nat.div_lt_iff_lt_mul (by norm_num), ← Nat.pow_succ]
          exact hn
        have hb : (UInt8.ofNat (n % 128 + 128)).toNat = n % 128 + 128 := by
          rw [UInt8.toNat_ofNat']; omega
        rw [if_neg hlt, List.cons_append, decodeVarint, hb, if_neg (by omega), ih _ hdiv]
        simp only [Option.map_some, Option.some.injEq, Prod.mk.injEq, and_true]
        omega

/-- **Varints round trip**, whatever follows them. -/
theorem decodeVarint_encodeVarint_append (n : Nat) (rest : Bytes) :
    decodeVarint (encodeVarint n ++ rest) = some (n, rest) := by
  -- As many groups as `n` has digits to the base 128, so nothing is cut off.
  refine decodeVarint_encodeGroups_append _ n rest ?_
  calc n < 2 ^ (n.log2 + 1) := Nat.lt_log2_self
    _ ≤ 2 ^ (7 * (n.log2 / 7 + 1)) := Nat.pow_le_pow_right (by norm_num) (by omega)
    _ = 128 ^ (n.log2 / 7 + 1) := Nat.pow_mul 2 7 _

/-- A varint takes at least one byte. -/
theorem encodeVarint_length_pos (n : Nat) : 0 < (encodeVarint n).length := by
  rw [encodeVarint, encodeGroups]
  split <;> simp

/-! ## Fields -/

/-- The payload of a field: a varint or a length-delimited byte string. -/
inductive Value where
  | varint (n : Nat)
  | len (b : Bytes)
  deriving DecidableEq, Repr

/-- A numbered field of a message. -/
structure Field where
  number : Nat
  value : Value
  deriving DecidableEq, Repr

/-- The wire type that the tag of a value announces. -/
def Value.wireType : Value → Nat
  | .varint _ => 0
  | .len _ => 2

/-- The bytes of a value, without its tag. -/
def Value.encode : Value → Bytes
  | .varint n => encodeVarint n
  | .len b => encodeVarint b.length ++ b

/-- A field is its tag followed by its value. -/
def Field.encode (f : Field) : Bytes :=
  encodeVarint (8 * f.number + f.value.wireType) ++ f.value.encode

/-- The bytes of a field sequence. -/
def encodeFields (fs : List Field) : Bytes := fs.flatMap Field.encode

/-- Read a value of the wire type a tag announced. -/
def decodeValue (wireType : Nat) (bs : Bytes) : Option (Value × Bytes) :=
  match wireType with
  | 0 => (decodeVarint bs).map fun p => (.varint p.1, p.2)
  | 2 => (decodeVarint bs).bind fun p =>
      if p.2.length < p.1 then none else some (.len (p.2.take p.1), p.2.drop p.1)
  -- The fixed-width types and the groups are not read.
  | _ => none

/-- Read one field off the front of a byte string. -/
def decodeField (bs : Bytes) : Option (Field × Bytes) :=
  (decodeVarint bs).bind fun tag =>
    (decodeValue (tag.1 % 8) tag.2).map fun p => (⟨tag.1 / 8, p.1⟩, p.2)

/-- Read at most `fuel` fields, and fail when bytes are left over. -/
def decodeFieldsAux : (fuel : Nat) → Bytes → Option (List Field)
  | _, [] => some []
  | 0, _ :: _ => none
  | fuel + 1, b :: bs =>
      (decodeField (b :: bs)).bind fun p => (decodeFieldsAux fuel p.2).map (p.1 :: ·)

/-- Read a whole byte string as a field sequence; every field takes at least one byte, so its length
is fuel enough. -/
def decodeFields (bs : Bytes) : Option (List Field) := decodeFieldsAux bs.length bs

/-- A value is read back under its own wire type, whatever follows it. -/
theorem decodeValue_encode_append (v : Value) (rest : Bytes) :
    decodeValue v.wireType (v.encode ++ rest) = some (v, rest) := by
  cases v with
  | varint n =>
      simp only [Value.wireType, Value.encode, decodeValue, decodeVarint_encodeVarint_append,
        Option.map_some]
  | len b =>
      simp [Value.wireType, Value.encode, decodeValue, decodeVarint_encodeVarint_append]

/-- A field is read back, whatever follows it. -/
theorem decodeField_encode_append (f : Field) (rest : Bytes) :
    decodeField (f.encode ++ rest) = some (f, rest) := by
  have hwire : f.value.wireType < 8 := by cases f.value <;> simp [Value.wireType]
  have hmod : (8 * f.number + f.value.wireType) % 8 = f.value.wireType := by omega
  have hdiv : (8 * f.number + f.value.wireType) / 8 = f.number := by omega
  simp only [decodeField, Field.encode, List.append_assoc, decodeVarint_encodeVarint_append,
    Option.bind_some, hmod, hdiv, decodeValue_encode_append, Option.map_some]

/-- A field takes at least one byte. -/
theorem Field.encode_length_pos (f : Field) : 0 < f.encode.length := by
  have := encodeVarint_length_pos (8 * f.number + f.value.wireType)
  rw [Field.encode, List.length_append]
  omega

/-- With fuel for every field, the whole sequence is read back. -/
theorem decodeFieldsAux_encodeFields (fs : List Field) (fuel : Nat) (h : fs.length ≤ fuel) :
    decodeFieldsAux fuel (encodeFields fs) = some fs := by
  induction fs generalizing fuel with
  | nil => cases fuel <;> rfl
  | cons f fs ih =>
      obtain ⟨fuel, rfl⟩ : ∃ k, fuel = k + 1 := ⟨fuel - 1, by simp at h; omega⟩
      -- A field has a tag at least, so the decoder finds a byte and reads a field.
      obtain ⟨b, bs, hcons⟩ : ∃ b bs, encodeFields (f :: fs) = b :: bs := by
        have hpos := f.encode_length_pos
        cases hf : f.encode with
        | nil => simp [hf] at hpos
        | cons b bs => exact ⟨b, bs ++ encodeFields fs, by simp [encodeFields, hf]⟩
      rw [hcons, decodeFieldsAux, ← hcons, encodeFields, List.flatMap_cons,
        decodeField_encode_append, Option.bind_some]
      have hrest := ih fuel (by simpa using h)
      rw [encodeFields] at hrest
      rw [hrest, Option.map_some]

/-- A sequence has no more fields than bytes. -/
theorem length_le_length_encodeFields (fs : List Field) : fs.length ≤ (encodeFields fs).length := by
  induction fs with
  | nil => simp
  | cons f fs ih =>
      have hpos := f.encode_length_pos
      simp only [encodeFields, List.flatMap_cons, List.length_append, List.length_cons] at ih ⊢
      omega

/-- A length-delimited value is no longer than a sequence that it is in. -/
theorem length_le_length_encodeFields_of_mem {n : Nat} {b : Bytes} {fs : List Field}
    (h : Field.mk n (.len b) ∈ fs) : b.length ≤ (encodeFields fs).length := by
  obtain ⟨before, after, rfl⟩ := List.append_of_mem h
  simp only [encodeFields, List.flatMap_append, List.flatMap_cons, Field.encode, Value.encode,
    List.length_append]
  omega

/-- **Field sequences round trip.** -/
@[simp] theorem decodeFields_encodeFields (fs : List Field) :
    decodeFields (encodeFields fs) = some fs :=
  decodeFieldsAux_encodeFields fs _ (length_le_length_encodeFields fs)

/-- Encoding distributes over concatenation of sequences. -/
theorem encodeFields_append (fs gs : List Field) :
    encodeFields (fs ++ gs) = encodeFields fs ++ encodeFields gs := by
  simp [encodeFields]

/-! ## Reading a field number -/

/-- The length-delimited values under field number `n`, in order. -/
def allLen (n : Nat) (fs : List Field) : List Bytes :=
  fs.filterMap fun f => match f.value with
    | .len b => if f.number = n then some b else none
    | .varint _ => none

/-- The varints under field number `n`, in order. -/
def allVarint (n : Nat) (fs : List Field) : List Nat :=
  fs.filterMap fun f => match f.value with
    | .varint v => if f.number = n then some v else none
    | .len _ => none

@[simp] theorem allLen_nil (n : Nat) : allLen n [] = [] := rfl

@[simp] theorem allVarint_nil (n : Nat) : allVarint n [] = [] := rfl

@[simp] theorem allLen_append (n : Nat) (fs gs : List Field) :
    allLen n (fs ++ gs) = allLen n fs ++ allLen n gs := by
  simp [allLen]

@[simp] theorem allVarint_append (n : Nat) (fs gs : List Field) :
    allVarint n (fs ++ gs) = allVarint n fs ++ allVarint n gs := by
  simp [allVarint]

/-! ## Writers and readers of one field -/

/-- A scalar field of bytes: left out when empty. -/
def bytesField (n : Nat) (b : Bytes) : List Field := if b = [] then [] else [⟨n, .len b⟩]

/-- A scalar numeric field: left out when zero. -/
def varintField (n v : Nat) : List Field := if v = 0 then [] else [⟨n, .varint v⟩]

/-- A repeated field: one occurrence for each element. -/
def repeatedField (n : Nat) (bs : List Bytes) : List Field := bs.map fun b => ⟨n, .len b⟩

/-- A singular sub-message: present, even when empty, exactly when set. -/
def messageField (n : Nat) (m : Option Bytes) : List Field := repeatedField n m.toList

/-- The last of several occurrences of a scalar field wins; a missing one reads as the default. -/
def lastOr {α : Type*} (d : α) (occurrences : List α) : α := occurrences.getLastD d

/-- Occurrences of a sub-message are merged, and merging is concatenating their encodings. -/
def merged (occurrences : List Bytes) : Option Bytes :=
  if occurrences = [] then none else some occurrences.flatten

/-- Read a scalar field of bytes. -/
def getBytes (n : Nat) (fs : List Field) : Bytes := lastOr [] (allLen n fs)

/-- Read a scalar numeric field. -/
def getVarint (n : Nat) (fs : List Field) : Nat := lastOr 0 (allVarint n fs)

/-- Read a singular sub-message. -/
def getMessage (n : Nat) (fs : List Field) : Option Bytes := merged (allLen n fs)

@[simp] theorem allLen_bytesField_self (n : Nat) (b : Bytes) :
    allLen n (bytesField n b) = if b = [] then [] else [b] := by
  unfold bytesField
  split <;> simp [allLen]

@[simp] theorem allLen_bytesField_of_ne {n k : Nat} (h : k ≠ n) (b : Bytes) :
    allLen n (bytesField k b) = [] := by
  unfold bytesField
  split <;> simp [allLen, h]

@[simp] theorem allLen_varintField (n k v : Nat) : allLen n (varintField k v) = [] := by
  unfold varintField
  split <;> simp [allLen]

@[simp] theorem allLen_repeatedField_self (n : Nat) (bs : List Bytes) :
    allLen n (repeatedField n bs) = bs := by
  simp [allLen, repeatedField, List.filterMap_map]

@[simp] theorem allLen_repeatedField_of_ne {n k : Nat} (h : k ≠ n) (bs : List Bytes) :
    allLen n (repeatedField k bs) = [] := by
  simp [allLen, repeatedField, h]

@[simp] theorem allLen_messageField_self (n : Nat) (m : Option Bytes) :
    allLen n (messageField n m) = m.toList :=
  allLen_repeatedField_self n m.toList

@[simp] theorem allLen_messageField_of_ne {n k : Nat} (h : k ≠ n) (m : Option Bytes) :
    allLen n (messageField k m) = [] :=
  allLen_repeatedField_of_ne h m.toList

@[simp] theorem allVarint_bytesField (n k : Nat) (b : Bytes) : allVarint n (bytesField k b) = [] := by
  unfold bytesField
  split <;> simp [allVarint]

@[simp] theorem allVarint_varintField_self (n v : Nat) :
    allVarint n (varintField n v) = if v = 0 then [] else [v] := by
  unfold varintField
  split <;> simp [allVarint]

@[simp] theorem allVarint_varintField_of_ne {n k : Nat} (h : k ≠ n) (v : Nat) :
    allVarint n (varintField k v) = [] := by
  unfold varintField
  split <;> simp [allVarint, h]

@[simp] theorem allVarint_repeatedField (n k : Nat) (bs : List Bytes) :
    allVarint n (repeatedField k bs) = [] := by
  simp [allVarint, repeatedField]

@[simp] theorem allVarint_messageField (n k : Nat) (m : Option Bytes) :
    allVarint n (messageField k m) = [] :=
  allVarint_repeatedField n k m.toList

/-- A scalar left out because it is the default reads as the default. -/
@[simp] theorem lastOr_ite_singleton {α : Type*} [DecidableEq α] (a d : α) :
    lastOr d (if a = d then [] else [a]) = a := by
  unfold lastOr
  split <;> simp_all

/-- A sub-message that was written once, or not at all, is read back. -/
@[simp] theorem merged_toList (m : Option Bytes) : merged m.toList = m := by
  cases m <;> simp [merged]

/-! ## Message codecs -/

/-- A message type: the field sequence of a value, its reader, and the round trip. -/
class MessageCodec (α : Type) where
  /-- The fields of a message, in the order of their numbers. -/
  toFields : α → List Field
  /-- Read a message from a field sequence; unknown fields are skipped. -/
  ofFields : List Field → Option α
  /-- A message is read back from its own fields. -/
  ofFields_toFields : ∀ m, ofFields (toFields m) = some m

/-- The bytes of a message. -/
def encode {α : Type} [MessageCodec α] (m : α) : Bytes := encodeFields (MessageCodec.toFields m)

/-- Parse a message. -/
def decode (α : Type) [MessageCodec α] (bs : Bytes) : Option α :=
  (decodeFields bs).bind MessageCodec.ofFields

/-- **Messages round trip.** -/
@[simp] theorem decode_encode {α : Type} [MessageCodec α] (m : α) :
    decode α (encode m) = some m := by
  rw [decode, encode, decodeFields_encodeFields, Option.bind_some, MessageCodec.ofFields_toFields]

/-- Parse a list of sub-messages, failing when one of them does. -/
def decodeAll (α : Type) [MessageCodec α] (bs : List Bytes) : Option (List α) :=
  bs.mapM (decode α)

@[simp] theorem decodeAll_map_encode {α : Type} [MessageCodec α] (ms : List α) :
    decodeAll α (ms.map encode) = some ms := by
  induction ms with
  | nil => rfl
  | cons m ms ih =>
      rw [decodeAll] at ih ⊢
      simp [ih]

/-- Parse a sub-message that may be absent. -/
def decodeOptional (α : Type) [MessageCodec α] : Option Bytes → Option (Option α)
  | none => some none
  | some bs => (decode α bs).map some

@[simp] theorem decodeOptional_map_encode {α : Type} [MessageCodec α] (m : Option α) :
    decodeOptional α (m.map encode) = some m := by
  cases m <;> simp [decodeOptional]

/-! ## Scalar types -/

/-- A string travels as its UTF-8 bytes. -/
def encodeString (s : String) : Bytes := s.toByteArray.data.toList

/-- Read a string; bytes that are not UTF-8 are refused. -/
def decodeString (bs : Bytes) : Option String := String.fromUTF8? ⟨bs.toArray⟩

/-- A signed 32-bit number travels sign-extended to 64 bits. -/
def encodeInt32 (i : Int32) : Nat := (i.toInt % 2 ^ 64).toNat

/-- Read a signed 32-bit number: the low 32 bits count. -/
def decodeInt32 (n : Nat) : Int32 := Int32.ofInt n

/-- A signed 64-bit number travels in two's complement. -/
def encodeInt64 (i : Int64) : Nat := (i.toInt % 2 ^ 64).toNat

/-- Read a signed 64-bit number. -/
def decodeInt64 (n : Nat) : Int64 := Int64.ofInt n

@[simp] theorem decodeString_encodeString (s : String) : decodeString (encodeString s) = some s := by
  have hvalid : (⟨s.toByteArray.data.toList.toArray⟩ : ByteArray).IsValidUTF8 := s.isValidUTF8
  rw [decodeString, encodeString, String.fromUTF8?, dif_pos hvalid]
  rfl

@[simp] theorem decodeInt32_encodeInt32 (i : Int32) : decodeInt32 (encodeInt32 i) = i := by
  have hlow : -2 ^ 31 ≤ i.toInt := i.le_toInt
  have hhigh : i.toInt < 2 ^ 31 := i.toInt_lt
  apply Int32.toInt_inj.mp
  rw [decodeInt32, encodeInt32, Int32.toInt_ofInt, Int.bmod, Int32.size]
  omega

@[simp] theorem decodeInt64_encodeInt64 (i : Int64) : decodeInt64 (encodeInt64 i) = i := by
  have hlow : -2 ^ 63 ≤ i.toInt := i.le_toInt
  have hhigh : i.toInt < 2 ^ 63 := i.toInt_lt
  apply Int64.toInt_inj.mp
  rw [decodeInt64, encodeInt64, Int64.toInt_ofInt, Int.bmod, Int64.size]
  omega

/-! ## Maps -/

/-- The value of a `map<string, bytes>` field. -/
abbrev BytesMap := Finmap fun _ : String => Bytes

/-- A map entry is a message of its key and its value, which are both written also when they are
empty. -/
def encodeEntry (key : String) (value : Bytes) : Bytes :=
  encodeFields (messageField 1 (some (encodeString key)) ++ messageField 2 (some value))

/-- Read a map entry. -/
def decodeEntry (bs : Bytes) : Option (String × Bytes) := do
  let fs ← decodeFields bs
  let key ← decodeString (getBytes 1 fs)
  return (key, getBytes 2 fs)

@[simp] theorem decodeEntry_encodeEntry (key : String) (value : Bytes) :
    decodeEntry (encodeEntry key value) = some (key, value) := by
  simp [decodeEntry, encodeEntry, getBytes, lastOr]

/-- The entries of a map, in the order of their keys. -/
def mapEntries (m : BytesMap) : List Bytes :=
  m.keys.sort.map fun key => encodeEntry key ((m.lookup key).getD [])

/-- Read a map from its entries; a later entry for a key replaces an earlier one. -/
def decodeMap (entries : List Bytes) : Option BytesMap :=
  (entries.mapM decodeEntry).map fun es => es.foldl (fun m e => m.insert e.1 e.2) ∅

/-- Inserting values of `f` at keys that `m` may have or not: a key of the list gets its value. -/
theorem lookup_foldl_insert (f : String → Bytes) (keys : List String) (m : BytesMap) (k : String) :
    ((keys.map fun key => (key, f key)).foldl (fun m e => m.insert e.1 e.2) m).lookup k =
      if k ∈ keys then some (f k) else m.lookup k := by
  induction keys generalizing m with
  | nil => simp
  | cons key keys ih =>
      rw [List.map_cons, List.foldl_cons, ih]
      by_cases hk : k ∈ keys
      · -- The value of a key does not depend on where it stands, so a later entry is the same.
        simp [hk]
      · rcases eq_or_ne k key with rfl | hne
        · simp [hk]
        · simp [hk, hne]

/-- **Maps round trip.** -/
@[simp] theorem decodeMap_mapEntries (m : BytesMap) : decodeMap (mapEntries m) = some m := by
  have hentries : (mapEntries m).mapM decodeEntry =
      some (m.keys.sort.map fun key => (key, (m.lookup key).getD [])) := by
    rw [mapEntries]
    induction m.keys.sort with
    | nil => rfl
    | cons key keys ih => simp [ih]
  rw [decodeMap, hentries, Option.map_some]
  congr 1
  -- Both maps have the same value at every key: that of `m` where there is one.
  refine Finmap.ext_lookup fun k => ?_
  rw [lookup_foldl_insert]
  by_cases hk : k ∈ m
  · obtain ⟨v, hv⟩ := Finmap.mem_iff.mp hk
    simp [Finmap.mem_keys, hk, hv]
  · simp [Finmap.mem_keys, hk, Finmap.lookup_eq_none.mpr hk]

/-! ## Maps whose values are messages

Such a map is kept as the list of its entries, in the order in which they travel. -/

/-- A map entry is a message of its key and of a message, which is always written. -/
def encodeKeyed (key : String) (value : Bytes) : Bytes :=
  encodeFields (bytesField 1 (encodeString key) ++ messageField 2 (some value))

/-- Read a map entry whose value is a message; a missing value is the default message. -/
def decodeKeyed {α : Type} (decodeMessage : Bytes → Option α) (bs : Bytes) : Option (String × α) := do
  let fs ← decodeFields bs
  let key ← decodeString (getBytes 1 fs)
  let value ← decodeMessage ((getMessage 2 fs).getD [])
  return (key, value)

/-- An entry is read back when its value is. -/
theorem decodeKeyed_encodeKeyed {α : Type} {decodeMessage : Bytes → Option α} {bs : Bytes} {a : α}
    (h : decodeMessage bs = some a) (key : String) :
    decodeKeyed decodeMessage (encodeKeyed key bs) = some (key, a) := by
  have hvalue : merged [bs] = some bs := merged_toList (some bs)
  simp [decodeKeyed, encodeKeyed, getBytes, getMessage, hvalue, h]

/-- An entry is longer than its value. -/
theorem length_lt_length_encodeKeyed (key : String) (value : Bytes) :
    value.length < (encodeKeyed key value).length := by
  have hfield : value.length < (Field.encode ⟨2, .len value⟩).length := by
    have htag := encodeVarint_length_pos
      (8 * (Field.mk 2 (.len value)).number + (Field.mk 2 (.len value)).value.wireType)
    rw [Field.encode, Value.encode, List.length_append, List.length_append]
    omega
  rw [encodeKeyed, encodeFields_append, List.length_append]
  have hvalue : encodeFields (messageField 2 (some value)) = Field.encode ⟨2, .len value⟩ := by
    simp [encodeFields, messageField, repeatedField]
  rw [hvalue]
  omega

/-- The entries of a map from strings to messages. -/
def keyedEntries {α : Type} [MessageCodec α] (entries : List (String × α)) : List Bytes :=
  entries.map fun entry => encodeKeyed entry.1 (encode entry.2)

/-- Read the entries of a map from strings to messages. -/
def decodeKeyedEntries (α : Type) [MessageCodec α] (entries : List Bytes) :
    Option (List (String × α)) :=
  entries.mapM (decodeKeyed (decode α))

@[simp] theorem decodeKeyedEntries_keyedEntries {α : Type} [MessageCodec α]
    (entries : List (String × α)) : decodeKeyedEntries α (keyedEntries entries) = some entries := by
  unfold decodeKeyedEntries keyedEntries
  induction entries with
  | nil => rfl
  | cons entry entries ih =>
      rw [List.map_cons, List.mapM_cons, ih, decodeKeyed_encodeKeyed (decode_encode entry.2)]
      rfl

end Wire
