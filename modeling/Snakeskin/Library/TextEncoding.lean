import Snakeskin.Library.WireFormat

/-! # Texts as code points

A text travels as its UTF-8 bytes. An encoding of one byte a character writes the code points
instead, as far as they fit. The two agree on ASCII texts and on no other:

* `IsAscii`, `IsLatin1` — the texts whose code points are below 128, below 256.
* `codePoints` — the code points of a text as bytes.
* `encodeString_eq_codePoints_iff` — both encodings write the same bytes exactly for ASCII. -/

namespace Wire

/-- The code points of the text are below 128. -/
def IsAscii (s : String) : Prop := ∀ c ∈ s.toList, c.toNat < 128

/-- The code points of the text are below 256. -/
def IsLatin1 (s : String) : Prop := ∀ c ∈ s.toList, c.toNat < 256

instance : DecidablePred IsAscii := fun s =>
  inferInstanceAs (Decidable (∀ c ∈ s.toList, c.toNat < 128))

instance : DecidablePred IsLatin1 := fun s =>
  inferInstanceAs (Decidable (∀ c ∈ s.toList, c.toNat < 256))

/-- The code points of a text, one byte each. -/
def codePoints (s : String) : Bytes := s.toList.map fun c => UInt8.ofNat c.toNat

/-- ASCII is a part of Latin-1. -/
theorem IsAscii.isLatin1 {s : String} (h : IsAscii s) : IsLatin1 s :=
  fun c hc => Nat.lt_trans (h c hc) (by decide)

/-- A string travels as the bytes of its characters. -/
theorem encodeString_eq_flatMap (s : String) :
    encodeString s = s.toList.flatMap String.utf8EncodeChar := by
  rw [encodeString, ← String.utf8Encode_toList, List.utf8Encode, List.toList_data_toByteArray]

/-- Bytes are read as a text exactly when they are the bytes of the text. -/
theorem decodeString_eq_some_iff {bs : Bytes} {s : String} :
    decodeString bs = some s ↔ encodeString s = bs := by
  constructor
  · intro h
    rw [decodeString, String.fromUTF8?] at h
    split at h
    · cases h
      simp [encodeString, String.fromUTF8]
    · cases h
  · rintro rfl
    exact decodeString_encodeString s

/-- An ASCII character is written as its code point. -/
theorem utf8EncodeChar_of_lt {c : Char} (h : c.toNat < 128) :
    String.utf8EncodeChar c = [UInt8.ofNat c.toNat] := by
  have hle : c.val.toNat ≤ 127 := by
    have : c.val.toNat < 128 := h
    omega
  rw [String.utf8EncodeChar, if_pos hle]
  rfl

/-- Any other character takes several bytes. -/
theorem one_lt_length_utf8EncodeChar {c : Char} (h : 128 ≤ c.toNat) :
    1 < (String.utf8EncodeChar c).length := by
  have hgt : ¬ c.val.toNat ≤ 127 := by
    have : 128 ≤ c.val.toNat := h
    omega
  rw [String.utf8EncodeChar, if_neg hgt]
  split
  · simp
  · split <;> simp

/-- A list of characters is no longer than its UTF-8 bytes. -/
theorem length_le_length_flatMap_utf8EncodeChar (cs : List Char) :
    cs.length ≤ (cs.flatMap String.utf8EncodeChar).length := by
  induction cs with
  | nil => exact Nat.le_refl 0
  | cons c cs ih =>
      have hpos : 0 < (String.utf8EncodeChar c).length := by
        rw [String.length_utf8EncodeChar]
        exact Char.utf8Size_pos c
      rw [List.flatMap_cons, List.length_append, List.length_cons]
      omega

/-- **UTF-8 writes the code points of a text exactly when the text is ASCII.** -/
theorem encodeString_eq_codePoints_iff {s : String} :
    encodeString s = codePoints s ↔ IsAscii s := by
  rw [encodeString_eq_flatMap, codePoints, IsAscii]
  induction s.toList with
  | nil => simp
  | cons c cs ih =>
      rw [List.flatMap_cons, List.map_cons, List.forall_mem_cons, ← ih]
      by_cases hc : c.toNat < 128
      · simp [utf8EncodeChar_of_lt hc, hc]
      · -- The first character takes several bytes, and the others at least one each.
        have hfirst := one_lt_length_utf8EncodeChar (Nat.le_of_not_lt hc)
        have hrest := length_le_length_flatMap_utf8EncodeChar cs
        refine ⟨fun h => ?_, fun h => absurd h.1 hc⟩
        have hlength := congrArg List.length h
        simp only [List.length_append, List.length_cons, List.length_map] at hlength
        omega

end Wire
