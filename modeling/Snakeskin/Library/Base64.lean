import Mathlib.Data.List.Basic

/-! # Base64

Three bytes are written as four characters of an alphabet of sixty-four, and what is left of a byte
string is padded. This file gives the encoder, and how it goes together with cutting a text into
lines:

* `encode` — the padded text of a byte string; `encode_append` composes the texts of whole groups.
* `toChunks_encode` — the lines of a text are the texts of the pieces of the byte string, as long as
  a line holds whole groups.
* `flatten_map_encode` — the texts of pieces of whole groups make up the text of them all. -/

namespace Base64

variable {α : Type*}

/-! ## Chunks -/

/-- The loop of `List.toChunks` fills the open chunk first. -/
theorem toChunks_go {m : Nat} (xs : List α) (chunk : Array α) (chunks : Array (List α))
    (h : chunk.size ≤ m + 1) :
    List.toChunks.go (m + 1) xs chunk chunks =
      chunks.toList ++ (chunk.toList ++ xs.take (m + 1 - chunk.size)) ::
        (xs.drop (m + 1 - chunk.size)).toChunks (m + 1) := by
  induction xs generalizing chunk chunks with
  | nil => simp [List.toChunks.go, List.toChunks]
  | cons x xs ih =>
      rw [List.toChunks.go]
      by_cases hfull : chunk.size = m + 1
      · -- The chunk is full, and a new one is opened with the element.
        have hopen : (x :: xs).toChunks (m + 1) = _ := ih #[x] #[] (by simp)
        rw [if_pos (by simpa using hfull), ih _ _ (by simp), hfull, Nat.sub_self, List.take_zero,
          List.drop_zero, hopen]
        simp
      · obtain ⟨k, hk⟩ : ∃ k, m + 1 - chunk.size = k + 1 := ⟨m - chunk.size, by omega⟩
        have hroom : m + 1 - (chunk.push x).size = k := by
          rw [Array.size_push]
          omega
        rw [if_neg (by simpa using hfull), ih _ _ (by rw [Array.size_push]; omega), hroom, hk]
        simp

/-- The first chunk of a list, and the chunks of the rest. -/
theorem toChunks_of_ne_nil {n : Nat} (hn : 0 < n) {xs : List α} (h : xs ≠ []) :
    xs.toChunks n = xs.take n :: (xs.drop n).toChunks n := by
  obtain ⟨m, rfl⟩ : ∃ m, n = m + 1 := ⟨n - 1, by omega⟩
  obtain ⟨x, xs, rfl⟩ := List.exists_cons_of_ne_nil h
  have hgo : (x :: xs).toChunks (m + 1) = _ := toChunks_go xs #[x] #[] (by simp)
  rw [hgo]
  simp

/-- Induction over the chunks of a list: no list, or a first chunk and the rest. -/
theorem chunk_induction {n : Nat} (hn : 0 < n) {P : List α → Prop} (nil : P [])
    (step : ∀ xs ≠ [], P (xs.drop n) → P xs) (xs : List α) : P xs := by
  by_cases hxs : xs = []
  · exact hxs ▸ nil
  · exact step xs hxs (chunk_induction hn nil step (xs.drop n))
termination_by xs.length
decreasing_by
  have hpos := List.length_pos_iff.mpr hxs
  rw [List.length_drop]
  omega

/-- The chunks of a list make up the list. -/
theorem flatten_toChunks {n : Nat} (hn : 0 < n) (xs : List α) : (xs.toChunks n).flatten = xs := by
  induction xs using chunk_induction hn with
  | nil => rfl
  | step xs hxs ih => rw [toChunks_of_ne_nil hn hxs, List.flatten_cons, ih, List.take_append_drop]

/-- No chunk is empty. -/
theorem ne_nil_of_mem_toChunks {n : Nat} (hn : 0 < n) {xs chunk : List α}
    (h : chunk ∈ xs.toChunks n) : chunk ≠ [] := by
  induction xs using chunk_induction hn with
  | nil => cases h
  | step xs hxs ih =>
      rw [toChunks_of_ne_nil hn hxs] at h
      rcases List.mem_cons.mp h with rfl | h
      · simp [hxs, Nat.pos_iff_ne_zero.mp hn]
      · exact ih h

/-- Every chunk but the last has the full length. -/
theorem length_of_mem_dropLast_toChunks {n : Nat} (hn : 0 < n) {xs chunk : List α}
    (h : chunk ∈ (xs.toChunks n).dropLast) : chunk.length = n := by
  induction xs using chunk_induction hn with
  | nil => cases h
  | step xs hxs ih =>
      rw [toChunks_of_ne_nil hn hxs] at h
      by_cases hrest : xs.drop n = []
      · -- The first chunk is the last one too.
        rw [hrest] at h
        cases h
      · rw [List.dropLast_cons_of_ne_nil (by rw [toChunks_of_ne_nil hn hrest]; simp)] at h
        rcases List.mem_cons.mp h with rfl | h
        · have hlen := List.length_pos_iff.mpr hrest
          rw [List.length_drop] at hlen
          rw [List.length_take]
          omega
        · exact ih h

/-- Without its last chunk a list is shorter. -/
theorem flatten_dropLast_toChunks_ne {n : Nat} (hn : 0 < n) {xs : List α} (h : xs ≠ []) :
    (xs.toChunks n).dropLast.flatten ≠ xs := by
  have hchunks : xs.toChunks n ≠ [] := by
    rw [toChunks_of_ne_nil hn h]
    exact List.cons_ne_nil _ _
  have hlast := ne_nil_of_mem_toChunks hn (List.getLast_mem hchunks)
  intro heq
  have hwhole := flatten_toChunks hn xs
  rw [← List.dropLast_append_getLast hchunks, List.flatten_append, heq] at hwhole
  exact hlast (by simpa using hwhole)

/-! ## The encoder -/

/-- The character of a number below sixty-four: upper case, lower case, digits, plus and slash. -/
def char (v : Nat) : UInt8 :=
  if v < 26 then UInt8.ofNat (v + 65)
  else if v < 52 then UInt8.ofNat (v - 26 + 97)
  else if v < 62 then UInt8.ofNat (v - 52 + 48)
  else if v = 62 then 43
  else 47

/-- The base64 text of a byte string, padded with `=` to a whole number of groups. -/
def encode : List UInt8 → List UInt8
  | [] => []
  | [a] => [char (a.toNat / 4), char (a.toNat % 4 * 16), 61, 61]
  | [a, b] =>
      [char (a.toNat / 4), char (a.toNat % 4 * 16 + b.toNat / 16), char (b.toNat % 16 * 4), 61]
  | a :: b :: c :: rest =>
      char (a.toNat / 4) :: char (a.toNat % 4 * 16 + b.toNat / 16) ::
        char (b.toNat % 16 * 4 + c.toNat / 64) :: char (c.toNat % 64) :: encode rest

/-- Four characters for every group, also for the one that is padded. -/
theorem length_encode (bytes : List UInt8) : (encode bytes).length = (bytes.length + 2) / 3 * 4 := by
  fun_induction encode bytes with
  | case1 => rfl
  | case2 a => simp
  | case3 a b => simp
  | case4 a b c rest ih =>
      simp only [List.length_cons, ih]
      omega

/-- A text consists of characters of the alphabet and of padding. -/
theorem mem_encode {x : UInt8} {bytes : List UInt8} (h : x ∈ encode bytes) :
    (∃ v < 64, x = char v) ∨ x = 61 := by
  fun_induction encode bytes with
  | case1 => cases h
  | case2 a =>
      have ha : a.toNat < 256 := a.toNat_lt
      simp only [List.mem_cons, List.not_mem_nil, or_false] at h
      rcases h with h | h | h | h
      · exact .inl ⟨_, by omega, h⟩
      · exact .inl ⟨_, by omega, h⟩
      · exact .inr h
      · exact .inr h
  | case3 a b =>
      have ha : a.toNat < 256 := a.toNat_lt
      have hb : b.toNat < 256 := b.toNat_lt
      simp only [List.mem_cons, List.not_mem_nil, or_false] at h
      rcases h with h | h | h | h
      · exact .inl ⟨_, by omega, h⟩
      · exact .inl ⟨_, by omega, h⟩
      · exact .inl ⟨_, by omega, h⟩
      · exact .inr h
  | case4 a b c rest ih =>
      have ha : a.toNat < 256 := a.toNat_lt
      have hb : b.toNat < 256 := b.toNat_lt
      have hc : c.toNat < 256 := c.toNat_lt
      simp only [List.mem_cons] at h
      rcases h with h | h | h | h | h
      · exact .inl ⟨_, by omega, h⟩
      · exact .inl ⟨_, by omega, h⟩
      · exact .inl ⟨_, by omega, h⟩
      · exact .inl ⟨_, by omega, h⟩
      · exact ih h

/-- Whole groups are written one after the other. -/
theorem encode_append {front : List UInt8} (h : 3 ∣ front.length) (rest : List UInt8) :
    encode (front ++ rest) = encode front ++ encode rest := by
  fun_induction encode front with
  | case1 => rfl
  | case2 a => simp at h
  | case3 a b => simp at h
  | case4 a b c front ih =>
      have hfront : 3 ∣ front.length := by
        simp only [List.length_cons] at h
        omega
      simp only [List.cons_append, encode, ih hfront]

/-- The texts of pieces of whole groups make up the text of them all. -/
theorem flatten_map_encode {pieces : List (List UInt8)} (h : ∀ piece ∈ pieces, 3 ∣ piece.length) :
    (pieces.map encode).flatten = encode pieces.flatten := by
  induction pieces with
  | nil => rfl
  | cons piece pieces ih =>
      rw [List.forall_mem_cons] at h
      rw [List.map_cons, List.flatten_cons, List.flatten_cons, encode_append h.1, ih h.2]

/-- Cut after whole groups, a text is the text of the front and the text of the rest. -/
theorem take_drop_encode (k : Nat) (bytes : List UInt8) :
    (encode bytes).take (4 * k) = encode (bytes.take (3 * k)) ∧
      (encode bytes).drop (4 * k) = encode (bytes.drop (3 * k)) := by
  rcases Nat.lt_or_ge bytes.length (3 * k) with hlen | hlen
  · -- The byte string ends before the cut, and so does its text.
    have htext : (encode bytes).length ≤ 4 * k := by
      rw [length_encode]
      omega
    rw [List.take_of_length_le htext, List.drop_of_length_le htext,
      List.take_of_length_le (Nat.le_of_lt hlen), List.drop_of_length_le (Nat.le_of_lt hlen)]
    exact ⟨rfl, rfl⟩
  · have hfront : (bytes.take (3 * k)).length = 3 * k := List.length_take_of_le hlen
    have htext : (encode (bytes.take (3 * k))).length = 4 * k := by
      rw [length_encode, hfront]
      omega
    have hcut := encode_append (by rw [hfront]; exact Nat.dvd_mul_right 3 k) (bytes.drop (3 * k))
    rw [List.take_append_drop] at hcut
    rw [hcut]
    exact ⟨List.take_left' htext, List.drop_left' htext⟩

/-- **The lines of a text are the texts of the pieces**, when a line holds whole groups. -/
theorem toChunks_encode {k : Nat} (hk : 0 < k) (bytes : List UInt8) :
    (encode bytes).toChunks (4 * k) = (bytes.toChunks (3 * k)).map encode := by
  have hpiece : 0 < 3 * k := by omega
  induction bytes using chunk_induction hpiece with
  | nil => rfl
  | step bytes hbytes ih =>
      have htext : encode bytes ≠ [] := by
        have hpos := List.length_pos_iff.mpr hbytes
        rw [← List.length_pos_iff, length_encode]
        omega
      obtain ⟨hfirst, hrest⟩ := take_drop_encode k bytes
      rw [toChunks_of_ne_nil (by omega) htext, toChunks_of_ne_nil hpiece hbytes, hfirst, hrest, ih,
        List.map_cons]

end Base64
