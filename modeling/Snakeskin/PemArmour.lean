import Snakeskin.BuiltMessages
import Snakeskin.Library.Base64

/-! # PEM armour

A certificate is given as a PEM text, and its hash goes into the channel header. `pemToDer` finds
the content of the text by counting lines, one from the front and two from the back. This file
undoes the armouring: the decoder undoes base64, splitting undoes joining lines, and the count is
right for the texts that end with a newline and for no others. -/

namespace Snakeskin

open Wire

/-! ## Base64 -/

/-- A character of the alphabet is no padding, no newline, and has the value it was written for. -/
theorem base64Value_char {v : Nat} (h : v < 64) :
    base64Value (Base64.char v) = some v ∧ Base64.char v ≠ 61 ∧ Base64.char v ≠ 10 := by
  have hall : ∀ v < 64, base64Value (Base64.char v) = some v ∧ Base64.char v ≠ 61 ∧
      Base64.char v ≠ 10 := by decide
  exact hall v h

/-- What the decoder does with a character of the alphabet, for each position in a group. -/
theorem a2bBase64_char {v : Nat} (h : v < 64) (left pads : Nat) (rest : Bytes) :
    a2bBase64 0 left pads (Base64.char v :: rest) = a2bBase64 1 v 0 rest ∧
    a2bBase64 1 left pads (Base64.char v :: rest) =
      (a2bBase64 2 (v % 16) 0 rest).map (UInt8.ofNat (left * 4 + v / 16) :: ·) ∧
    a2bBase64 2 left pads (Base64.char v :: rest) =
      (a2bBase64 3 (v % 4) 0 rest).map (UInt8.ofNat (left * 16 + v / 4) :: ·) ∧
    a2bBase64 3 left pads (Base64.char v :: rest) =
      (a2bBase64 0 0 0 rest).map (UInt8.ofNat (left * 64 + v) :: ·) := by
  obtain ⟨hvalue, hpad, -⟩ := base64Value_char h
  simp only [a2bBase64, if_neg hpad, hvalue, and_self]

/-- A byte put together from its bits. -/
theorem ofNat_eq_of_toNat {n : Nat} {b : UInt8} (h : n = b.toNat) : UInt8.ofNat n = b := by
  rw [h, UInt8.ofNat_toNat]

/-- The first byte of a group, from its first two characters. -/
theorem a2bBase64_first {a : UInt8} {low : Nat} (h : low < 16) (left pads : Nat) (rest : Bytes) :
    a2bBase64 0 left pads
        (Base64.char (a.toNat / 4) :: Base64.char (a.toNat % 4 * 16 + low) :: rest) =
      (a2bBase64 2 low 0 rest).map (a :: ·) := by
  have ha : a.toNat < 256 := a.toNat_lt
  have hbyte : UInt8.ofNat (a.toNat / 4 * 4 + (a.toNat % 4 * 16 + low) / 16) = a :=
    ofNat_eq_of_toNat (by omega)
  have hleft : (a.toNat % 4 * 16 + low) % 16 = low := by omega
  rw [(a2bBase64_char (by omega) left pads _).1, (a2bBase64_char (by omega) _ 0 rest).2.1, hbyte,
    hleft]

/-- The second byte of a group, from its third character. -/
theorem a2bBase64_second {b : UInt8} {low : Nat} (h : low < 4) (pads : Nat) (rest : Bytes) :
    a2bBase64 2 (b.toNat / 16) pads (Base64.char (b.toNat % 16 * 4 + low) :: rest) =
      (a2bBase64 3 low 0 rest).map (b :: ·) := by
  have hb : b.toNat < 256 := b.toNat_lt
  have hbyte : UInt8.ofNat (b.toNat / 16 * 16 + (b.toNat % 16 * 4 + low) / 4) = b :=
    ofNat_eq_of_toNat (by omega)
  have hleft : (b.toNat % 16 * 4 + low) % 4 = low := by omega
  rw [(a2bBase64_char (by omega) _ pads rest).2.2.1, hbyte, hleft]

/-- The third byte of a group, from its last character. -/
theorem a2bBase64_third (c : UInt8) (pads : Nat) (rest : Bytes) :
    a2bBase64 3 (c.toNat / 64) pads (Base64.char (c.toNat % 64) :: rest) =
      (a2bBase64 0 0 0 rest).map (c :: ·) := by
  have hbyte : UInt8.ofNat (c.toNat / 64 * 64 + c.toNat % 64) = c := ofNat_eq_of_toNat (by omega)
  rw [(a2bBase64_char (by omega) _ pads rest).2.2.2, hbyte]

/-- **Decoding undoes base64**, for every length and padding. -/
theorem b64decode_encode (bytes : Bytes) : b64decode (Base64.encode bytes) = .ok bytes := by
  rw [b64decode]
  fun_induction Base64.encode bytes with
  | case1 => rfl
  | case2 a =>
      -- One byte is left over: the padding comes at the third character.
      have hfirst := a2bBase64_first (a := a) (show 0 < 16 by decide) 0 0 [61, 61]
      rw [Nat.add_zero] at hfirst
      rw [hfirst]
      rfl
  | case3 a b =>
      have hb : b.toNat < 256 := b.toNat_lt
      -- Two bytes are left over: the padding is the fourth character.
      have hsecond := a2bBase64_second (b := b) (show 0 < 4 by decide) 0 [61]
      rw [Nat.add_zero] at hsecond
      rw [a2bBase64_first (by omega), hsecond]
      rfl
  | case4 a b c rest ih =>
      have hb : b.toNat < 256 := b.toNat_lt
      have hc : c.toNat < 256 := c.toNat_lt
      rw [a2bBase64_first (by omega), a2bBase64_second (by omega), a2bBase64_third, ih]
      rfl

/-! ## Lines -/

/-- A line without a newline is the first of the lines when a newline follows it. -/
theorem splitLines_append {line : Bytes} (h : 10 ∉ line) (rest : Bytes) :
    splitLines (line ++ 10 :: rest) = line :: splitLines rest := by
  induction line with
  | nil => rw [List.nil_append, splitLines, if_pos rfl]
  | cons b line ih =>
      obtain ⟨hb, hline⟩ : b ≠ 10 ∧ 10 ∉ line := by
        simpa [eq_comm] using h
      rw [List.cons_append, splitLines, if_neg hb, ih hline]

/-- Data without a newline is one line. -/
theorem splitLines_of_not_mem {line : Bytes} (h : 10 ∉ line) : splitLines line = [line] := by
  induction line with
  | nil => rfl
  | cons b line ih =>
      obtain ⟨hb, hline⟩ : b ≠ 10 ∧ 10 ∉ line := by
        simpa [eq_comm] using h
      rw [splitLines, if_neg hb, ih hline]

/-- **Splitting undoes ending lines**: the lines come back, and what follows the last newline. -/
theorem splitLines_ended {lines : List Bytes} (hlines : ∀ line ∈ lines, 10 ∉ line) {last : Bytes}
    (hlast : 10 ∉ last) :
    splitLines (lines.flatMap (· ++ [10]) ++ last) = lines ++ [last] := by
  induction lines with
  | nil => exact splitLines_of_not_mem hlast
  | cons line lines ih =>
      rw [List.forall_mem_cons] at hlines
      rw [List.flatMap_cons, List.append_assoc, List.append_assoc, List.singleton_append,
        splitLines_append hlines.1, ih hlines.2, List.cons_append]

/-- The content is what stands between the first line and the last two. -/
theorem pemToDer_of_splitLines {pem first : Bytes} {content : List Bytes} {x y : Bytes}
    (h : splitLines pem = first :: content ++ [x, y]) :
    pemToDer pem = b64decode content.flatten := by
  have htake : (first :: content ++ [x, y]).take ((first :: content ++ [x, y]).length - 2) =
      first :: content := by
    apply List.take_left'
    simp
  unfold pemToDer
  dsimp only
  rw [h, htake, List.drop_one, List.tail_cons]

/-! ## Armoured certificates -/

/-- A certificate in PEM armour: a BEGIN line, the certificate in base64, and an END line. The END
line may or may not be ended by a newline, as all the other lines are. -/
structure ArmouredCertificate where
  beginLine : Bytes
  der : Bytes
  endLine : Bytes
  finalNewline : Bool
  /-- There is a certificate. -/
  der_ne_nil : der ≠ []
  /-- The BEGIN line is one line. -/
  not_mem_beginLine : 10 ∉ beginLine
  /-- The END line is one line. -/
  not_mem_endLine : 10 ∉ endLine

namespace ArmouredCertificate

variable (pem : ArmouredCertificate)

/-- The lines of the content, of 64 characters each but for the last. -/
def contentLines : List Bytes := (Base64.encode pem.der).toChunks 64

/-- The PEM text. -/
def text : Bytes :=
  (pem.beginLine :: pem.contentLines).flatMap (· ++ [10]) ++
    (pem.endLine ++ if pem.finalNewline then [10] else [])

/-- The part of the certificate that is left when only the lines before the last are read. -/
def kept : Bytes := if pem.finalNewline then pem.der else (pem.der.toChunks 48).dropLast.flatten

/-- No content line has a newline in it. -/
theorem not_mem_contentLines {line : Bytes} (h : line ∈ pem.contentLines) : 10 ∉ line := by
  intro hnewline
  have hmem : 10 ∈ Base64.encode pem.der := by
    rw [← Base64.flatten_toChunks (show 0 < 64 by decide) (Base64.encode pem.der)]
    exact List.mem_flatten.mpr ⟨line, h, hnewline⟩
  rcases Base64.mem_encode hmem with ⟨v, hv, hchar⟩ | hpad
  · exact (base64Value_char hv).2.2 hchar.symm
  · cases hpad

/-- The lines that splitting the text gives: another, empty one after a final newline. -/
theorem splitLines_text :
    splitLines pem.text =
      pem.beginLine :: pem.contentLines ++
        (if pem.finalNewline then [pem.endLine, []] else [pem.endLine]) := by
  have hcontent : ∀ line ∈ pem.beginLine :: pem.contentLines, 10 ∉ line :=
    List.forall_mem_cons.mpr ⟨pem.not_mem_beginLine, fun _ => pem.not_mem_contentLines⟩
  unfold text
  cases pem.finalNewline with
  | false =>
      have hsplit := splitLines_ended hcontent pem.not_mem_endLine
      simpa using hsplit
  | true =>
      have hlines : ∀ line ∈ pem.beginLine :: pem.contentLines ++ [pem.endLine], 10 ∉ line := by
        intro line hline
        rcases List.mem_append.mp hline with hline | hline
        · exact hcontent line hline
        · exact List.mem_singleton.mp hline ▸ pem.not_mem_endLine
      have hsplit := splitLines_ended hlines (show 10 ∉ ([] : Bytes) from List.not_mem_nil)
      simpa using hsplit

/-- **What `pemToDer` makes of the text**: the certificate when the text ends with a newline, and
otherwise the certificate without the bytes of the last content line; it never fails. -/
theorem pemToDer_text : pemToDer pem.text = .ok pem.kept := by
  have hsplit := pem.splitLines_text
  unfold kept
  cases hfinal : pem.finalNewline with
  | true =>
      rw [hfinal, if_pos rfl] at hsplit
      rw [pemToDer_of_splitLines hsplit, contentLines, Base64.flatten_toChunks (by decide),
        b64decode_encode, if_pos rfl]
  | false =>
      rw [hfinal, if_neg Bool.false_ne_true] at hsplit
      -- The END line is one of the last two lines, and the last content line is the other.
      have hpieces : pem.contentLines = (pem.der.toChunks 48).map Base64.encode :=
        Base64.toChunks_encode (k := 16) (by decide) pem.der
      have hne : pem.contentLines ≠ [] := by
        rw [hpieces, Base64.toChunks_of_ne_nil (by decide) pem.der_ne_nil]
        exact List.cons_ne_nil _ _
      have hlast : pem.beginLine :: pem.contentLines ++ [pem.endLine] =
          pem.beginLine :: pem.contentLines.dropLast ++
            [pem.contentLines.getLast hne, pem.endLine] := by
        conv_lhs => rw [← List.dropLast_append_getLast hne]
        simp
      have hwhole : ∀ piece ∈ (pem.der.toChunks 48).dropLast, 3 ∣ piece.length := by
        intro piece hpiece
        rw [Base64.length_of_mem_dropLast_toChunks (by decide) hpiece]
        decide
      rw [hlast] at hsplit
      rw [pemToDer_of_splitLines hsplit, hpieces, ← List.map_dropLast,
        Base64.flatten_map_encode hwhole, b64decode_encode, if_neg Bool.false_ne_true]

/-- The whole certificate is kept exactly when the text ends with a newline. -/
theorem kept_eq_der_iff : pem.kept = pem.der ↔ pem.finalNewline = true := by
  unfold kept
  cases pem.finalNewline with
  | true => simp
  | false => simp [Base64.flatten_dropLast_toChunks_ne (by decide : 0 < 48) pem.der_ne_nil]

/-- A text is not empty, so it counts as given. -/
theorem given_text : given (some pem.text) = some pem.text := by
  have hne : pem.text ≠ [] := by simp [text]
  simp [given, hne]

end ArmouredCertificate

/-! ## The hash in the channel header -/

/-- The certificate hash of a header built with an armoured certificate is that of the kept part. -/
theorem tlsCertHash_of_buildHeader {rt : Runtime} (hrt : rt.RoundTrip) {txContext : TXContext}
    {channel : Option Channel} {extension : Option Bytes} {txType : TransactionType}
    {timestamp : Timestamp} {header : Header} {pem : ArmouredCertificate}
    (h : buildHeader rt txContext channel extension txType (some pem.text) timestamp = .ok header) :
    ∃ channelHeader, rt.fromString ChannelHeader header.channelHeader = some channelHeader ∧
      channelHeader.tlsCertHash = rt.sha256 pem.kept := by
  obtain ⟨channelHeader, -, -, -, -, hcert, -, rfl⟩ := buildHeader_cases h
  refine ⟨channelHeader, hrt _, ?_⟩
  rw [buildTlsCertHash, pem.given_text] at hcert
  obtain ⟨der, hder, hhash⟩ := bind_eq_ok.mp hcert
  rw [pem.pemToDer_text] at hder
  cases hder
  exact (Except.ok.inj hhash).symm

variable (rt : Runtime)

/-- The armour of a certificate is undone: `pemToDer` returns the certificate, and the hash that
`buildHeader` puts in the channel header is the SHA-256 of the certificate. -/
def ArmouredCertificate.Undone (pem : ArmouredCertificate) : Prop :=
  pemToDer pem.text = .ok pem.der ∧
  ∀ (txContext : TXContext) (channel : Option Channel) (extension : Option Bytes)
    (txType : TransactionType) (timestamp : Timestamp) (header : Header),
    buildHeader rt txContext channel extension txType (some pem.text) timestamp = .ok header →
    ∃ channelHeader, rt.fromString ChannelHeader header.channelHeader = some channelHeader ∧
      channelHeader.tlsCertHash = rt.sha256 pem.der

variable {rt}

/-- **Armour is undone exactly for the texts that end with a newline.** -/
theorem pem_undone_iff (hrt : rt.RoundTrip) (pem : ArmouredCertificate) :
    pem.Undone rt ↔ pem.finalNewline = true := by
  rw [← pem.kept_eq_der_iff]
  constructor
  · rintro ⟨hder, -⟩
    rw [pem.pemToDer_text] at hder
    exact Except.ok.inj hder
  · intro hkept
    refine ⟨by rw [pem.pemToDer_text, hkept], ?_⟩
    intro txContext channel extension txType timestamp header hheader
    rw [← hkept]
    exact tlsCertHash_of_buildHeader hrt hheader

/-- A short certificate, with a final newline or without. -/
def shortCertificate (finalNewline : Bool) : ArmouredCertificate where
  beginLine := encodeString "-----BEGIN CERTIFICATE-----"
  der := [48, 3, 2, 1, 1]
  endLine := encodeString "-----END CERTIFICATE-----"
  finalNewline
  der_ne_nil := List.cons_ne_nil _ _
  not_mem_beginLine := by decide +kernel
  not_mem_endLine := by decide +kernel

/-- With a final newline, the armour of the short certificate is undone. -/
theorem pem_undone_iff_short : (shortCertificate true).Undone (wireRuntime id) :=
  (pem_undone_iff (wireRuntime_roundTrip id) (shortCertificate true)).mpr rfl

/-- Without a final newline nothing of the short certificate is left, and nothing is raised. -/
theorem unterminated_pem_emptied :
    (shortCertificate false).text =
      encodeString "-----BEGIN CERTIFICATE-----\nMAMCAQE=\n-----END CERTIFICATE-----" ∧
    pemToDer (shortCertificate false).text = .ok [] ∧
    ¬ (shortCertificate false).Undone (wireRuntime id) := by
  have hempty : pemToDer (shortCertificate false).text = .ok [] := by decide +kernel
  refine ⟨by decide +kernel, hempty, ?_⟩
  rintro ⟨hder, -⟩
  rw [hempty] at hder
  cases hder

end Snakeskin
