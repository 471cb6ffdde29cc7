import Snakeskin.Errors

/-! # Text and byte encodings

The parts of Python's library through which the client passes text: the Latin-1 and UTF-8 codecs,
`hexdigest`, `bytes.split` and `base64.b64decode`. -/

namespace Snakeskin

open Wire

/-! ## Text -/

/-- `val.encode('latin1')`: one byte for each character, refused above U+00FF. -/
def encodeLatin1 (val : String) : Except Exc Bytes :=
  val.toList.mapM fun c =>
    if c.toNat < 256 then .ok (UInt8.ofNat c.toNat) else .error .unicodeEncodeError

/-- `val.decode('utf-8')`. -/
def decodeUtf8 (val : Bytes) : Except Exc String :=
  match decodeString val with
  | some s => .ok s
  | none => .error .unicodeDecodeError

/-- The digit of a number below sixteen. -/
def hexDigit (n : Nat) : Char := "0123456789abcdef".toList.getD n '0'

/-- `digest.hexdigest()`: two lower-case digits for each byte. -/
def hexdigest (digest : Bytes) : String :=
  String.ofList (digest.flatMap fun b => [hexDigit (b.toNat / 16), hexDigit (b.toNat % 16)])

/-! ## PEM -/

/-- `data.split(b'\n')`: the lines of the data; there is always at least one. -/
def splitLines : Bytes → List Bytes
  | [] => [[]]
  | b :: rest =>
      if b = 10 then [] :: splitLines rest
      else match splitLines rest with
        | [] => [[b]]
        | line :: lines => (b :: line) :: lines

/-- The number that a character of the base64 alphabet stands for. -/
def base64Value (b : UInt8) : Option Nat :=
  let n := b.toNat
  if 65 ≤ n ∧ n ≤ 90 then some (n - 65)
  else if 97 ≤ n ∧ n ≤ 122 then some (n - 97 + 26)
  else if 48 ≤ n ∧ n ≤ 57 then some (n - 48 + 52)
  else if n = 43 then some 62
  else if n = 47 then some 63
  else none

/-- `binascii.a2b_base64`, from the position `quadPos` in a group of four characters, with the bits
`left` not yet written and `pads` padding characters seen. Characters outside the alphabet are
skipped, and nothing is read after complete padding. -/
def a2bBase64 : (quadPos left pads : Nat) → Bytes → Except Exc Bytes
  | quadPos, _, _, [] => if quadPos = 0 then .ok [] else .error .binasciiError
  | quadPos, left, pads, c :: rest =>
      if c = 61 then
        if 2 ≤ quadPos then
          if 4 ≤ quadPos + (pads + 1) then .ok [] else a2bBase64 quadPos left (pads + 1) rest
        else a2bBase64 quadPos left pads rest
      else match base64Value c, quadPos with
        | none, _ => a2bBase64 quadPos left pads rest
        | some v, 0 => a2bBase64 1 v 0 rest
        | some v, 1 => (a2bBase64 2 (v % 16) 0 rest).map (UInt8.ofNat (left * 4 + v / 16) :: ·)
        | some v, 2 => (a2bBase64 3 (v % 4) 0 rest).map (UInt8.ofNat (left * 16 + v / 4) :: ·)
        | some v, _ => (a2bBase64 0 0 0 rest).map (UInt8.ofNat (left * 64 + v) :: ·)

/-- `base64.b64decode(data)`. -/
def b64decode (data : Bytes) : Except Exc Bytes := a2bBase64 0 0 0 data

end Snakeskin
