import Mathlib.Data.Nat.Digits.Defs
import Mathlib.Data.Nat.Size
import Snakeskin.Crypto

/-! # The libraries of the standard scheme

ECDSA over the points of a curve, and an exchange of points, make libraries of which all holds that
is documented. The numbers modulo an order are a curve to evaluate the model with.

* `ecdsaLibraries`, `lawful_ecdsaLibraries` — the standard scheme over any curve;
* `modularCurve`, `plainPrimitives` — a curve, and codings and ciphers, that can be evaluated. -/

namespace Snakeskin

open Wire

/-! ## The standard scheme -/

/-- The number of some bytes, the lowest first. -/
def valueOf (bytes : Bytes) : Nat := Nat.ofDigits 256 (bytes.map UInt8.toNat)

/-- The number that is signed for a message: as many bits of its digest as the order has. -/
def Primitives.messageScalar (prims : Primitives) (n : Nat) (hash : HashFunction) (message : Bytes) :
    ZMod n :=
  let digest := prims.digest hash message
  (valueOf digest.reverse >>> (8 * digest.length - n.size) : Nat)

/-- The points of a curve of an order and a key size, with their encoding. -/
structure EncodedCurve (n keySize : Nat) (G : Type) [AddCommGroup G] [Module (ZMod n) G] extends
    Ecdsa n G where
  order_ne_zero : n ≠ 0
  base_ne_zero : base ≠ 0
  sharedSecret : G → Bytes
  encodePoint : { p : G // p ≠ 0 } → Bytes
  fromEncodedPoint : Bytes → Except Exc { p : G // p ≠ 0 }
  length_encodePoint : ∀ p, (encodePoint p).length = (keySize + 7) / 8 * 2 + 1
  from_encodePoint : ∀ p, fromEncodedPoint (encodePoint p) = .ok p

section Standard

variable {n keySize : Nat} {G : Type} [AddCommGroup G] [Module (ZMod n) G]

/-- The public key of a private key is no zero of the group. -/
theorem EncodedCurve.publicKey_ne_zero (curve : EncodedCurve n keySize G)
    (key : { d : ZMod n // Ecdsa.IsComponent n d.val }) : curve.publicKey key.val ≠ 0 :=
  have : NeZero n := ⟨curve.order_ne_zero⟩
  curve.toEcdsa.publicKey_ne_zero curve.base_ne_zero key.property

/-- The libraries of the standard scheme: ECDSA, and an exchange of points. -/
def ecdsaLibraries (prims : Primitives) (curve : EncodedCurve n keySize G) : CryptoLibraries where
  toPrimitives := prims
  PrivateKey := { d : ZMod n // Ecdsa.IsComponent n d.val }
  PublicKey := { p : G // p ≠ 0 }
  Nonce := ZMod n
  publicKey key := ⟨curve.publicKey key.val, curve.publicKey_ne_zero key⟩
  Suitable hash key nonce message :=
    curve.Suitable key.val nonce (prims.messageScalar n hash message)
  sign hash key nonce message :=
    let signer := curve.sign key.val nonce (prims.messageScalar n hash message)
    prims.encodeDssSignature signer.1.val signer.2.val
  verify hash key signature message :=
    match prims.decodeDssSignature signature with
    | .ok (r, s) => decide (curve.Verifies key.val (prims.messageScalar n hash message) r s)
    | .error _ => false
  encodePoint := curve.encodePoint
  fromEncodedPoint := curve.fromEncodedPoint
  exchange key point := curve.sharedSecret (key.val • point.val)

variable {prims : Primitives} {curve : EncodedCurve n keySize G}

/-- What is decoded verifies by ECDSA. -/
theorem verify_ecdsaLibraries {hash : HashFunction} {key : (ecdsaLibraries prims curve).PublicKey}
    {message signature : Bytes} {r s : Int} (h : prims.decodeDssSignature signature = .ok (r, s)) :
    (ecdsaLibraries prims curve).verify hash key signature message =
      decide (curve.Verifies key.val (prims.messageScalar n hash message) r s) := by
  show (match prims.decodeDssSignature signature with
    | .ok (r, s) => decide (curve.Verifies key.val (prims.messageScalar n hash message) r s)
    | .error _ => false) = _
  rw [h]

/-- **The standard scheme is lawful**: what is known of the libraries holds of it. -/
theorem lawful_ecdsaLibraries (laws : prims.Lawful n) :
    (ecdsaLibraries prims curve).Lawful n keySize where
  toLawful := laws
  verifies_sign hash key nonce message h := by
    have : NeZero n := ⟨curve.order_ne_zero⟩
    have hverifies := curve.toEcdsa.verifies_sign h
    obtain ⟨-, hr, hs⟩ := h
    exact (verify_ecdsaLibraries (laws.decode_encode _ _ hr hs)).trans (decide_eq_true hverifies)
  components_of_verifies hash key message signature h := by
    cases hdecode : prims.decodeDssSignature signature with
    | error e =>
        change (match prims.decodeDssSignature signature with
          | .ok (r, s) => decide (curve.Verifies key.val (prims.messageScalar n hash message) r s)
          | .error _ => false) = true at h
        rw [hdecode] at h
        cases h
    | ok pair =>
        obtain ⟨r, s⟩ := pair
        rw [verify_ecdsaLibraries hdecode] at h
        obtain ⟨hr, hs, -⟩ := of_decide_eq_true h
        exact ⟨r, s, hdecode, hr, hs⟩
  verifies_mirror hash key message signature r s hr hs hdecode := by
    have hmirror := laws.decode_encode r (n - s) hr (Ecdsa.isComponent_mirror.mpr hs)
    refine (verify_ecdsaLibraries hmirror).trans (.trans ?_ (verify_ecdsaLibraries hdecode).symm)
    exact decide_eq_decide.mpr (curve.toEcdsa.verifies_mirror _ _ r s)
  exchange_comm a b := congrArg curve.sharedSecret (curve.toEcdsa.smul_publicKey_comm a.val b.val)
  length_encodePoint := curve.length_encodePoint
  from_encodePoint := curve.from_encodePoint

end Standard

/-! ## Libraries to evaluate the model with -/

/-- The bytes of a number, the lowest first. -/
def fixedBytes : (len : Nat) → (v : Nat) → Bytes
  | 0, _ => []
  | len + 1, v => UInt8.ofNat (v % 256) :: fixedBytes len (v / 256)

@[simp] theorem length_fixedBytes (len v : Nat) : (fixedBytes len v).length = len := by
  induction len generalizing v with
  | zero => rfl
  | succ len ih => rw [fixedBytes, List.length_cons, ih]

/-- As many bytes as are needed give the number back. -/
theorem valueOf_fixedBytes {len v : Nat} (h : v < 256 ^ len) : valueOf (fixedBytes len v) = v := by
  induction len generalizing v with
  | zero =>
      rw [Nat.pow_zero, Nat.lt_one_iff] at h
      rw [h]
      rfl
  | succ len ih =>
      have hbyte : (UInt8.ofNat (v % 256)).toNat = v % 256 := by
        rw [UInt8.toNat_ofNat', Nat.mod_mod]
      have hrest := ih (Nat.div_lt_of_lt_mul (by rwa [← Nat.pow_succ']))
      rw [valueOf] at hrest
      rw [valueOf, fixedBytes, List.map_cons, Nat.ofDigits_cons, hbyte, hrest]
      exact Nat.mod_add_div v 256

/-- A pair of numbers in 48 bytes each. -/
def encodePair (r s : Int) : Bytes := fixedBytes 48 r.toNat ++ fixedBytes 48 s.toNat

/-- The numbers that are read from two times 48 bytes. -/
def decodePair (sig : Bytes) : Int × Int := (valueOf (sig.take 48), valueOf (sig.drop 48))

/-- Components are read as they were written, where the order fits. -/
theorem decodePair_encodePair {n : Nat} (hfits : n < 256 ^ 48) {r s : Int}
    (hr : Ecdsa.IsComponent n r) (hs : Ecdsa.IsComponent n s) :
    decodePair (encodePair r s) = (r, s) := by
  have hcomponent : ∀ {a : Int}, Ecdsa.IsComponent n a →
      (valueOf (fixedBytes 48 a.toNat) : Int) = a := by
    rintro a ⟨hpos, hlt, -⟩
    rw [valueOf_fixedBytes (by omega), Int.toNat_of_nonneg hpos.le]
  rw [decodePair, encodePair, List.take_left' (length_fixedBytes 48 _),
    List.drop_left' (length_fixedBytes 48 _), hcomponent hr, hcomponent hs]

/-- The sum of the bytes of a key. -/
def keyByte (key : Bytes) : UInt8 := key.foldl (· + ·) 0

/-- Hash functions, codings and ciphers to evaluate the model with: a digest is the message that is
cut to its length, and a text is hidden by adding that sum to each byte. -/
def plainPrimitives : Primitives where
  digest hash message := (fixedBytes hash.digestSize (valueOf message)).reverse
  encodeDssSignature := encodePair
  decodeDssSignature sig := .ok (decodePair sig)
  hkdfExpand _ z len := fixedBytes len (valueOf z)
  hmac hash key data := (key ++ data ++ List.replicate 48 0).take hash.digestSize
  aesCfbEncrypt key _ data := data.map (· + keyByte key)
  aesCfbDecrypt key iv data :=
    if key.length ∈ [16, 24, 32] ∧ iv.length = 16 then .ok (data.map (· - keyByte key))
    else .error (.valueError "Incorrect AES key length or IV length")

/-- What is known of the libraries holds of these. -/
theorem lawful_plainPrimitives {n : Nat} (hfits : n < 256 ^ 48) : plainPrimitives.Lawful n where
  decode_encode r s hr hs := congrArg Except.ok (decodePair_encodePair hfits hr hs)
  length_hkdfExpand _ _ len _ := length_fixedBytes len _
  length_hmac hash key data := by
    have hsize : hash.digestSize ≤ 48 := by cases hash <;> decide
    show ((key ++ data ++ List.replicate 48 0).take hash.digestSize).length = _
    rw [List.length_take, List.length_append, List.length_replicate]
    omega
  length_aesCfbEncrypt _ _ _ _ _ := List.length_map _
  aesCfbDecrypt_encrypt key iv data hkey hiv := by
    show (if key.length ∈ [16, 24, 32] ∧ iv.length = 16 then
      Except.ok ((data.map (· + keyByte key)).map (· - keyByte key)) else _) = _
    rw [if_pos ⟨hkey, hiv⟩, List.map_map]
    refine congrArg Except.ok ((List.map_congr_left fun b _ => ?_).trans (List.map_id data))
    exact UInt8.add_sub_cancel b (keyByte key)

/-- The numbers modulo an order as a curve, where the coordinate of a point is its square. -/
def modularCurve (n keySize : Nat) (hone : 1 < n)
    (hfits : n ≤ 256 ^ ((keySize + 7) / 8 * 2 + 1)) : EncodedCurve n keySize (ZMod n) where
  base := 1
  coordinate p := p * p
  coordinate_neg p := neg_mul_neg p p
  order_ne_zero := by omega
  base_ne_zero :=
    have : Fact (1 < n) := ⟨hone⟩
    one_ne_zero
  sharedSecret p := fixedBytes 32 p.val
  encodePoint p := fixedBytes ((keySize + 7) / 8 * 2 + 1) p.val.val
  fromEncodedPoint bytes :=
    if h : (valueOf bytes : ZMod n) ≠ 0 then .ok ⟨valueOf bytes, h⟩
    else .error (.valueError "Invalid point")
  length_encodePoint p := length_fixedBytes _ _
  from_encodePoint p := by
    have : NeZero n := ⟨by omega⟩
    have hvalue : (valueOf (fixedBytes ((keySize + 7) / 8 * 2 + 1) p.val.val) : ZMod n) = p.val := by
      rw [valueOf_fixedBytes ((ZMod.val_lt p.val).trans_le hfits), ZMod.natCast_zmod_val]
    have hne : (valueOf (fixedBytes ((keySize + 7) / 8 * 2 + 1) p.val.val) : ZMod n) ≠ 0 := by
      rw [hvalue]
      exact p.property
    rw [dif_pos hne]
    exact congrArg Except.ok (Subtype.ext hvalue)

/-- Libraries over the numbers modulo the order at 256 bits. -/
def modularLibraries256 : CryptoLibraries :=
  ecdsaLibraries plainPrimitives (modularCurve order256 256 (by decide +kernel) (by decide +kernel))

/-- Libraries over the numbers modulo the order at 384 bits. -/
def modularLibraries384 : CryptoLibraries :=
  ecdsaLibraries plainPrimitives (modularCurve order384 384 (by decide +kernel) (by decide +kernel))

theorem lawful_modularLibraries256 : modularLibraries256.Lawful order256 256 :=
  lawful_ecdsaLibraries (lawful_plainPrimitives (by decide +kernel))

theorem lawful_modularLibraries384 : modularLibraries384.Lawful order384 384 :=
  lawful_ecdsaLibraries (lawful_plainPrimitives (by decide +kernel))

/-- A number as a private key. -/
def keyOf {n a : Nat} (h : Ecdsa.IsComponent n a) : { d : ZMod n // Ecdsa.IsComponent n d.val } :=
  ⟨a, by
    have hlt : a < n := by exact_mod_cast h.2.1
    rwa [ZMod.val_cast_of_lt hlt]⟩

/-- The number six below the order is a component. -/
theorem isComponent_order256_sub : Ecdsa.IsComponent order256 (order256 - 6 : Nat) := by
  decide +kernel

/-- Two is a component at 256 bits. -/
theorem isComponent_order256_two : Ecdsa.IsComponent order256 (2 : Nat) := by decide +kernel

/-- Two is a component at 384 bits. -/
theorem isComponent_order384_two : Ecdsa.IsComponent order384 (2 : Nat) := by decide +kernel

/-- What is signed for a message of one byte is that byte. -/
theorem messageScalar_byte (b : UInt8) :
    plainPrimitives.messageScalar order256 .sha256 [b] = (b.toNat : ZMod order256) := by
  have hsize : order256.size = 256 :=
    le_antisymm (Nat.size_le.mpr (by decide +kernel)) (Nat.lt_size.mpr (by decide +kernel))
  have hvalue : valueOf [b] = b.toNat := Nat.ofDigits_singleton
  have hlt : b.toNat < 256 ^ 32 := b.toNat_lt.trans (by decide)
  show ((valueOf (fixedBytes 32 (valueOf [b])).reverse.reverse >>>
    (8 * (fixedBytes 32 (valueOf [b])).reverse.length - order256.size) : Nat) : ZMod order256) = _
  rw [List.reverse_reverse, List.length_reverse, length_fixedBytes, hsize, hvalue,
    valueOf_fixedBytes hlt]
  rfl

/-- With the key minus six and the nonce one, the signature of a five is one and minus one. -/
theorem sign_modularCurve {n keySize : Nat} (hone : 1 < n)
    (hfits : n ≤ 256 ^ ((keySize + 7) / 8 * 2 + 1)) (hsix : 6 ≤ n) :
    (modularCurve n keySize hone hfits).sign (n - 6 : Nat) 1 5 = (1, -1) := by
  have hinv : (1 : ZMod n)⁻¹ = 1 := by
    have h := (ZMod.coe_mul_inv_eq_one 1 (Nat.coprime_one_left n))
    rwa [Nat.cast_one, one_mul] at h
  have hkey : ((n - 6 : Nat) : ZMod n) = -6 := by
    rw [Nat.cast_sub hsix, ZMod.natCast_self, zero_sub]
    rfl
  have hcoordinate : (modularCurve n keySize hone hfits).coordinate
      ((1 : ZMod n) • (modularCurve n keySize hone hfits).base) = 1 := by
    show ((1 : ZMod n) • (1 : ZMod n)) * ((1 : ZMod n) • 1) = 1
    rw [one_smul, one_mul]
  rw [Ecdsa.sign, hcoordinate, hinv, hkey]
  norm_num

/-- The private key minus six. -/
def keyMinusSix : modularLibraries256.PrivateKey := keyOf isComponent_order256_sub

/-- The nonce one. -/
def nonceOne : modularLibraries256.Nonce := (1 : ZMod order256)

/-- The numbers one and minus one modulo the order at 256 bits. -/
theorem val_one_and_neg_one : ((1 : ZMod order256).val : Int) = 1 ∧
    ((-1 : ZMod order256).val : Int) = order256 - 1 := by
  have : Fact (1 < order256) := ⟨by decide +kernel⟩
  rw [ZMod.neg_val, if_neg one_ne_zero, ZMod.val_one]
  exact ⟨rfl, by decide +kernel⟩

/-- What is signed with them for a five. -/
theorem signer_five (hone : 1 < order256) (hfits : order256 ≤ 256 ^ ((256 + 7) / 8 * 2 + 1)) :
    (modularCurve order256 256 hone hfits).sign keyMinusSix.val nonceOne
      (plainPrimitives.messageScalar order256 .sha256 [5]) = (1, -1) := by
  rw [messageScalar_byte]
  exact sign_modularCurve hone hfits (by decide +kernel)

/-- The signature of a five with them: its second component is not low. -/
theorem sign_five :
    modularLibraries256.sign .sha256 keyMinusSix nonceOne [5] = encodePair 1 (order256 - 1) := by
  have hsigner := signer_five (by decide +kernel) (by decide +kernel)
  obtain ⟨hone, hlast⟩ := val_one_and_neg_one
  calc modularLibraries256.sign .sha256 keyMinusSix nonceOne [5]
      = encodePair (1 : ZMod order256).val (-1 : ZMod order256).val := by
        exact congrArg (fun signer => encodePair signer.1.val signer.2.val) hsigner
    _ = encodePair 1 (order256 - 1) := by rw [hone, hlast]

/-- It can be made. -/
theorem suitable_five : modularLibraries256.Suitable .sha256 keyMinusSix nonceOne [5] := by
  obtain ⟨hone, hlast⟩ := val_one_and_neg_one
  have hfirst : Ecdsa.IsComponent order256 ((1 : ZMod order256).val : Int) := by
    rw [hone]
    decide +kernel
  have hsecond : Ecdsa.IsComponent order256 ((-1 : ZMod order256).val : Int) := by
    rw [hlast]
    decide +kernel
  have hsigner := signer_five (by decide +kernel) (by decide +kernel)
  refine ⟨hfirst, ?_, ?_⟩
  · exact hsigner ▸ hfirst
  · exact hsigner ▸ hsecond

end Snakeskin
