import Snakeskin.Errors
import Snakeskin.Library.Ecdsa

/-! # The crypto suite

The signatures and the encryption of `_hfc/crypto.py`. What the libraries that it calls compute is a
parameter, and what is documented of them is stated as its laws.

* `Ecies.sign`, `Ecies.verify` — ECDSA of whose two mirrored signatures only the low one counts;
* `Ecies.encrypt`, `Ecies.decrypt` — a key agreed on with an ephemeral key, AES and a MAC;
* `CryptoLibraries.Lawful` — what is known of the libraries. -/

namespace Snakeskin

open Wire

/-! ## The model -/

/-- The hash functions. -/
inductive HashFunction where
  | sha256
  | sha384
  | sha3_256
  | sha3_384
  deriving DecidableEq, Repr

/-- The length of the digests of a hash function. -/
def HashFunction.digestSize : HashFunction → Nat
  | .sha256 => 32
  | .sha384 => 48
  | .sha3_256 => 32
  | .sha3_384 => 48

/-- The curves. -/
inductive EllipticCurve where
  | secp256r1
  | secp384r1
  deriving DecidableEq, Repr

/-- The size of the keys of a curve, in bits. -/
def EllipticCurve.keySize : EllipticCurve → Nat
  | .secp256r1 => 256
  | .secp384r1 => 384

/-- A crypto implementation based on ECDSA and SHA. -/
structure Ecies where
  order : Nat
  halfOrder : Nat
  curve : EllipticCurve
  signHashAlgorithm : HashFunction
  hash : HashFunction
  deriving DecidableEq, Repr

/-- The order of the base point of `SECP256R1`. -/
def order256 : Nat :=
  115792089210356248762697446949407573529996955224135760342422259061068512044369

/-- The order of the base point of `SECP384R1`. -/
def order384 : Nat :=
  39402006196394479212279040100143613805079739270465446667946905279627659399113263569398956308152294913554433653942643

/-- Inits curve and hash function. -/
def Ecies.init (securityLevel : Int) (hashAlgorithm : String) : Ecies :=
  let hash :=
    if hashAlgorithm = "SHA2" then HashFunction.sha256
    else if hashAlgorithm = "SHA3" ∧ securityLevel = 256 then .sha3_256
    else .sha3_384
  -- Every other level is that of 384 bits.
  if securityLevel = 256 then
    { order := order256, halfOrder := order256 >>> 1, curve := .secp256r1
      signHashAlgorithm := .sha256, hash }
  else
    { order := order384, halfOrder := order384 >>> 1, curve := .secp384r1
      signHashAlgorithm := .sha384, hash }

/-- What the libraries compute without a key. -/
structure Primitives where
  digest : HashFunction → Bytes → Bytes
  encodeDssSignature : Int → Int → Bytes
  decodeDssSignature : Bytes → Except Exc (Int × Int)
  hkdfExpand : HashFunction → Bytes → Nat → Bytes
  hmac : HashFunction → Bytes → Bytes → Bytes
  aesCfbEncrypt : Bytes → Bytes → Bytes → Bytes
  aesCfbDecrypt : Bytes → Bytes → Bytes → Except Exc Bytes

/-- What is computed by the libraries that are called, with the keys of one curve. -/
structure CryptoLibraries extends Primitives where
  PrivateKey : Type
  PublicKey : Type
  Nonce : Type
  publicKey : PrivateKey → PublicKey
  /-- A message can be signed with a nonce; the library draws until it has such a one. -/
  Suitable : HashFunction → PrivateKey → Nonce → Bytes → Prop
  /-- `private_key.sign`. -/
  sign : HashFunction → PrivateKey → Nonce → Bytes → Bytes
  /-- `public_key.verify`, which tells what does not verify by an `InvalidSignature`. -/
  verify : HashFunction → PublicKey → Bytes → Bytes → Bool
  encodePoint : PublicKey → Bytes
  fromEncodedPoint : Bytes → Except Exc PublicKey
  /-- `private_key.exchange`. -/
  exchange : PrivateKey → PublicKey → Bytes

namespace Ecies

variable (ecies : Ecies) (lib : CryptoLibraries)

/-! ### Signatures -/

/-- `_prevent_malleability`: of the two mirrored signatures takes the low one. -/
def preventMalleability (sig : Bytes) : Except Exc Bytes := do
  let (r, s) ← lib.decodeDssSignature sig
  let s := if s > ecies.halfOrder then ecies.order - s else s
  return lib.encodeDssSignature r s

/-- `_check_malleability`. -/
def checkMalleability (sig : Bytes) : Except Exc Bool := do
  let (_, s) ← lib.decodeDssSignature sig
  return !decide (s > ecies.halfOrder)

/-- ECDSA sign message; the nonce is drawn by the library. -/
def sign (privateKey : lib.PrivateKey) (nonce : lib.Nonce) (message : Bytes) : Except Exc Bytes :=
  let signer := lib.sign ecies.signHashAlgorithm privateKey nonce message
  ecies.preventMalleability lib signer

/-- ECDSA verify signature. What is no signature at all raises, as it is decoded first. -/
def verify (publicKey : lib.PublicKey) (message signature : Bytes) : Except Exc Bool := do
  let low ← ecies.checkMalleability lib signature
  if low then return lib.verify ecies.signHashAlgorithm publicKey signature message
  else return false

/-- The crypto suite that is made of them, where the library draws the nonces given. What is raised
counts as an empty signature, and as one that is not accepted. -/
def suite (nonce : lib.PrivateKey → Bytes → lib.Nonce) : CryptoSuite where
  PrivateKey := lib.PrivateKey
  PublicKey := lib.PublicKey
  publicKey := lib.publicKey
  hash := lib.digest ecies.hash
  sign key data := (ecies.sign lib key (nonce key data) data).toOption.getD []
  verify key data signature := (ecies.verify lib key data signature).toOption.getD false

/-! ### Encryption -/

/-- The AES key and the HMAC key of a shared secret. -/
def deriveKeys (z : Bytes) : Bytes × Bytes :=
  let hkdfOutput := lib.hkdfExpand ecies.hash z (32 + 32)
  (hkdfOutput.take 32, (hkdfOutput.drop 32).take 32)

/-- Ecies encrypt plain text; the ephemeral key and the initialisation vector are drawn. -/
def encrypt (ephemeralPrivateKey : lib.PrivateKey) (iv : Bytes) (publicKey : lib.PublicKey)
    (plainText : Bytes) : Bytes :=
  let rb := lib.encodePoint (lib.publicKey ephemeralPrivateKey)
  let (aesKey, hmacKey) := ecies.deriveKeys lib (lib.exchange ephemeralPrivateKey publicKey)
  let em := iv ++ lib.aesCfbEncrypt aesKey iv plainText
  rb ++ em ++ lib.hmac ecies.hash hmacKey em

/-- Raised for a text that is too short. -/
def illegalLength (ctLen atLeast : Nat) : Exc :=
  .valueError ("Illegal cipherText length: cipher text length " ++ toString ctLen ++
    " must be > rb length plus d_len " ++ toString atLeast)

/-- Ecies decrypt cipher text. -/
def decrypt (keyLen : Nat) (privateKey : lib.PrivateKey) (cipherText : Bytes) : Except Exc Bytes :=
  if keyLen ≠ ecies.curve.keySize then
    .error (.valueError ("Invalid key. Input security level " ++ toString keyLen ++
      " does not match the current security level " ++ toString ecies.curve.keySize))
  else
    let dLen := keyLen >>> 3
    let rbLen := (keyLen + 7) / 8 * 2 + 1
    let ctLen := cipherText.length
    if ctLen ≤ rbLen + dLen then .error (illegalLength ctLen (rbLen + dLen))
    else do
      let rb := cipherText.take rbLen
      let em := (cipherText.take (ctLen - dLen)).drop rbLen
      let d := cipherText.drop (ctLen - dLen)
      let ephemeralPublicKey ← lib.fromEncodedPoint rb
      let (aesKey, hmacKey) := ecies.deriveKeys lib (lib.exchange privateKey ephemeralPublicKey)
      if lib.hmac ecies.hash hmacKey em ≠ d then .error (.valueError "Hmac verify failed.")
      else lib.aesCfbDecrypt aesKey (em.take 16) (em.drop 16)

end Ecies

/-! ## What is known of the libraries -/

/-- What is known of those without a key, where signatures are pairs of components of an order. -/
structure Primitives.Lawful (prims : Primitives) (n : Nat) : Prop where
  decode_encode : ∀ r s, Ecdsa.IsComponent n r → Ecdsa.IsComponent n s →
    prims.decodeDssSignature (prims.encodeDssSignature r s) = .ok (r, s)
  length_hkdfExpand : ∀ hash z len, len ≤ 255 * hash.digestSize →
    (prims.hkdfExpand hash z len).length = len
  length_hmac : ∀ hash key data, (prims.hmac hash key data).length = hash.digestSize
  /-- AES has keys of three lengths, and blocks of 16 bytes. -/
  length_aesCfbEncrypt : ∀ key iv data, key.length ∈ [16, 24, 32] → iv.length = 16 →
    (prims.aesCfbEncrypt key iv data).length = data.length
  aesCfbDecrypt_encrypt : ∀ key iv data, key.length ∈ [16, 24, 32] → iv.length = 16 →
    prims.aesCfbDecrypt key iv (prims.aesCfbEncrypt key iv data) = .ok data

/-- What is known of the libraries for a curve of an order and a key size. -/
structure CryptoLibraries.Lawful (lib : CryptoLibraries) (n keySize : Nat) : Prop extends
    lib.toPrimitives.Lawful n where
  /-- What is signed verifies. -/
  verifies_sign : ∀ hash key nonce message, lib.Suitable hash key nonce message →
    lib.verify hash (lib.publicKey key) (lib.sign hash key nonce message) message = true
  /-- What verifies is a pair of components. -/
  components_of_verifies : ∀ hash key message signature,
    lib.verify hash key signature message = true → ∃ r s,
      lib.decodeDssSignature signature = .ok (r, s) ∧ Ecdsa.IsComponent n r ∧ Ecdsa.IsComponent n s
  /-- A signature verifies exactly when it does with its second component mirrored. -/
  verifies_mirror : ∀ hash key message signature r s, Ecdsa.IsComponent n r →
    Ecdsa.IsComponent n s → lib.decodeDssSignature signature = .ok (r, s) →
    lib.verify hash key (lib.encodeDssSignature r (n - s)) message =
      lib.verify hash key signature message
  /-- Both parties of an exchange have the same secret. -/
  exchange_comm : ∀ a b, lib.exchange a (lib.publicKey b) = lib.exchange b (lib.publicKey a)
  /-- A point is encoded uncompressed: a byte and two coordinates. -/
  length_encodePoint : ∀ p, (lib.encodePoint p).length = (keySize + 7) / 8 * 2 + 1
  from_encodePoint : ∀ p, lib.fromEncodedPoint (lib.encodePoint p) = .ok p

namespace Ecies

/-- One that was made. -/
def Made (ecies : Ecies) : Prop :=
  ∃ securityLevel hashAlgorithm, ecies = init securityLevel hashAlgorithm

/-- The order at 256 bits is odd. -/
theorem eq_half_order256 : order256 = 2 * (order256 >>> 1) + 1 := by decide +kernel

/-- The order at 384 bits is odd. -/
theorem eq_half_order384 : order384 = 2 * (order384 >>> 1) + 1 := by decide +kernel

/-- The order of each level is odd. -/
theorem Made.order_eq {ecies : Ecies} (h : ecies.Made) :
    ecies.order = 2 * ecies.halfOrder + 1 := by
  obtain ⟨securityLevel, hashAlgorithm, rfl⟩ := h
  by_cases hlevel : securityLevel = 256
  · rw [init, if_pos hlevel]
    exact eq_half_order256
  · rw [init, if_neg hlevel]
    exact eq_half_order384

end Ecies

end Snakeskin
