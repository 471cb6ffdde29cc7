import Snakeskin.EcdsaLibraries

/-! # The suites

What a suite signs it accepts, and of two mirrored signatures it accepts one; and what it encrypts it
decrypts at those levels whose digests are as long as a coordinate of the curve. -/

namespace Snakeskin

open Wire

namespace Ecies

/-- The default suite was made. -/
theorem made_default : (init 256 "SHA2").Made := ⟨_, _, rfl⟩

/-! ## Signatures -/

section Signatures

variable {ecies : Ecies} {lib : CryptoLibraries} {n keySize : Nat}

/-- What is encoded again verifies as it did: its mirror image is mirrored back. -/
theorem verify_encode_decoded (laws : lib.Lawful n keySize) {hash : HashFunction}
    {key : lib.PublicKey} {message signature : Bytes} {r s : Int} (hr : Ecdsa.IsComponent n r)
    (hs : Ecdsa.IsComponent n s) (hdecode : lib.decodeDssSignature signature = .ok (r, s)) :
    lib.verify hash key (lib.encodeDssSignature r s) message =
      lib.verify hash key signature message := by
  have hmirror := Ecdsa.isComponent_mirror.mpr hs
  have hback := laws.verifies_mirror hash key message _ r (n - s) hr hmirror
    (laws.decode_encode r (n - s) hr hmirror)
  rw [sub_sub_cancel] at hback
  exact hback.trans (laws.verifies_mirror hash key message signature r s hr hs hdecode)

/-- The low one of two mirrored components. -/
def lowComponent (ecies : Ecies) (s : Int) : Int :=
  if s > ecies.halfOrder then ecies.order - s else s

/-- The low one is a component as well. -/
theorem isComponent_lowComponent {s : Int} (h : Ecdsa.IsComponent ecies.order s) :
    Ecdsa.IsComponent ecies.order (ecies.lowComponent s) := by
  unfold lowComponent
  split
  · exact Ecdsa.isComponent_mirror.mpr h
  · exact h

/-- It is low where the order is odd. -/
theorem lowComponent_le (horder : ecies.order = 2 * ecies.halfOrder + 1) (s : Int) :
    ecies.lowComponent s ≤ ecies.halfOrder := by
  unfold lowComponent
  split <;> omega

/-- With the low component a signature verifies where it did. -/
theorem verify_encode_lowComponent (laws : lib.Lawful ecies.order keySize) {hash : HashFunction}
    {key : lib.PublicKey} {message signature : Bytes} {r s : Int}
    (hr : Ecdsa.IsComponent ecies.order r) (hs : Ecdsa.IsComponent ecies.order s)
    (hdecode : lib.decodeDssSignature signature = .ok (r, s)) :
    lib.verify hash key (lib.encodeDssSignature r (ecies.lowComponent s)) message =
      lib.verify hash key signature message := by
  unfold lowComponent
  split
  · exact laws.verifies_mirror hash key message signature r s hr hs hdecode
  · exact verify_encode_decoded laws hr hs hdecode

/-- What is decoded is accepted when it is low and verifies. -/
theorem verify_of_decode {publicKey : lib.PublicKey} {message signature : Bytes} {r s : Int}
    (h : lib.decodeDssSignature signature = .ok (r, s)) :
    ecies.verify lib publicKey message signature = .ok (decide (s ≤ ecies.halfOrder) &&
      lib.verify ecies.signHashAlgorithm publicKey signature message) := by
  rw [verify, checkMalleability, h]
  by_cases hlow : s ≤ ecies.halfOrder
  · have hnot : ¬ s > ecies.halfOrder := by omega
    simp [hlow, hnot, Except.bind, bind, pure, Except.pure]
  · have hhigh : s > ecies.halfOrder := by omega
    simp [hlow, hhigh, Except.bind, bind, pure, Except.pure]

/-- **What is signed is accepted.** Whatever the level, the key, the message and the nonce drawn,
the signature has a low component, and it verifies under the public key of the key. -/
theorem verify_sign (hmade : ecies.Made) (laws : lib.Lawful ecies.order keySize)
    {privateKey : lib.PrivateKey} {nonce : lib.Nonce} {message : Bytes}
    (h : lib.Suitable ecies.signHashAlgorithm privateKey nonce message) :
    ∃ r s, ecies.sign lib privateKey nonce message = .ok (lib.encodeDssSignature r s) ∧
      2 * s < ecies.order ∧
      ecies.verify lib (lib.publicKey privateKey) message (lib.encodeDssSignature r s) =
        .ok true := by
  have horder := hmade.order_eq
  have hverifies := laws.verifies_sign ecies.signHashAlgorithm privateKey nonce message h
  obtain ⟨r, s, hdecode, hr, hs⟩ := laws.components_of_verifies _ _ _ _ hverifies
  have hlow := ecies.lowComponent_le horder s
  refine ⟨r, ecies.lowComponent s, ?_, by omega, ?_⟩
  · rw [sign, preventMalleability, hdecode]
    rfl
  · rw [verify_of_decode (laws.decode_encode _ _ hr (isComponent_lowComponent hs)),
      verify_encode_lowComponent laws hr hs hdecode, hverifies, decide_eq_true hlow]
    rfl

/-- At the default level, a signature that is not low is replaced by its mirror image. -/
theorem verify_sign_default :
    let ecies := init 256 "SHA2"
    let lib := modularLibraries256
    ∃ r s, ecies.sign lib keyMinusSix nonceOne [5] = .ok (lib.encodeDssSignature r s) ∧
      2 * s < ecies.order ∧
      ecies.verify lib (lib.publicKey keyMinusSix) [5] (lib.encodeDssSignature r s) = .ok true :=
  verify_sign made_default lawful_modularLibraries256 suitable_five

/-- A suite whose nonces are suitable is correct. -/
theorem correct_suite (hmade : ecies.Made) (laws : lib.Lawful ecies.order keySize)
    {nonce : lib.PrivateKey → Bytes → lib.Nonce}
    (h : ∀ key data, lib.Suitable ecies.signHashAlgorithm key (nonce key data) data) :
    (ecies.suite lib nonce).Correct := by
  intro key data
  obtain ⟨r, s, hsign, -, hverify⟩ := verify_sign hmade laws (h key data)
  show (ecies.verify lib _ data ((ecies.sign lib key _ data).toOption.getD [])).toOption.getD false =
    true
  rw [hsign]
  exact congrArg (·.toOption.getD false) hverify

/-- **Of two mirrored signatures one is accepted.** Where a signature of a message verifies by
ECDSA, so does its mirror image; of the two exactly the one that is low is accepted. -/
theorem verify_mirrored (hmade : ecies.Made) (laws : lib.Lawful ecies.order keySize)
    {publicKey : lib.PublicKey} {message signature : Bytes}
    (h : lib.verify ecies.signHashAlgorithm publicKey signature message = true) :
    ∃ r s, lib.decodeDssSignature signature = .ok (r, s) ∧
      let mirror := lib.encodeDssSignature r (ecies.order - s)
      lib.decodeDssSignature mirror = .ok (r, ecies.order - s) ∧
      lib.verify ecies.signHashAlgorithm publicKey mirror message = true ∧
      ecies.verify lib publicKey message signature = .ok (decide (s ≤ ecies.halfOrder)) ∧
      ecies.verify lib publicKey message mirror = .ok (!decide (s ≤ ecies.halfOrder)) := by
  have horder := hmade.order_eq
  obtain ⟨r, s, hdecode, hr, hs⟩ := laws.components_of_verifies _ _ _ _ h
  have hmirror := laws.decode_encode r (ecies.order - s) hr (Ecdsa.isComponent_mirror.mpr hs)
  have hverifies :=
    (laws.verifies_mirror ecies.signHashAlgorithm publicKey message _ r s hr hs hdecode).trans h
  refine ⟨r, s, hdecode, hmirror, hverifies, ?_, ?_⟩
  · rw [verify_of_decode hdecode, h, Bool.and_true]
  · rw [verify_of_decode hmirror, hverifies, Bool.and_true, ← decide_not]
    exact congrArg Except.ok (decide_eq_decide.mpr (by omega))

/-- At the default level, such a signature is refused where its mirror image is accepted. -/
theorem verify_mirrored_default :
    let ecies := init 256 "SHA2"
    let lib := modularLibraries256
    let s : Int := ecies.order - 1
    let message : Bytes := [5]
    lib.verify .sha256 (lib.publicKey keyMinusSix) (lib.encodeDssSignature 1 1) message = true ∧
      ecies.verify lib (lib.publicKey keyMinusSix) message (lib.encodeDssSignature 1 s) =
        .ok false ∧
      ecies.verify lib (lib.publicKey keyMinusSix) message (lib.encodeDssSignature 1 1) =
        .ok true := by
  intro ecies lib s message
  have hverifies := lawful_modularLibraries256.verifies_sign _ _ _ _ suitable_five
  rw [sign_five] at hverifies
  obtain ⟨r, s', hdecode, hmirror⟩ :=
    verify_mirrored made_default lawful_modularLibraries256 hverifies
  have hpair : decodePair (encodePair 1 (order256 - 1)) = (1, (order256 - 1 : Int)) := by
    decide +kernel
  obtain ⟨rfl, rfl⟩ : 1 = r ∧ s = s' :=
    Prod.mk.inj (hpair.symm.trans (Except.ok.inj hdecode))
  have hback : (ecies.order - s : Int) = 1 := sub_sub_cancel _ _
  have hhigh : ¬ s ≤ ecies.halfOrder := by decide +kernel
  rw [hback, decide_eq_false hhigh] at hmirror
  obtain ⟨-, hmirrored, hrefused, haccepted⟩ := hmirror
  exact ⟨hmirrored, hrefused, haccepted⟩

end Signatures

/-! ## Encryption -/

section Encryption

variable {ecies : Ecies} {lib : CryptoLibraries}

/-- The hash function of a level makes digests that are as long as a coordinate of its curve. -/
def DigestsMatch (securityLevel : Int) (hashAlgorithm : String) : Prop :=
  if securityLevel = 256 then hashAlgorithm = "SHA2" ∨ hashAlgorithm = "SHA3"
  else hashAlgorithm ≠ "SHA2"

/-- A text of three parts is cut where the last two parts are cut. -/
theorem take_drop_parts {rb em mac : Bytes} {rbLen dLen : Nat} (hrb : rb.length = rbLen)
    (hlong : dLen ≤ (em ++ mac).length) :
    let cipherText := rb ++ em ++ mac
    let cut := cipherText.length - dLen
    cipherText.take rbLen = rb ∧
      (cipherText.take cut).drop rbLen = (em ++ mac).take ((em ++ mac).length - dLen) ∧
      cipherText.drop cut = (em ++ mac).drop ((em ++ mac).length - dLen) := by
  intro cipherText cut
  subst hrb
  have hcipherText : cipherText = rb ++ (em ++ mac) := List.append_assoc _ _ _
  have hcut : cut = rb.length + ((em ++ mac).length - dLen) := by
    simp only [cut, hcipherText, List.length_append] at hlong ⊢
    omega
  rw [hcut, hcipherText]
  refine ⟨List.take_left, ?_, List.drop_length_add_append _⟩
  rw [List.take_length_add_append, List.drop_left]

/-- The AES key that is derived has 32 bytes. -/
theorem length_deriveKeys {n : Nat} (laws : lib.Lawful n ecies.curve.keySize) (z : Bytes) :
    (ecies.deriveKeys lib z).1.length = 32 := by
  have hlen : 32 + 32 ≤ 255 * ecies.hash.digestSize := by cases ecies.hash <;> decide
  show ((lib.hkdfExpand ecies.hash z (32 + 32)).take 32).length = 32
  rw [List.length_take, laws.length_hkdfExpand _ _ _ hlen]
  rfl

/-- A text of three parts that ends in the MAC of the level is decrypted where the digests match,
and is refused otherwise: it is too short, or the MAC that is compared is cut off elsewhere. -/
theorem decrypt_parts {n : Nat} (laws : lib.Lawful n ecies.curve.keySize)
    {privateKey : lib.PrivateKey} {point : lib.PublicKey} {em : Bytes} :
    let keys := ecies.deriveKeys lib (lib.exchange privateKey point)
    let dLen := ecies.curve.keySize / 8
    let rbLen := (ecies.curve.keySize + 7) / 8 * 2 + 1
    let ctLen := rbLen + em.length + ecies.hash.digestSize
    ecies.decrypt lib ecies.curve.keySize privateKey
        (lib.encodePoint point ++ em ++ lib.hmac ecies.hash keys.2 em) =
      if ctLen ≤ rbLen + dLen then .error (illegalLength ctLen (rbLen + dLen))
      else if ecies.hash.digestSize = dLen then lib.aesCfbDecrypt keys.1 (em.take 16) (em.drop 16)
      else .error (.valueError "Hmac verify failed.") := by
  intro keys dLen rbLen ctLen
  have hrb := laws.length_encodePoint point
  have hmac := laws.length_hmac ecies.hash keys.2 em
  have hshift : ecies.curve.keySize >>> 3 = dLen := Nat.shiftRight_eq_div_pow _ 3
  generalize hmacOf : lib.hmac ecies.hash keys.2 em = mac at hmac ⊢
  have hlength : (lib.encodePoint point ++ em ++ mac).length = ctLen := by
    rw [List.length_append, List.length_append, hrb, hmac]
  unfold decrypt
  rw [if_neg (not_not_intro rfl), hshift]
  dsimp only
  rw [hlength]
  by_cases hshort : ctLen ≤ rbLen + dLen
  · rw [if_pos hshort, if_pos hshort]
  · rw [if_neg hshort, if_neg hshort]
    obtain ⟨htake, hem, hdrop⟩ := take_drop_parts hrb (show dLen ≤ (em ++ mac).length by
      rw [List.length_append, hmac]
      omega)
    rw [hlength] at hem hdrop
    rw [htake, hem, hdrop, laws.from_encodePoint point, ok_bind]
    show (if lib.hmac ecies.hash keys.2 ((em ++ mac).take ((em ++ mac).length - dLen)) ≠
        (em ++ mac).drop ((em ++ mac).length - dLen) then _ else _) = _
    by_cases hdigest : ecies.hash.digestSize = dLen
    · -- The MAC is cut off where it was appended.
      have hcut : (em ++ mac).length - dLen = em.length := by
        rw [List.length_append, hmac, hdigest, Nat.add_sub_cancel]
      rw [if_pos hdigest, hcut, List.take_left, List.drop_left, if_neg (not_not_intro hmacOf)]
    · -- The MAC that is computed has another length than what is cut off.
      have hdiffer : lib.hmac ecies.hash keys.2 ((em ++ mac).take ((em ++ mac).length - dLen)) ≠
          (em ++ mac).drop ((em ++ mac).length - dLen) := by
        intro hequal
        have hlengths := congrArg List.length hequal
        rw [laws.length_hmac, List.length_drop, List.length_append, hmac] at hlengths
        omega
      rw [if_neg hdigest, if_pos hdiffer]

/-- When the digests of a level match. -/
theorem digestSize_init (securityLevel : Int) (hashAlgorithm : String) :
    (init securityLevel hashAlgorithm).hash.digestSize =
        (init securityLevel hashAlgorithm).curve.keySize / 8 ↔
      DigestsMatch securityLevel hashAlgorithm := by
  unfold init DigestsMatch
  by_cases hlevel : securityLevel = 256 <;> by_cases hsha2 : hashAlgorithm = "SHA2" <;>
    by_cases hsha3 : hashAlgorithm = "SHA3" <;>
      simp [hlevel, hsha2, hsha3, HashFunction.digestSize, EllipticCurve.keySize]

/-- Which sizes there are where they do not match. -/
theorem sizes_of_not_digestsMatch {securityLevel : Int} {hashAlgorithm : String}
    (h : ¬ DigestsMatch securityLevel hashAlgorithm) :
    let ecies := init securityLevel hashAlgorithm
    hashAlgorithm = "SHA2" ∧ ecies.curve.keySize = 384 ∧ ecies.hash.digestSize = 32 ∨
      hashAlgorithm ≠ "SHA2" ∧ ecies.curve.keySize = 256 ∧ ecies.hash.digestSize = 48 := by
  unfold DigestsMatch at h
  unfold init
  by_cases hlevel : securityLevel = 256
  · rw [if_pos hlevel, not_or] at h
    obtain ⟨hsha2, hsha3⟩ := h
    exact .inr (by simp [hlevel, hsha2, hsha3, HashFunction.digestSize, EllipticCurve.keySize])
  · rw [if_neg hlevel, not_not] at h
    exact .inl (by simp [hlevel, h, HashFunction.digestSize, EllipticCurve.keySize])

/-- **What is encrypted is decrypted when the digests match**, to what was encrypted. Otherwise a
suite refuses its own cipher texts: that of an empty text at the level of 384 bits with SHA2 because
it is too short, every other because the MAC does not verify. -/
theorem decrypt_encrypt {securityLevel : Int} {hashAlgorithm : String}
    (hmade : ecies = init securityLevel hashAlgorithm)
    (laws : lib.Lawful ecies.order ecies.curve.keySize) (ephemeral : lib.PrivateKey) {iv : Bytes}
    (hiv : iv.length = 16) (privateKey : lib.PrivateKey) (plainText : Bytes) :
    let decrypted := ecies.decrypt lib ecies.curve.keySize privateKey
      (ecies.encrypt lib ephemeral iv (lib.publicKey privateKey) plainText)
    (DigestsMatch securityLevel hashAlgorithm → decrypted = .ok plainText) ∧
      (¬ DigestsMatch securityLevel hashAlgorithm → decrypted = .error
        (if hashAlgorithm = "SHA2" ∧ plainText = [] then illegalLength 145 145
        else .valueError "Hmac verify failed.")) := by
  intro decrypted
  have haes := length_deriveKeys laws (lib.exchange privateKey (lib.publicKey ephemeral))
  generalize hkeys : ecies.deriveKeys lib (lib.exchange privateKey (lib.publicKey ephemeral)) = keys
    at haes
  have hkey : keys.1.length ∈ [16, 24, 32] := by
    rw [haes]
    decide
  have hencrypted : ecies.encrypt lib ephemeral iv (lib.publicKey privateKey) plainText =
      lib.encodePoint (lib.publicKey ephemeral) ++
        (iv ++ lib.aesCfbEncrypt keys.1 iv plainText) ++
        lib.hmac ecies.hash keys.2 (iv ++ lib.aesCfbEncrypt keys.1 iv plainText) := by
    rw [encrypt, laws.exchange_comm, hkeys]
  have hparts := @decrypt_parts ecies lib _ laws privateKey (lib.publicKey ephemeral)
    (iv ++ lib.aesCfbEncrypt keys.1 iv plainText)
  dsimp only at hparts
  rw [hkeys, ← hencrypted, List.length_append, hiv, laws.length_aesCfbEncrypt _ _ _ hkey hiv,
    List.take_left' hiv, List.drop_left' hiv, laws.aesCfbDecrypt_encrypt _ _ _ hkey hiv] at hparts
  change decrypted = _ at hparts
  clear_value decrypted
  have hmatch := digestSize_init securityLevel hashAlgorithm
  rw [← hmade] at hmatch
  constructor
  · intro hmatches
    have hdigest := hmatch.mpr hmatches
    exact hparts.trans ((if_neg (by omega)).trans (if_pos hdigest))
  · intro hnot
    have hsizes := sizes_of_not_digestsMatch hnot
    rw [← hmade] at hsizes
    obtain ⟨hsha2, hkeySize, hdigest⟩ | ⟨hsha2, hkeySize, hdigest⟩ := hsizes
    · rw [hkeySize, hdigest] at hparts
      by_cases hempty : plainText = []
      · rw [if_pos ⟨hsha2, hempty⟩]
        subst hempty
        exact hparts
      · have hlong : ¬ 97 + (16 + plainText.length) + 32 ≤ 97 + 48 := by
          have hpos := List.length_pos_iff.mpr hempty
          omega
        rw [if_neg fun h => hempty h.2]
        exact hparts.trans (if_neg hlong)
    · rw [hkeySize, hdigest] at hparts
      rw [if_neg fun h => hsha2 h.1]
      exact hparts.trans (if_neg (by omega))

/-- At the default level a text is decrypted, and at that of 384 bits it is not. -/
theorem decrypt_encrypt_levels :
    (let ecies := init 256 "SHA2"
      let lib := modularLibraries256
      let alice : lib.PrivateKey := keyOf isComponent_order256_two
      ecies.decrypt lib 256 alice (ecies.encrypt lib keyMinusSix (List.replicate 16 7)
        (lib.publicKey alice) [42]) = .ok [42]) ∧
    (let ecies := init 384 "SHA2"
      let lib := modularLibraries384
      let alice : lib.PrivateKey := keyOf isComponent_order384_two
      ecies.decrypt lib 384 alice (ecies.encrypt lib alice (List.replicate 16 7)
        (lib.publicKey alice) [42]) = .error (.valueError "Hmac verify failed.")) := by
  constructor
  · exact (decrypt_encrypt rfl lawful_modularLibraries256 keyMinusSix List.length_replicate _
      [42]).1 (.inl rfl)
  · exact (decrypt_encrypt rfl lawful_modularLibraries384 _ List.length_replicate _ [42]).2
      (not_not_intro rfl)

end Encryption

end Ecies

end Snakeskin
