import Mathlib.Algebra.Module.Basic
import Mathlib.Data.ZMod.Basic

/-! # ECDSA

Signatures over a group whose scalars are the numbers modulo an order. A signature is a pair of
numbers: a coordinate of a random point, and a combination of the nonce, the key and what is signed.

* `Ecdsa` — the points, with a base point and a coordinate that a point shares with its negative.
* `smul_publicKey_comm` — two parties agree on a point by their public keys.
* `verifies_sign` — what is signed with a key verifies under its public key.
* `verifies_mirror` — a signature verifies exactly when it does with its second component negated,
  so every signature has a mirror image. -/

/-- What ECDSA needs of a curve. -/
structure Ecdsa (n : ℕ) (G : Type*) [AddCommGroup G] [Module (ZMod n) G] where
  base : G
  coordinate : G → ZMod n
  coordinate_neg : ∀ p, coordinate (-p) = coordinate p

namespace Ecdsa

/-- A component of a signature: a number between zero and the order that is invertible modulo it, as
each is modulo a prime. -/
def IsComponent (n : ℕ) (a : ℤ) : Prop := 0 < a ∧ a < n ∧ a.gcd n = 1

instance (n : ℕ) (a : ℤ) : Decidable (IsComponent n a) :=
  inferInstanceAs (Decidable (0 < a ∧ a < n ∧ a.gcd n = 1))

section Components

variable {n : ℕ} {a : ℤ}

/-- A component has an inverse. -/
theorem IsComponent.mul_inv (h : IsComponent n a) : (a : ZMod n) * (a : ZMod n)⁻¹ = 1 := by
  obtain ⟨hpos, -, hgcd⟩ := h
  obtain ⟨m, rfl⟩ := Int.eq_ofNat_of_zero_le hpos.le
  rw [Int.cast_natCast]
  exact ZMod.coe_mul_inv_eq_one m hgcd

/-- The inverse of a component is what it gives one with. -/
theorem IsComponent.inv_eq (h : IsComponent n a) {w : ZMod n} (hw : (a : ZMod n) * w = 1) :
    (a : ZMod n)⁻¹ = w := by
  calc (a : ZMod n)⁻¹ = (a : ZMod n)⁻¹ * ((a : ZMod n) * w) := by rw [hw, mul_one]
    _ = (a : ZMod n) * (a : ZMod n)⁻¹ * w := by rw [← mul_assoc, mul_comm (a : ZMod n)⁻¹]
    _ = w := by rw [h.mul_inv, one_mul]

/-- What is left to the order is a component as well. -/
theorem isComponent_mirror : IsComponent n (n - a) ↔ IsComponent n a := by
  have hgcd : ((n : ℤ) - a).gcd n = a.gcd n := by
    rw [Int.gcd_comm, Int.gcd_self_sub_right, Int.gcd_comm]
  unfold IsComponent
  rw [hgcd]
  constructor
  · rintro ⟨hlow, hhigh, hinv⟩
    exact ⟨by omega, by omega, hinv⟩
  · rintro ⟨hlow, hhigh, hinv⟩
    exact ⟨by omega, by omega, hinv⟩

/-- Modulo the order it is the negative. -/
theorem cast_mirror : ((n - a : ℤ) : ZMod n) = -(a : ZMod n) := by
  rw [Int.cast_sub, Int.cast_natCast, ZMod.natCast_self, zero_sub]

/-- The inverse of the negative is the negative inverse. -/
theorem IsComponent.inv_mirror (h : IsComponent n a) :
    ((n - a : ℤ) : ZMod n)⁻¹ = -(a : ZMod n)⁻¹ := by
  refine (isComponent_mirror.mpr h).inv_eq ?_
  rw [cast_mirror, neg_mul_neg, h.mul_inv]

end Components

variable {n : ℕ} {G : Type*} [AddCommGroup G] [Module (ZMod n) G] (curve : Ecdsa n G)

/-- The public key of a private key. -/
def publicKey (d : ZMod n) : G := d • curve.base

/-- Two parties that know each other's public key share a point. -/
theorem smul_publicKey_comm (a b : ZMod n) :
    a • curve.publicKey b = b • curve.publicKey a := by
  rw [publicKey, publicKey, smul_comm]

/-- The public key of a component is not the zero of the group, where the base point is not. -/
theorem publicKey_ne_zero [NeZero n] (hbase : curve.base ≠ 0) {d : ZMod n}
    (hd : IsComponent n d.val) : curve.publicKey d ≠ 0 := by
  intro hzero
  have hinv := hd.mul_inv
  rw [Int.cast_natCast, ZMod.natCast_zmod_val] at hinv
  apply hbase
  calc curve.base = (d⁻¹ * d) • curve.base := by rw [mul_comm, hinv, one_smul]
    _ = d⁻¹ • curve.publicKey d := mul_smul _ _ _
    _ = 0 := by rw [hzero, smul_zero]

/-- A signature of `z` with the key `d` and the nonce `k`. -/
def sign (d k z : ZMod n) : ZMod n × ZMod n :=
  let r := curve.coordinate (k • curve.base)
  (r, k⁻¹ * (z + r * d))

/-- A nonce that a signature can be made with. -/
def Suitable (d k z : ZMod n) : Prop :=
  IsComponent n k.val ∧ IsComponent n (curve.sign d k z).1.val ∧
    IsComponent n (curve.sign d k z).2.val

/-- The point whose coordinate is the first component of a signature that verifies. -/
def point (q : G) (z : ZMod n) (r s : ℤ) : G :=
  (s : ZMod n)⁻¹ • (z • curve.base + (r : ZMod n) • q)

/-- A signature verifies under a public key. -/
def Verifies (q : G) (z : ZMod n) (r s : ℤ) : Prop :=
  IsComponent n r ∧ IsComponent n s ∧ curve.coordinate (curve.point q z r s) = r

instance (q : G) (z : ZMod n) (r s : ℤ) : Decidable (curve.Verifies q z r s) :=
  inferInstanceAs (Decidable (_ ∧ _ ∧ _))

/-- **A signature verifies** under the public key of the key that made it. -/
theorem verifies_sign [NeZero n] {d k z : ZMod n} (h : curve.Suitable d k z) :
    curve.Verifies (curve.publicKey d) z (curve.sign d k z).1.val (curve.sign d k z).2.val := by
  obtain ⟨hk, hr, hs⟩ := h
  refine ⟨hr, hs, ?_⟩
  have hcast : ∀ a : ZMod n, ((a.val : ℤ) : ZMod n) = a := by
    intro a
    rw [Int.cast_natCast, ZMod.natCast_zmod_val]
  have hkinv := hk.mul_inv
  have hsinv := hs.mul_inv
  rw [hcast] at hkinv hsinv
  rw [point, hcast, hcast, publicKey, smul_smul, ← add_smul, smul_smul]
  -- The second component times the nonce is what the base point is multiplied with.
  have hproduct : k * (curve.sign d k z).2 = z + (curve.sign d k z).1 * d := by
    rw [sign, ← mul_assoc, hkinv, one_mul]
  have hscalar : (curve.sign d k z).2⁻¹ * (z + (curve.sign d k z).1 * d) = k := by
    rw [← hproduct, mul_left_comm, mul_comm _ (curve.sign d k z).2, hsinv, mul_one]
  rw [hscalar, sign]

/-- Negating the second component negates the point. -/
theorem point_mirror (q : G) (z : ZMod n) (r : ℤ) {s : ℤ} (hs : IsComponent n s) :
    curve.point q z r (n - s) = -curve.point q z r s := by
  rw [point, hs.inv_mirror, neg_smul, point]

/-- **Signatures come in pairs**: one verifies exactly when its mirror image does. -/
theorem verifies_mirror (q : G) (z : ZMod n) (r s : ℤ) :
    curve.Verifies q z r (n - s) ↔ curve.Verifies q z r s := by
  unfold Verifies
  rw [isComponent_mirror]
  refine and_congr_right fun _ => and_congr_right fun hs => ?_
  rw [curve.point_mirror q z r hs, curve.coordinate_neg]

end Ecdsa
