import FilterQuery.Request.Value
import Mathlib.Algebra.GroupWithZero.Nat

/-!
# Whole numbers as floats

A whole number that the signed range does not hold becomes a float, and one that is finite: what 64 bits
hold is far from the largest exponent. The bounds below are crude. Rounding shifts the mantissa twice, and
neither shift brings the exponent further up than the bits of the mantissa allow.
-/

namespace FilterQuery

open Float.Model (Format totalExponent UnpackedFloat)
open Float.Model.UnpackedFloat

theorem mantissa_repeat_le (em : ExtendedMantissa) (count : Nat) :
    (count.repeat ExtendedMantissa.shiftRightOne em).mantissa ≤ em.mantissa := by
  induction count with
  | zero => exact Nat.le_refl _
  | succ count ih => exact Nat.le_trans (Nat.div_le_self _ 2) ih

theorem mantissa_ofMantissaAndAccuracy (mantissa : Nat) (accuracy : Accuracy) :
    (ExtendedMantissa.ofMantissaAndAccuracy mantissa accuracy).mantissa = mantissa := by
  rcases accuracy with - | relative
  · rfl
  · cases relative with
    | _ => rfl

theorem roundedMantissa_le (em : ExtendedMantissa) : em.roundedMantissa ≤ em.mantissa + 1 := by
  rcases em with ⟨mantissa, roundBit, stickyBit⟩
  have hparity : mantissa % 2 < 2 := Nat.mod_lt _ (by decide)
  cases roundBit with
  | false =>
      cases stickyBit with
      | _ => exact Nat.le_succ mantissa
  | true =>
      cases stickyBit with
      | false => exact Nat.add_le_add_left (Nat.le_of_lt_succ hparity) mantissa
      | true => exact Nat.le_refl _

section Bounds

variable {mantissa bits : Nat} {exponent bound : Int}

theorem targetExponent_le (hmantissa : mantissa < 2 ^ bits) (hbits : 53 ≤ bits)
    (hexponent : exponent ≤ bound) (hbound : 0 ≤ bound) :
    Format.binary64.targetExponent (totalExponent mantissa exponent) ≤ bits - 53 + bound := by
  have hlog : mantissa.log2 < bits := by
    by_cases hzero : mantissa = 0
    · rw [hzero, Nat.log2_zero]
      omega
    · exact (Nat.log2_lt hzero).2 hmantissa
  change max ((mantissa.log2 : Int) + 1 + exponent - 53) (-1074) ≤ bits - 53 + bound
  omega

theorem shiftToTargetExponent_le (accuracy : Accuracy) (hmantissa : mantissa < 2 ^ bits)
    (hbits : 53 ≤ bits) (hexponent : exponent ≤ bound) (hbound : 0 ≤ bound) :
    (shiftToTargetExponent Format.binary64 mantissa exponent accuracy).1.mantissa ≤ mantissa ∧
      (shiftToTargetExponent Format.binary64 mantissa exponent accuracy).2 ≤ bits - 53 + bound := by
  have htarget := targetExponent_le hmantissa hbits hexponent hbound
  constructor
  · refine Nat.le_trans (mantissa_repeat_le _ _) (Nat.le_of_eq ?_)
    rw [mantissa_ofMantissaAndAccuracy]
  · rw [shiftToTargetExponent, shiftToExponent]
    omega

end Bounds

/-- Zero, or a number whose exponent is far from the largest. -/
def Moderate : UnpackedFloat → Prop
  | .zero _ => True
  | .finite _ _ exponent _ => exponent ≤ 900
  | _ => False

theorem moderate_roundWithAccuracy (sign : Sign) {mantissa : Nat} {exponent : Int}
    (accuracy : Accuracy) (hmantissa : mantissa < 2 ^ 116) (hexponent : exponent ≤ 0) :
    Moderate (roundWithAccuracy Format.binary64 sign mantissa exponent accuracy) := by
  obtain ⟨hshrunk, hfirst⟩ :=
    shiftToTargetExponent_le accuracy hmantissa (by decide) hexponent (Int.le_refl 0)
  rw [roundWithAccuracy]
  generalize shiftToTargetExponent Format.binary64 mantissa exponent accuracy = shifted
    at hshrunk hfirst ⊢
  rcases shifted with ⟨em, exponent'⟩
  dsimp only at hshrunk hfirst ⊢
  have hrounded : em.roundedMantissa < 2 ^ 117 := by
    have hle := roundedMantissa_le em
    omega
  have hsecond := (shiftToTargetExponent_le .exact hrounded (by decide) hfirst (by decide)).2
  generalize shiftToTargetExponent Format.binary64 em.roundedMantissa exponent' .exact = final
    at hsecond ⊢
  by_cases hzero : final.1.mantissa = 0
  · rw [dif_pos hzero]
    exact trivial
  · rw [dif_neg hzero]
    exact Int.le_trans hsecond (by decide)

theorem moderate_round (sign : Sign) {mantissa : Nat} (hmantissa : mantissa < 2 ^ 64) :
    Moderate (UnpackedFloat.round Format.binary64 sign mantissa 0) := by
  have htarget : -52 ≤ Format.binary64.targetExponent (totalExponent mantissa 0) := by
    change -52 ≤ max ((mantissa.log2 : Int) + 1 + 0 - 53) (-1074)
    omega
  generalize htargetEq : Format.binary64.targetExponent (totalExponent mantissa 0) = target
    at htarget
  have hcount : (0 - target).toNat ≤ 52 := by omega
  have hshifted : mantissa <<< (0 - target).toNat < 2 ^ 116 := by
    rw [Nat.shiftLeft_eq]
    calc mantissa * 2 ^ (0 - target).toNat
        < 2 ^ 64 * 2 ^ (0 - target).toNat :=
          Nat.mul_lt_mul_of_pos_right hmantissa (Nat.two_pow_pos _)
      _ ≤ 2 ^ 64 * 2 ^ 52 := Nat.mul_le_mul_left _ (Nat.pow_le_pow_right (by decide) hcount)
      _ = 2 ^ 116 := by decide
  rw [UnpackedFloat.round, htargetEq]
  exact moderate_roundWithAccuracy sign .exact hshifted (by omega)

theorem moderate_ofUInt64 (n : UInt64) : Moderate (ofUInt64 Format.binary64 n) := by
  have hlt : n.toNat < 2 ^ 64 := n.toNat_lt
  change Moderate (UnpackedFloat.normalize Format.binary64 (n.toNat : Int) 0 .positive)
  rw [UnpackedFloat.normalize]
  split
  · exact moderate_round _ (by omega)
  · exact trivial
  · exact moderate_round _ hlt

theorem isFinite_unpack {b : BitVec Format.binary64.numBits} (h : unpackExponent b ≠ -1#11) :
    (UnpackedFloat.unpack Format.binary64 b).isFinite = true := by
  change (if unpackExponent b = -1#11 then _
    else if unpackExponent b = 0#11 then (if hzero : unpackMantissa b = 0#52 then _ else _)
    else _ : UnpackedFloat).isFinite = true
  rw [if_neg h]
  by_cases hexponent : unpackExponent b = 0#11
  · rw [if_pos hexponent]
    by_cases hzero : unpackMantissa b = 0#52
    · rw [dif_pos hzero]
      rfl
    · rw [dif_neg hzero]
      rfl
  · rw [if_neg hexponent]
    rfl

/-- The largest exponent is kept for what is not finite. -/
theorem unpackExponent_pack_ne {f : UnpackedFloat} (h : Moderate f) :
    unpackExponent (UnpackedFloat.pack Format.binary64 f) ≠ -1#11 := by
  cases f with
  | infinity sign => exact absurd h id
  | notANumber => exact absurd h id
  | zero sign =>
      change unpackExponent (packComponents Format.binary64 sign 0 0) ≠ -1#11
      rw [unpackExponent_packComponents]
      decide
  | finite sign mantissa exponent hpos =>
      have hle : exponent ≤ 900 := h
      have hroom : ¬2 ^ 11 ≤ (exponent + 1023 + 52).toNat + 1 := by omega
      change @unpackExponent Format.binary64 (if 2 ^ 11 ≤ (exponent + 1023 + 52).toNat + 1 then _
        else if mantissa.log2 + 1 = 53 then _ else _) ≠ -1#11
      rw [if_neg hroom]
      by_cases hnormal : mantissa.log2 + 1 = 53
      · rw [if_pos hnormal, unpackExponent_packComponents]
        intro heq
        have hvalue : (exponent + 1023 + 52).toNat % 2048 = 2047 := congrArg BitVec.toNat heq
        omega
      · rw [if_neg hnormal, unpackExponent_packComponents]
        decide

theorem isFinite_toFloat (n : UInt64) : n.toFloat.isFinite = true :=
  isFinite_unpack (unpackExponent_pack_ne (moderate_ofUInt64 n))

end FilterQuery
