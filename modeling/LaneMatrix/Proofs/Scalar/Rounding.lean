import Mathlib

/-!
# Values that rounding leaves alone

A binary format keeps a value as a pattern of a sign, an exponent and a mantissa. A finite value
that is read from a pattern has the exponent that rounding aims at, so it is rounded to itself in
whatever way it is written. Zeros, infinities and what is not a number are not rounded at all,
and reading what was kept of them gives them back. What rounding makes of any other value is not
looked at.
-/

namespace LaneMatrix

namespace Binary

open Float.Model (Format UnpackedFloat totalExponent)
open Float.Model.UnpackedFloat

theorem minExponent_eq (fmt : Format) :
    fmt.minExponent = 1 - (fmt.exponentBias + fmt.mantissaBitsWithoutImplicit) := by
  have hpow : 0 < 2 ^ (fmt.exponentBits - 1) := Nat.two_pow_pos _
  have hcast : ((2 ^ (fmt.exponentBits - 1) : Nat) : Int) = 2 ^ (fmt.exponentBits - 1) :=
    Int.natCast_pow 2 _
  rw [Format.minExponent, Format.exponentBias, Format.mantissaBits]
  omega

theorem log2_one_append {w : Nat} (v : BitVec w) : (1#1 ++ v).toNat.log2 = w := by
  have hv := v.isLt
  have hone : (1#1 ++ v).toNat = 2 ^ w + v.toNat := by
    rw [BitVec.toNat_append, ← Nat.shiftLeft_add_eq_or_of_lt hv, Nat.shiftLeft_eq,
      BitVec.toNat_ofNat, Nat.mod_eq_of_lt (by decide), Nat.one_mul]
  rw [Nat.log2_eq_iff (by omega), Nat.pow_succ]
  omega

theorem toNat_ne_zero {w : Nat} {v : BitVec w} (h : v ≠ 0#w) : v.toNat ≠ 0 := by
  rwa [BitVec.toNat_ne, BitVec.toNat_zero] at h

theorem log2_lt_width {w : Nat} {v : BitVec w} (h : v ≠ 0#w) : v.toNat.log2 < w :=
  (Nat.log2_lt (toNat_ne_zero h)).2 v.isLt

/-- The exponent of a value that is read from a pattern is the one that rounding aims at. -/
theorem targetExponent_of_unpack {fmt : Format} {b : BitVec fmt.numBits} {s : Sign} {n : Nat}
    {x : Int} {hn : 0 < n} (h : unpack fmt b = .finite s n x hn) :
    fmt.targetExponent (totalExponent n x) = x := by
  rw [Format.targetExponent, totalExponent, minExponent_eq, Format.mantissaBits]
  revert h
  fun_cases unpack with
  | case1 => nofun
  | case2 => nofun
  | case3 => nofun
  | case4 mantissa exponent place _ _ _ hexponent hmantissa =>
    -- A subnormal value has the least exponent and fewer digits than the mantissa has room for.
    rw [UnpackedFloat.finite.injEq]
    rintro ⟨-, rfl, rfl⟩
    have hplace : place = exponent.toNat - (fmt.exponentBias + fmt.mantissaBitsWithoutImplicit) :=
      rfl
    have hzero : exponent.toNat = 0 := by rw [hexponent, BitVec.toNat_zero]
    have hlog := log2_lt_width hmantissa
    omega
  | case5 mantissa exponent place _ _ _ hexponent =>
    rw [UnpackedFloat.finite.injEq]
    rintro ⟨-, rfl, rfl⟩
    have hplace : place = exponent.toNat - (fmt.exponentBias + fmt.mantissaBitsWithoutImplicit) :=
      rfl
    have hpos : exponent.toNat ≠ 0 := toNat_ne_zero hexponent
    have hlog := log2_one_append mantissa
    omega

/-- Shifting out zeros loses nothing. -/
theorem repeat_shiftRightOne (m k : Nat) :
    k.repeat ExtendedMantissa.shiftRightOne ⟨m * 2 ^ k, false, false⟩ = ⟨m, false, false⟩ := by
  induction k generalizing m with
  | zero => rw [Nat.repeat, Nat.pow_zero, Nat.mul_one]
  | succ k ih =>
    have hm : m * 2 ^ (k + 1) = (m * 2) * 2 ^ k := by rw [Nat.pow_succ', Nat.mul_assoc]
    rw [Nat.repeat, hm, ih]
    simp [ExtendedMantissa.shiftRightOne]

theorem log2_mul_two_pow {n : Nat} (hn : 0 < n) (k : Nat) :
    (n * 2 ^ k).log2 = n.log2 + k := by
  induction k with
  | zero => rw [Nat.pow_zero, Nat.mul_one, Nat.add_zero]
  | succ k ih =>
    have hpos : n * 2 ^ k ≠ 0 := Nat.ne_of_gt (Nat.mul_pos hn (Nat.two_pow_pos k))
    rw [Nat.pow_succ', Nat.mul_left_comm, Nat.log2_two_mul hpos, ih, Nat.add_assoc]

/-- A value with the exponent that rounding aims at is rounded to itself, however it is
written. -/
theorem roundWithAccuracy_of_target {fmt : Format} {s : Sign} {n : Nat} {x : Int} {hn : 0 < n}
    (k : Nat) (h : fmt.targetExponent (totalExponent n x) = x) :
    roundWithAccuracy fmt s (n * 2 ^ k) (x - k) .exact = .finite s n x hn := by
  have hshift : ∀ j : Nat,
      shiftToTargetExponent fmt (n * 2 ^ j) (x - j) .exact = (⟨n, false, false⟩, x) := by
    intro j
    have htotal : totalExponent (n * 2 ^ j) (x - j) = totalExponent n x := by
      rw [totalExponent, totalExponent, log2_mul_two_pow hn]
      omega
    have hj : (x - (x - j)).toNat = j := by omega
    simp only [shiftToTargetExponent, htotal, h, shiftToExponent, hj,
      ExtendedMantissa.ofMantissaAndAccuracy]
    exact Prod.ext (repeat_shiftRightOne n j) (Int.sub_add_cancel x j)
  have hstay : shiftToTargetExponent fmt n x .exact = (⟨n, false, false⟩, x) := by
    have h0 := hshift 0
    rwa [Nat.pow_zero, Nat.mul_one, Int.natCast_zero, Int.sub_zero] at h0
  simp only [roundWithAccuracy, hshift, ExtendedMantissa.roundedMantissa,
    ExtendedMantissa.accuracy, Accuracy.roundToNearestEven, hstay]
  rw [dif_neg (Nat.ne_of_gt hn)]

/-- The values that no rounding can touch. -/
inductive Special : UnpackedFloat → Prop where
  | infinity (s : Sign) : Special (.infinity s)
  | notANumber : Special .notANumber
  | zero (s : Sign) : Special (.zero s)

theorem unpack_packedInfinity (fmt : Format) (s : Sign) :
    unpack fmt (packedInfinity fmt s) = .infinity s := by
  simp [unpack, packedInfinity]

theorem unpack_pack_of_special {fmt : Format} {u : UnpackedFloat} (h : Special u) :
    unpack fmt (pack fmt u) = u := by
  cases h with
  | infinity s => exact unpack_packedInfinity fmt s
  | notANumber => exact unpack_packedNaN
  | zero s => exact unpack_packedZero

end Binary

end LaneMatrix
