import FdtBusPkg.Base
import Mathlib.Tactic.Common

/-!
Delays in ticks. `MultThenDivU64x64x32` multiplies and divides without a 128-bit
product: a product that does not fit is halved, and the quotients and remainders of
the halves are put together again.
-/
namespace FdtBusPkg

/-- `DivU64x32Remainder`, with the remainder. -/
def divU64x32Remainder (dividend : U64) (divisor : U32) : U64 × U32 :=
  (dividend / divisor.setWidth 64, (dividend % divisor.setWidth 64).setWidth 32)

/-- `Multiplicand` and `Multiplier` once the bigger of them is the former. -/
def biggerFirst (multiplicand multiplier : U64) : U64 × U64 :=
  if multiplicand < multiplier then (multiplier, multiplicand) else (multiplicand, multiplier)

theorem pos_of_overflow (multiplicand multiplier : U64)
    (h : multiplicand > MAX_UINT64 / multiplier) : 0 < multiplicand.toNat :=
  Nat.lt_of_le_of_lt (Nat.zero_le _) h

theorem toNat_halved (x : U64) : (x >>> 1).toNat = x.toNat / 2 := by
  rw [BitVec.toNat_ushiftRight, Nat.shiftRight_eq_div_pow, Nat.pow_one]

theorem halved_lt (multiplicand multiplier : U64) (h : multiplicand > MAX_UINT64 / multiplier) :
    ((biggerFirst multiplicand multiplier).1 >>> 1).toNat +
      (biggerFirst multiplicand multiplier).2.toNat < multiplicand.toNat + multiplier.toNat := by
  have hpos := pos_of_overflow multiplicand multiplier h
  rw [toNat_halved, biggerFirst]
  split
  · next hlt =>
    have hlt : multiplicand.toNat < multiplier.toNat := hlt
    dsimp only
    omega
  · dsimp only
    omega

/-- What an odd `Multiplicand` adds to its doubled half. -/
def oddPart (divisor : U32) (ordered : U64 × U64) : U64 × U32 :=
  if ordered.1 &&& 1 = 1 then divU64x32Remainder ordered.2 divisor else (0, 0)

/-- `MultThenDivU64x64x32`, with the remainder. -/
def multThenDivU64x64x32 (multiplicand multiplier : U64) (divisor : U32) : U64 × U32 :=
  if multiplicand > MAX_UINT64 / multiplier then
    let ordered := biggerFirst multiplicand multiplier
    let half := multThenDivU64x64x32 (ordered.1 >>> 1) ordered.2 divisor
    let odd := oddPart divisor ordered
    let last := divU64x32Remainder (odd.2.setWidth 64 + half.2.setWidth 64 <<< 1) divisor
    (half.1 <<< 1 + odd.1 + last.1, last.2)
  else
    divU64x32Remainder (multiplicand * multiplier) divisor
termination_by multiplicand.toNat + multiplier.toNat
decreasing_by exact halved_lt multiplicand multiplier ‹_›

/-- No call divides by a `Multiplier` of zero, and neither a product nor a sum of
remainders that a call forms exceeds 64 bits. -/
def LosesNoBits (multiplicand multiplier : U64) (divisor : U32) : Prop :=
  multiplier ≠ 0 ∧
    if multiplicand > MAX_UINT64 / multiplier then
      let ordered := biggerFirst multiplicand multiplier
      let half := multThenDivU64x64x32 (ordered.1 >>> 1) ordered.2 divisor
      let odd := oddPart divisor ordered
      odd.2.toNat + 2 * half.2.toNat < 2 ^ 64 ∧ LosesNoBits (ordered.1 >>> 1) ordered.2 divisor
    else
      multiplicand.toNat * multiplier.toNat < 2 ^ 64
termination_by multiplicand.toNat + multiplier.toNat
decreasing_by exact halved_lt multiplicand multiplier ‹_›

/-- The quotient modulo `2 ^ 64` and the remainder of the exact product. -/
def DividedExactly (multiplicand multiplier : U64) (divisor : U32) : Prop :=
  (multThenDivU64x64x32 multiplicand multiplier divisor).1.toNat =
      multiplicand.toNat * multiplier.toNat / divisor.toNat % 2 ^ 64 ∧
    (multThenDivU64x64x32 multiplicand multiplier divisor).2.toNat =
      multiplicand.toNat * multiplier.toNat % divisor.toNat

section Recombine

variable (x y d : Nat)

theorem two_mul_add_eq :
    2 * x + y = (y % d + 2 * (x % d)) + d * (2 * (x / d) + y / d) := by
  have hx := Nat.div_add_mod x d
  have hy := Nat.div_add_mod y d
  rw [Nat.mul_add, Nat.mul_left_comm]
  omega

/-- Quotients and remainders of a doubled number and of another, put together. -/
theorem two_mul_add_div (hd : 0 < d) :
    (2 * x + y) / d = 2 * (x / d) + y / d + (y % d + 2 * (x % d)) / d := by
  rw [two_mul_add_eq x y d, Nat.add_mul_div_left _ _ hd, Nat.add_comm]

theorem two_mul_add_mod : (2 * x + y) % d = (y % d + 2 * (x % d)) % d := by
  rw [two_mul_add_eq x y d, Nat.add_mul_mod_self_left]

end Recombine

variable (divisor : U32)

theorem fst_divU64x32Remainder (dividend : U64) :
    (divU64x32Remainder dividend divisor).1.toNat = dividend.toNat / divisor.toNat := by
  have hlt := divisor.isLt
  rw [divU64x32Remainder, BitVec.toNat_udiv, BitVec.toNat_setWidth,
    Nat.mod_eq_of_lt (by omega)]

theorem snd_divU64x32Remainder (dividend : U64) (hpos : 0 < divisor.toNat) :
    (divU64x32Remainder dividend divisor).2.toNat = dividend.toNat % divisor.toNat := by
  have hlt := divisor.isLt
  have hrem := Nat.mod_lt dividend.toNat hpos
  rw [divU64x32Remainder, BitVec.toNat_setWidth, BitVec.toNat_umod, BitVec.toNat_setWidth,
    Nat.mod_eq_of_lt (by omega : divisor.toNat < 2 ^ 64), Nat.mod_eq_of_lt (by omega)]

theorem biggerFirst_mul (multiplicand multiplier : U64) :
    (biggerFirst multiplicand multiplier).1.toNat * (biggerFirst multiplicand multiplier).2.toNat =
      multiplicand.toNat * multiplier.toNat := by
  rw [biggerFirst]
  split
  · exact Nat.mul_comm _ _
  · rfl

theorem biggerFirst_ne_zero (multiplicand multiplier : U64)
    (h : multiplicand > MAX_UINT64 / multiplier) (hmultiplier : multiplier ≠ 0) :
    (biggerFirst multiplicand multiplier).2 ≠ 0 := by
  have hpos := pos_of_overflow multiplicand multiplier h
  rw [biggerFirst]
  split
  · intro hzero
    rw [show multiplicand = 0 from hzero] at hpos
    exact absurd hpos (by decide)
  · exact hmultiplier

theorem mul_lt_of_not_overflow (multiplicand multiplier : U64)
    (h : ¬ multiplicand > MAX_UINT64 / multiplier) (hmultiplier : multiplier ≠ 0) :
    multiplicand.toNat * multiplier.toNat < 2 ^ 64 := by
  have hpos : 0 < multiplier.toNat :=
    Nat.pos_of_ne_zero fun hzero => hmultiplier (BitVec.eq_of_toNat_eq hzero)
  have hle : multiplicand.toNat ≤ (2 ^ 64 - 1) / multiplier.toNat := by
    have hle := BitVec.not_lt.mp h
    rwa [BitVec.le_def, BitVec.toNat_udiv] at hle
  have hmul := (Nat.le_div_iff_mul_le hpos).mp hle
  omega

theorem oddPart_spec (ordered : U64 × U64) (hpos : 0 < divisor.toNat) :
    (oddPart divisor ordered).1.toNat = ordered.1.toNat % 2 * ordered.2.toNat / divisor.toNat ∧
      (oddPart divisor ordered).2.toNat =
        ordered.1.toNat % 2 * ordered.2.toNat % divisor.toNat := by
  have hbit : (ordered.1 &&& 1).toNat = ordered.1.toNat % 2 := by
    rw [BitVec.toNat_and, show (1 : U64).toNat = 1 from rfl, Nat.and_one_is_mod]
  rw [oddPart]
  split
  · next hodd =>
    rw [hodd] at hbit
    rw [← hbit, show (1 : U64).toNat = 1 from rfl, Nat.one_mul]
    exact ⟨fst_divU64x32Remainder divisor _, snd_divU64x32Remainder divisor _ hpos⟩
  · next heven =>
    have hzero : ordered.1.toNat % 2 = 0 := by
      by_contra hne
      exact heven (BitVec.eq_of_toNat_eq (by rw [hbit]; show _ = 1; omega))
    rw [hzero, Nat.zero_mul, Nat.zero_div, Nat.zero_mod]
    exact ⟨rfl, rfl⟩

section Exact

variable {divisor : U32} (multiplicand multiplier : U64) (hpos : 0 < divisor.toNat)
include hpos

theorem divided_of_fits (h : ¬ multiplicand > MAX_UINT64 / multiplier)
    (hmultiplier : multiplier ≠ 0) : DividedExactly multiplicand multiplier divisor := by
  have hproduct := mul_lt_of_not_overflow multiplicand multiplier h hmultiplier
  have hmul : (multiplicand * multiplier).toNat = multiplicand.toNat * multiplier.toNat := by
    rw [BitVec.toNat_mul, Nat.mod_eq_of_lt hproduct]
  constructor
  · rw [multThenDivU64x64x32, if_neg h, fst_divU64x32Remainder, hmul, Nat.mod_eq_of_lt]
    exact Nat.lt_of_le_of_lt (Nat.div_le_self _ _) hproduct
  · rw [multThenDivU64x64x32, if_neg h, snd_divU64x32Remainder _ _ hpos, hmul]

/-- The product is `2 * (half of one factor * the other)`, and the other factor once more
when the first is odd. -/
theorem divided_of_half (h : multiplicand > MAX_UINT64 / multiplier)
    (hhalf : DividedExactly ((biggerFirst multiplicand multiplier).1 >>> 1)
      (biggerFirst multiplicand multiplier).2 divisor) :
    DividedExactly multiplicand multiplier divisor := by
  have hlt := divisor.isLt
  have hmul := biggerFirst_mul multiplicand multiplier
  generalize hordered : biggerFirst multiplicand multiplier = ordered at hhalf hmul
  obtain ⟨hoddDiv, hoddMod⟩ := oddPart_spec divisor ordered hpos
  obtain ⟨hdiv, hmod⟩ := hhalf
  rw [toNat_halved] at hdiv hmod
  have hsplit : multiplicand.toNat * multiplier.toNat =
      2 * (ordered.1.toNat / 2 * ordered.2.toNat) + ordered.1.toNat % 2 * ordered.2.toNat := by
    rw [← hmul, ← Nat.mul_assoc, ← Nat.add_mul, Nat.div_add_mod]
  have hhalfLt := Nat.mod_lt (ordered.1.toNat / 2 * ordered.2.toNat) hpos
  have hoddLt := Nat.mod_lt (ordered.1.toNat % 2 * ordered.2.toNat) hpos
  have hsum : ((oddPart divisor ordered).2.setWidth 64 +
      (multThenDivU64x64x32 (ordered.1 >>> 1) ordered.2 divisor).2.setWidth 64 <<< 1 : U64).toNat =
        ordered.1.toNat % 2 * ordered.2.toNat % divisor.toNat +
          2 * (ordered.1.toNat / 2 * ordered.2.toNat % divisor.toNat) := by
    rw [BitVec.toNat_add, BitVec.toNat_shiftLeft, BitVec.toNat_setWidth, BitVec.toNat_setWidth,
      hoddMod, hmod, Nat.shiftLeft_eq]
    omega
  constructor
  · rw [multThenDivU64x64x32, if_pos h, hordered, BitVec.toNat_add, BitVec.toNat_add,
      BitVec.toNat_shiftLeft, hdiv, fst_divU64x32Remainder, hsum, hoddDiv, hsplit,
      two_mul_add_div _ _ _ hpos, Nat.shiftLeft_eq]
    omega
  · rw [multThenDivU64x64x32, if_pos h, hordered]
    dsimp only
    rw [snd_divU64x32Remainder _ _ hpos, hsum, hsplit, two_mul_add_mod]

theorem dividedExactly (hmultiplier : multiplier ≠ 0) :
    DividedExactly multiplicand multiplier divisor := by
  induction multiplicand, multiplier using multThenDivU64x64x32.induct divisor with
  | case1 multiplicand multiplier hover ordered ih =>
      exact divided_of_half multiplicand multiplier hpos hover
        (ih (biggerFirst_ne_zero multiplicand multiplier hover hmultiplier))
  | case2 multiplicand multiplier hfits =>
      exact divided_of_fits multiplicand multiplier hpos hfits hmultiplier

theorem losesNoBits (hmultiplier : multiplier ≠ 0) :
    LosesNoBits multiplicand multiplier divisor := by
  have hlt := divisor.isLt
  induction multiplicand, multiplier using multThenDivU64x64x32.induct divisor with
  | case1 multiplicand multiplier hover ordered ih =>
      have hne := biggerFirst_ne_zero multiplicand multiplier hover hmultiplier
      obtain ⟨-, hodd⟩ := oddPart_spec divisor (biggerFirst multiplicand multiplier) hpos
      obtain ⟨-, hhalf⟩ := dividedExactly ((biggerFirst multiplicand multiplier).1 >>> 1)
        (biggerFirst multiplicand multiplier).2 hpos hne
      rw [LosesNoBits, if_pos hover]
      dsimp only
      rw [hodd, hhalf]
      have hoddLt := Nat.mod_lt ((biggerFirst multiplicand multiplier).1.toNat % 2 *
        (biggerFirst multiplicand multiplier).2.toNat) hpos
      have hhalfLt := Nat.mod_lt (((biggerFirst multiplicand multiplier).1 >>> 1).toNat *
        (biggerFirst multiplicand multiplier).2.toNat) hpos
      exact ⟨hmultiplier, by omega, ih hne⟩
  | case2 multiplicand multiplier hfits =>
      rw [LosesNoBits, if_neg hfits]
      exact ⟨hmultiplier, mul_lt_of_not_overflow multiplicand multiplier hfits hmultiplier⟩

end Exact

/-- The product is divided exactly, whatever the operands, and no bit of the remainder is
lost on the way. -/
theorem multThenDivU64x64x32_exact (multiplicand multiplier : U64) (divisor : U32)
    (hmultiplier : multiplier ≠ 0) (hdivisor : divisor ≠ 0) :
    DividedExactly multiplicand multiplier divisor ∧
      LosesNoBits multiplicand multiplier divisor := by
  have hpos : 0 < divisor.toNat :=
    Nat.pos_of_ne_zero fun hzero => hdivisor (BitVec.eq_of_toNat_eq hzero)
  exact ⟨dividedExactly multiplicand multiplier hpos hmultiplier,
    losesNoBits multiplicand multiplier hpos hmultiplier⟩

/-- The greatest factors, with the divisor of `PollReg`. -/
theorem multThenDivU64x64x32_exact_max :
    DividedExactly MAX_UINT64 MAX_UINT64 10000000 ∧
      LosesNoBits MAX_UINT64 MAX_UINT64 10000000 :=
  multThenDivU64x64x32_exact MAX_UINT64 MAX_UINT64 10000000 (by decide) (by decide)

end FdtBusPkg
