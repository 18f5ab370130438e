import Mathlib.Tactic.Common
import Mathlib.Algebra.Group.Nat.Defs

/-!
Low-order bit masks on machine words: `x &&& (2 ^ k - 1)` is the offset within
an aligned unit, clearing the mask rounds down to the unit, and setting it moves
to the unit's last element.
-/
namespace Align

variable {w : Nat}

/-- The word with its `k` low-order bits set. -/
def lowMask (w k : Nat) : BitVec w := BitVec.ofNat w (2 ^ k - 1)

theorem toNat_and_lowMask (x : BitVec w) (k : Nat) (hk : k ≤ w) :
    (x &&& lowMask w k).toNat = x.toNat % 2 ^ k := by
  have hlt : 2 ^ k - 1 < 2 ^ w :=
    Nat.lt_of_lt_of_le (Nat.sub_lt (Nat.two_pow_pos k) Nat.one_pos)
      (Nat.pow_le_pow_right (by omega) hk)
  rw [BitVec.toNat_and, lowMask, BitVec.toNat_ofNat, Nat.mod_eq_of_lt hlt,
    Nat.and_two_pow_sub_one_eq_mod]

theorem toNat_and_not_lowMask (x : BitVec w) (k : Nat) (hk : k ≤ w) :
    (x &&& ~~~ lowMask w k).toNat = x.toNat - x.toNat % 2 ^ k := by
  have hdisjoint : (x &&& ~~~ lowMask w k) &&& (x &&& lowMask w k) = 0#w := by
    ext i
    simp
    cases x[i] <;> simp
  have hsplit : (x &&& ~~~ lowMask w k) ||| (x &&& lowMask w k) = x := by
    ext i
    simp
    cases x[i] <;> cases (lowMask w k)[i] <;> rfl
  have hsum := BitVec.toNat_add_of_and_eq_zero hdisjoint
  rw [BitVec.add_eq_or_of_and_eq_zero _ _ hdisjoint, hsplit, toNat_and_lowMask x k hk] at hsum
  omega

theorem toNat_or_lowMask (x : BitVec w) (k : Nat) (hk : k ≤ w) :
    (x ||| lowMask w k).toNat = x.toNat - x.toNat % 2 ^ k + (2 ^ k - 1) := by
  have hdisjoint : (x &&& ~~~ lowMask w k) &&& lowMask w k = 0#w := by
    ext i
    simp
  have hsplit : (x &&& ~~~ lowMask w k) ||| lowMask w k = x ||| lowMask w k := by
    ext i
    simp
    cases x[i] <;> cases (lowMask w k)[i] <;> rfl
  have hmask : (lowMask w k).toNat = 2 ^ k - 1 := by
    rw [lowMask, BitVec.toNat_ofNat]
    refine Nat.mod_eq_of_lt (Nat.lt_of_lt_of_le (Nat.sub_lt (Nat.two_pow_pos k) Nat.one_pos) ?_)
    exact Nat.pow_le_pow_right (by omega) hk
  have hsum := BitVec.toNat_add_of_and_eq_zero hdisjoint
  rw [BitVec.add_eq_or_of_and_eq_zero _ _ hdisjoint, hsplit, toNat_and_not_lowMask x k hk,
    hmask] at hsum
  exact hsum

end Align
