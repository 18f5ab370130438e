import Mathlib.Tactic.Common
import Mathlib.Algebra.Group.Nat.Defs

/-!
Segments of a memory. `overlay m a n src` is the memory `m` with the `n` cells
from `a` on replaced by `src`; copies, erasures and bitwise programming are all
overlays, and two memories are compared cell by cell.
-/
namespace Segment

variable {α : Type*}

def overlay (m : Nat → α) (a n : Nat) (src : Nat → α) : Nat → α :=
  fun x => if a ≤ x ∧ x < a + n then src (x - a) else m x

theorem overlay_inside (m : Nat → α) (a n : Nat) (src : Nat → α) (x : Nat)
    (ha : a ≤ x) (hx : x < a + n) : overlay m a n src x = src (x - a) :=
  if_pos ⟨ha, hx⟩

theorem overlay_outside (m : Nat → α) (a n : Nat) (src : Nat → α) (x : Nat)
    (h : x < a ∨ a + n ≤ x) : overlay m a n src x = m x :=
  if_neg (by omega)

theorem overlay_offset (m : Nat → α) (a n : Nat) (src : Nat → α) (i : Nat) (hi : i < n) :
    overlay m a n src (a + i) = src i := by
  rw [overlay_inside m a n src (a + i) (by omega) (by omega), Nat.add_sub_cancel_left]

theorem overlay_eq_of_eq (m m' : Nat → α) (a n : Nat) (src : Nat → α) (x : Nat)
    (h : m x = m' x) : overlay m a n src x = overlay m' a n src x := by
  rw [overlay, overlay, h]

theorem overlay_zero (m : Nat → α) (a : Nat) (src : Nat → α) : overlay m a 0 src = m := by
  funext x
  exact overlay_outside m a 0 src x (by omega)

theorem overlay_congr (m : Nat → α) (a n : Nat) (src src' : Nat → α)
    (h : ∀ i < n, src i = src' i) : overlay m a n src = overlay m a n src' := by
  funext x
  by_cases hx : a ≤ x ∧ x < a + n
  · rw [overlay_inside m a n src x hx.1 hx.2, overlay_inside m a n src' x hx.1 hx.2]
    exact h _ (by omega)
  · rw [overlay_outside m a n src x (by omega), overlay_outside m a n src' x (by omega)]

theorem overlay_self (m : Nat → α) (a n : Nat) (src : Nat → α)
    (h : ∀ i < n, src i = m (a + i)) : overlay m a n src = m := by
  funext x
  by_cases hx : a ≤ x ∧ x < a + n
  · rw [overlay_inside m a n src x hx.1 hx.2, h _ (by omega), Nat.add_sub_cancel' hx.1]
  · exact overlay_outside m a n src x (by omega)

theorem overlay_append (m : Nat → α) (a k n : Nat) (src : Nat → α) :
    overlay (overlay m a k src) (a + k) n (fun i => src (k + i)) =
      overlay m a (k + n) src := by
  funext x
  by_cases hx : a + k ≤ x ∧ x < a + k + n
  · rw [overlay_inside _ _ _ _ x hx.1 hx.2, overlay_inside m a (k + n) src x (by omega)
      (by omega)]
    congr 1
    omega
  · rw [overlay_outside _ _ _ _ x (by omega)]
    by_cases hk : a ≤ x ∧ x < a + k
    · rw [overlay_inside m a k src x hk.1 hk.2, overlay_inside m a (k + n) src x (by omega)
        (by omega)]
    · rw [overlay_outside m a k src x (by omega), overlay_outside m a (k + n) src x (by omega)]

theorem overlay_overlay_of_within (m : Nat → α) (a n b k : Nat) (src src' : Nat → α)
    (hb : b ≤ a) (hk : a + n ≤ b + k) :
    overlay (overlay m a n src) b k src' = overlay m b k src' := by
  funext x
  by_cases hx : b ≤ x ∧ x < b + k
  · rw [overlay_inside _ _ _ _ x hx.1 hx.2, overlay_inside m b k src' x hx.1 hx.2]
  · rw [overlay_outside _ _ _ _ x (by omega), overlay_outside m b k src' x (by omega),
      overlay_outside m a n src x (by omega)]

/-- An overlay inside a copy of the segment it is written back to is an overlay
of the original. -/
theorem overlay_copy (m : Nat → α) (b k a n : Nat) (src : Nat → α) (h : a + n ≤ k) :
    overlay m b k (overlay (fun i => m (b + i)) a n src) = overlay m (b + a) n src := by
  funext x
  by_cases hx : b ≤ x ∧ x < b + k
  · rw [overlay_inside _ _ _ _ x hx.1 hx.2]
    by_cases ha : b + a ≤ x ∧ x < b + a + n
    · rw [overlay_inside _ _ _ _ (x - b) (by omega) (by omega),
        overlay_inside _ _ _ _ x ha.1 ha.2]
      congr 1
      omega
    · rw [overlay_outside _ _ _ _ (x - b) (by omega), overlay_outside _ _ _ _ x (by omega),
        Nat.add_sub_cancel' hx.1]
  · rw [overlay_outside _ _ _ _ x (by omega), overlay_outside _ _ _ _ x (by omega)]

/-- An overlay inside an earlier one is an overlay of what that one put there. -/
theorem overlay_overlay_inside (m : Nat → α) (b k a n : Nat) (src src' : Nat → α)
    (h : a + n ≤ k) :
    overlay (overlay m b k src) (b + a) n src' = overlay m b k (overlay src a n src') := by
  rw [← overlay_copy (overlay m b k src) b k a n src' h,
    overlay_overlay_of_within m b k b k _ _ (Nat.le_refl _) (Nat.le_refl _)]
  apply overlay_congr
  intro i hi
  apply overlay_eq_of_eq
  exact overlay_offset m b k src i hi

theorem overlay_eq_overlay_iff (m : Nat → α) (a n : Nat) (src src' : Nat → α) :
    overlay m a n src = overlay m a n src' ↔ ∀ i < n, src i = src' i := by
  refine ⟨fun h i hi => ?_, overlay_congr m a n src src'⟩
  have hcell := congrFun h (a + i)
  rwa [overlay_offset _ _ _ _ i hi, overlay_offset _ _ _ _ i hi] at hcell

end Segment
