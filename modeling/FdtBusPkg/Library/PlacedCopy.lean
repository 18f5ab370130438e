import Mathlib.Logic.Function.Basic
import Mathlib.Data.Set.Function
import Mathlib.Order.Interval.Set.Basic

/-!
Runs of cells of a memory, given by the place of each of their elements, and
copies of one run to another through a buffer. Nothing is assumed of how the two
runs lie to each other.
-/
namespace PlacedCopy

variable {ι β : Type*}

/-- Element `k` of the buffer is the cell at `place k`, for the first `n`. -/
def load (place : Nat → ι) (n : Nat) (memory : ι → β) (buffer : Nat → β) : Nat → β :=
  fun k => if k < n then memory (place k) else buffer k

/-- The cells at `place 0`, …, `place (n - 1)` are overwritten in this order. -/
def store [DecidableEq ι] (place : Nat → ι) (buffer : Nat → β) :
    Nat → (ι → β) → ι → β
  | 0, memory => memory
  | n + 1, memory => Function.update (store place buffer n memory) (place n) (buffer n)

theorem load_of_lt (place : Nat → ι) {n : Nat} (memory : ι → β) (buffer : Nat → β)
    {k : Nat} (hk : k < n) : load place n memory buffer k = memory (place k) :=
  if_pos hk

variable [DecidableEq ι] (place : Nat → ι) (buffer : Nat → β)

theorem store_outside (n : Nat) (memory : ι → β) (i : ι) (hi : ∀ k < n, place k ≠ i) :
    store place buffer n memory i = memory i := by
  induction n with
  | zero => rfl
  | succ n ih =>
      have hlast : i ≠ place n := (hi n n.lt_succ_self).symm
      rw [store, Function.update_of_ne hlast]
      exact ih (fun k hk => hi k (Nat.lt_succ_of_lt hk))

theorem store_inside (n : Nat) (memory : ι → β) (hplace : Set.InjOn place (Set.Iio n))
    {k : Nat} (hk : k < n) : store place buffer n memory (place k) = buffer k := by
  induction n with
  | zero => exact absurd hk k.not_lt_zero
  | succ n ih =>
      rw [store]
      by_cases heq : k = n
      · rw [heq, Function.update_self]
      · have hlt : k < n := by omega
        have hne : place k ≠ place n := fun h => heq (hplace hk n.lt_succ_self h)
        rw [Function.update_of_ne hne]
        exact ih (hplace.mono (Set.Iio_subset_Iio n.le_succ)) hlt

/-- A load followed by a store moves the contents the source run had before. -/
theorem store_load_inside (source : Nat → ι) (n : Nat) (memory : ι → β)
    (hplace : Set.InjOn place (Set.Iio n)) {k : Nat} (hk : k < n) :
    store place (load source n memory buffer) n memory (place k) = memory (source k) := by
  rw [store_inside place _ n memory hplace hk, load_of_lt source memory buffer hk]

end PlacedCopy
