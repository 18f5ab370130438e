import Mathlib.Data.Fin.Basic
import Mathlib.Logic.Function.Basic
import Mathlib.Tactic.Common

/-!
Ring buffers. The queue that a ring stands for is what lies between its two indices, so one
slot is never used; adding and removing are those of the queue.
-/

/-- `n` slots with the index of the first used slot and that of the first free one. -/
structure RingBuffer (α : Type*) (n : Nat) where
  head : Fin n
  tail : Fin n
  data : Fin n → α

namespace RingBuffer

variable {α : Type*} {n : Nat}

/-- The slot `k` after `i`. -/
def shift (i : Fin n) (k : Nat) : Fin n := ⟨(i + k) % n, Nat.mod_lt _ i.pos⟩

def next (i : Fin n) : Fin n := shift i 1

def IsEmpty (r : RingBuffer α n) : Prop := r.head = r.tail

def IsFull (r : RingBuffer α n) : Prop := next r.tail = r.head

instance (r : RingBuffer α n) : Decidable r.IsEmpty := inferInstanceAs (Decidable (_ = _))
instance (r : RingBuffer α n) : Decidable r.IsFull := inferInstanceAs (Decidable (_ = _))

def length (r : RingBuffer α n) : Nat :=
  if r.head.val ≤ r.tail.val then r.tail.val - r.head.val else r.tail.val + n - r.head.val

def contents (r : RingBuffer α n) : List α :=
  (List.range r.length).map fun k => r.data (shift r.head k)

def push (r : RingBuffer α n) (a : α) : RingBuffer α n :=
  { r with data := Function.update r.data r.tail a, tail := next r.tail }

def pop (r : RingBuffer α n) : RingBuffer α n := { r with head := next r.head }

theorem val_shift (i : Fin n) (k : Nat) (hk : k < n) :
    (shift i k).val = if i.val + k < n then i.val + k else i.val + k - n := by
  have hi := i.isLt
  split
  · next h => exact Nat.mod_eq_of_lt h
  · next h =>
      calc (i.val + k) % n = (i.val + k - n) % n := Nat.mod_eq_sub_mod (Nat.le_of_not_lt h)
        _ = i.val + k - n := Nat.mod_eq_of_lt (by omega)

theorem val_next (i : Fin n) : (next i).val = if i.val + 1 = n then 0 else i.val + 1 := by
  have hi := i.isLt
  split
  · next h =>
      calc (i.val + 1) % n = n % n := congrArg (· % n) h
        _ = 0 := Nat.mod_self n
  · exact Nat.mod_eq_of_lt (by omega)

theorem shift_inj (i : Fin n) {k l : Nat} (hk : k < n) (hl : l < n)
    (h : shift i k = shift i l) : k = l := by
  have hi := i.isLt
  have hval := congrArg Fin.val h
  rw [val_shift i k hk, val_shift i l hl] at hval
  split at hval <;> split at hval <;> omega

theorem shift_next (i : Fin n) (k : Nat) : shift (next i) k = shift i (k + 1) := by
  apply Fin.ext
  rw [shift, shift, next, shift]
  dsimp only
  rw [Nat.mod_add_mod, Nat.add_assoc, Nat.add_comm 1 k]

variable (r : RingBuffer α n)

theorem length_lt : r.length < n := by
  have hhead := r.head.isLt
  have htail := r.tail.isLt
  rw [length]
  split <;> omega

theorem length_contents : r.contents.length = r.length := by
  rw [contents, List.length_map, List.length_range]

theorem isEmpty_iff : r.IsEmpty ↔ r.contents = [] := by
  have hhead := r.head.isLt
  rw [← List.length_eq_zero_iff, length_contents, IsEmpty, Fin.ext_iff, length]
  split <;> omega

theorem isFull_iff : r.IsFull ↔ r.contents.length + 1 = n := by
  have hhead := r.head.isLt
  have htail := r.tail.isLt
  rw [length_contents, IsFull, Fin.ext_iff, val_next, length]
  split <;> split <;> omega

theorem shift_length : shift r.head r.length = r.tail := by
  have hhead := r.head.isLt
  have htail := r.tail.isLt
  apply Fin.ext
  rw [val_shift _ _ r.length_lt, length]
  split <;> split <;> omega

theorem length_push (a : α) (h : ¬ r.IsFull) : (r.push a).length = r.length + 1 := by
  have hhead := r.head.isLt
  have htail := r.tail.isLt
  rw [isFull_iff, length_contents] at h
  rw [length] at h
  rw [length, length, push]
  dsimp only
  rw [val_next]
  split <;> split <;> split at h <;> split <;> omega

theorem contents_push (a : α) (h : ¬ r.IsFull) : (r.push a).contents = r.contents ++ [a] := by
  have hlast : (r.push a).data (shift r.head r.length) = a := by
    rw [shift_length]
    exact Function.update_self r.tail a r.data
  rw [contents, length_push r a h, List.range_succ, List.map_append, List.map_singleton]
  refine congrArg₂ (· ++ ·) (List.map_congr_left fun k hk => ?_) (congrArg List.singleton hlast)
  refine Function.update_of_ne (fun heq => ?_) a r.data
  have hlength := r.length_lt
  have hk := List.mem_range.mp hk
  have hsame := shift_inj r.head (by omega) hlength (heq.trans r.shift_length.symm)
  omega

theorem length_pop (h : ¬ r.IsEmpty) : r.length = r.pop.length + 1 := by
  have hhead := r.head.isLt
  have htail := r.tail.isLt
  rw [IsEmpty, Fin.ext_iff] at h
  rw [length, length, pop]
  dsimp only
  rw [val_next]
  split <;> split <;> split <;> omega

theorem contents_pop (h : ¬ r.IsEmpty) : r.contents = r.data r.head :: r.pop.contents := by
  have hfirst : shift r.head 0 = r.head :=
    Fin.ext (Nat.mod_eq_of_lt r.head.isLt)
  rw [contents, length_pop r h, List.range_succ_eq_map, List.map_cons, List.map_map, hfirst]
  refine congrArg (r.data r.head :: ·) (List.map_congr_left fun k _ => ?_)
  exact congrArg r.data (shift_next r.head k).symm

end RingBuffer
