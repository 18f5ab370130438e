import Mathlib.Data.List.Basic
import Mathlib.Tactic.Common
import Mathlib.Algebra.Group.Nat.Defs

/-!
Big-endian numbers stored as bytes, and the dependence of what is read on the
memory it is read from.
-/
namespace BigEndian

/-- The number a list of bytes spells, most significant byte first. -/
def value : List (BitVec 8) → Nat
  | [] => 0
  | b :: bs => b.toNat * 256 ^ bs.length + value bs

def bytesAt (mem : Nat → BitVec 8) (a : Nat) : Nat → List (BitVec 8)
  | 0 => []
  | n + 1 => mem a :: bytesAt mem (a + 1) n

@[simp] theorem length_bytesAt (mem : Nat → BitVec 8) (a n : Nat) :
    (bytesAt mem a n).length = n := by
  induction n generalizing a with
  | zero => rfl
  | succ n ih => rw [bytesAt, List.length_cons, ih]

theorem bytesAt_add (mem : Nat → BitVec 8) (a m n : Nat) :
    bytesAt mem a (m + n) = bytesAt mem a m ++ bytesAt mem (a + m) n := by
  induction m generalizing a with
  | zero => rw [Nat.zero_add, Nat.add_zero, bytesAt, List.nil_append]
  | succ m ih =>
      rw [Nat.add_right_comm, bytesAt, bytesAt, ih, List.cons_append, Nat.add_assoc a 1 m,
        Nat.add_comm 1 m]

theorem value_append (xs ys : List (BitVec 8)) :
    value (xs ++ ys) = value xs * 256 ^ ys.length + value ys := by
  induction xs with
  | nil => rw [List.nil_append, value, Nat.zero_mul, Nat.zero_add]
  | cons x xs ih =>
      rw [List.cons_append, value, value, ih, List.length_append, Nat.pow_add, Nat.add_mul,
        Nat.mul_assoc, Nat.add_assoc]

theorem value_lt (xs : List (BitVec 8)) : value xs < 256 ^ xs.length := by
  induction xs with
  | nil => exact Nat.one_pos
  | cons x xs ih =>
      have hx := x.isLt
      rw [value, List.length_cons, Nat.pow_succ]
      calc x.toNat * 256 ^ xs.length + value xs
          < x.toNat * 256 ^ xs.length + 256 ^ xs.length := Nat.add_lt_add_left ih _
        _ = (x.toNat + 1) * 256 ^ xs.length := by rw [Nat.add_mul, Nat.one_mul]
        _ ≤ 256 * 256 ^ xs.length := Nat.mul_le_mul_right _ (by omega)
        _ = 256 ^ xs.length * 256 := Nat.mul_comm _ _

/-- A number as `n` bytes. -/
def bytes : Nat → Nat → List (BitVec 8)
  | 0, _ => []
  | n + 1, v => BitVec.ofNat 8 (v / 256 ^ n) :: bytes n v

@[simp] theorem length_bytes (n v : Nat) : (bytes n v).length = n := by
  induction n with
  | zero => rfl
  | succ n ih => rw [bytes, List.length_cons, ih]

theorem value_bytes_mod (n v : Nat) : value (bytes n v) = v % 256 ^ n := by
  induction n with
  | zero => rw [bytes, value, Nat.pow_zero, Nat.mod_one]
  | succ n ih =>
      have hsplit : v % (256 ^ n * 256) = v % 256 ^ n + 256 ^ n * (v / 256 ^ n % 256) :=
        Nat.mod_mul
      rw [bytes, value, ih, length_bytes, BitVec.toNat_ofNat, Nat.pow_succ 256, hsplit,
        Nat.add_comm, Nat.mul_comm (256 ^ n)]

theorem value_bytes {n v : Nat} (h : v < 256 ^ n) : value (bytes n v) = v := by
  rw [value_bytes_mod, Nat.mod_eq_of_lt h]

/-- Two memories hold the same bytes in `[a, b)`. -/
def AgreeOn (mem mem' : Nat → BitVec 8) (a b : Nat) : Prop :=
  ∀ x, a ≤ x → x < b → mem x = mem' x

theorem agreeOn_sub {mem mem' : Nat → BitVec 8} {a b c d : Nat} (h : AgreeOn mem mem' a b)
    (hlow : a ≤ c) (hhigh : d ≤ b) : AgreeOn mem mem' c d := by
  intro x hx hx'
  exact h x (Nat.le_trans hlow hx) (Nat.lt_of_lt_of_le hx' hhigh)

end BigEndian
