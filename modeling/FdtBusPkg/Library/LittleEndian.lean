import FdtBusPkg.Library.Segment

/-!
Little-endian numbers in a memory, and records of them. A record is a set of fields at
fixed offsets; setting a field is read back, and leaves the fields beside it alone. The
16-bit words of a record are summed for its checksum.
-/
namespace LittleEndian

/-- The number that `n` bytes spell, least significant byte first. -/
def value (mem : Nat → BitVec 8) (a : Nat) : Nat → Nat
  | 0 => 0
  | n + 1 => (mem a).toNat + 256 * value mem (a + 1) n

/-- Store the `n` low-order bytes of a number. -/
def store (mem : Nat → BitVec 8) (a n x : Nat) : Nat → BitVec 8 :=
  Segment.overlay mem a n (fun i => BitVec.ofNat 8 (x / 256 ^ i))

theorem value_lt (mem : Nat → BitVec 8) (a n : Nat) : value mem a n < 256 ^ n := by
  induction n generalizing a with
  | zero => exact Nat.one_pos
  | succ n ih =>
      have hrest := ih (a + 1)
      have hbyte := (mem a).isLt
      rw [value, Nat.pow_succ]
      omega

theorem value_congr (mem mem' : Nat → BitVec 8) (a a' n : Nat)
    (h : ∀ i < n, mem (a + i) = mem' (a' + i)) : value mem a n = value mem' a' n := by
  induction n generalizing a a' with
  | zero => rfl
  | succ n ih =>
      have hfirst := h 0 (Nat.succ_pos n)
      rw [Nat.add_zero, Nat.add_zero] at hfirst
      rw [value, value, hfirst, ih (a + 1) (a' + 1)]
      intro i hi
      have hnext := h (i + 1) (by omega)
      rwa [Nat.add_right_comm, Nat.add_right_comm a']

theorem value_of_bytes (mem : Nat → BitVec 8) (a n x : Nat)
    (h : ∀ i < n, mem (a + i) = BitVec.ofNat 8 (x / 256 ^ i)) :
    value mem a n = x % 256 ^ n := by
  induction n generalizing a x with
  | zero => rw [value, Nat.pow_zero, Nat.mod_one]
  | succ n ih =>
      have hfirst := h 0 (Nat.succ_pos n)
      rw [Nat.add_zero, Nat.pow_zero, Nat.div_one] at hfirst
      rw [value, hfirst, BitVec.toNat_ofNat, ih (a + 1) (x / 256)]
      · have hpow : 256 ^ (n + 1) = 256 * 256 ^ n := Nat.pow_succ'
        rw [hpow, Nat.mod_mul]
      · intro i hi
        have hnext := h (i + 1) (by omega)
        rw [← Nat.add_assoc, Nat.add_right_comm] at hnext
        rw [hnext, Nat.pow_succ, Nat.mul_comm, Nat.div_div_eq_div_mul]

theorem value_store (mem : Nat → BitVec 8) (a n x : Nat) :
    value (store mem a n x) a n = x % 256 ^ n := by
  apply value_of_bytes
  intro i hi
  exact Segment.overlay_offset _ _ _ _ i hi

theorem value_store_of_disjoint (mem : Nat → BitVec 8) (a n x b k : Nat)
    (h : b + k ≤ a ∨ a + n ≤ b) : value (store mem a n x) b k = value mem b k := by
  apply value_congr
  intro i hi
  exact Segment.overlay_outside _ _ _ _ _ (by omega)

/-- A field of a record: its offset and its width in bytes. -/
structure Field where
  offset : Nat
  bytes : Nat
  deriving DecidableEq, Repr

namespace Field

def get (mem : Nat → BitVec 8) (base : Nat) (field : Field) : Nat :=
  value mem (base + field.offset) field.bytes

def set (record : Nat → BitVec 8) (field : Field) (x : Nat) : Nat → BitVec 8 :=
  store record field.offset field.bytes x

def Apart (f g : Field) : Prop := f.offset + f.bytes ≤ g.offset ∨ g.offset + g.bytes ≤ f.offset

instance (f g : Field) : Decidable (Apart f g) := inferInstanceAs (Decidable (_ ∨ _))

theorem get_set_self (record : Nat → BitVec 8) (field : Field) (x : Nat) :
    get (set record field x) 0 field = x % 256 ^ field.bytes := by
  rw [get, Nat.zero_add, set, value_store]

theorem get_set_of_apart (record : Nat → BitVec 8) (f g : Field) (x : Nat) (h : Apart f g) :
    get (set record g x) 0 f = get record 0 f := by
  rw [get, get, Nat.zero_add, set, value_store_of_disjoint _ _ _ _ _ _ h]

theorem get_congr (mem mem' : Nat → BitVec 8) (base base' : Nat) (field : Field)
    (h : ∀ i < field.offset + field.bytes, mem (base + i) = mem' (base' + i)) :
    get mem base field = get mem' base' field := by
  apply value_congr
  intro i hi
  rw [Nat.add_assoc, Nat.add_assoc]
  exact h _ (by omega)

end Field

/-- The sum of `n` words of two bytes each. -/
def wordSum (mem : Nat → BitVec 8) (a : Nat) : Nat → Nat
  | 0 => 0
  | n + 1 => wordSum mem a n + value mem (a + 2 * n) 2

theorem wordSum_congr (mem mem' : Nat → BitVec 8) (a a' n : Nat)
    (h : ∀ i < 2 * n, mem (a + i) = mem' (a' + i)) : wordSum mem a n = wordSum mem' a' n := by
  induction n with
  | zero => rfl
  | succ n ih =>
      rw [wordSum, wordSum, ih (fun i hi => h i (by omega)),
        value_congr mem mem' (a + 2 * n) (a' + 2 * n) 2]
      intro i hi
      rw [Nat.add_assoc, Nat.add_assoc]
      exact h _ (by omega)

theorem wordSum_set_of_le (record : Nat → BitVec 8) (field : Field) (x n : Nat)
    (h : 2 * n ≤ field.offset) :
    wordSum (field.set record x) 0 n = wordSum record 0 n := by
  apply wordSum_congr
  intro i hi
  rw [Field.set, store]
  exact Segment.overlay_outside _ _ _ _ _ (by omega)

theorem wordSum_store (mem : Nat → BitVec 8) (n k x : Nat) (hk : k < n) :
    wordSum (store mem (2 * k) 2 x) 0 n + value mem (2 * k) 2 =
      wordSum mem 0 n + x % 256 ^ 2 := by
  induction n with
  | zero => omega
  | succ n ih =>
      rw [wordSum, wordSum, Nat.zero_add]
      rcases Nat.lt_succ_iff_lt_or_eq.mp hk with hlt | rfl
      · have hrest := ih hlt
        rw [value_store_of_disjoint _ _ _ _ _ _ (by omega)]
        omega
      · have hsame : wordSum (store mem (2 * k) 2 x) 0 k = wordSum mem 0 k := by
          apply wordSum_congr
          intro i hi
          exact Segment.overlay_outside _ _ _ _ _ (by omega)
        rw [value_store, hsame]
        omega

end LittleEndian
