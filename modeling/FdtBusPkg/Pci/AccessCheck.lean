import FdtBusPkg.Pci.RootBridge
import FdtBusPkg.DtBus.RegisterWindow
import FdtBusPkg.Library.Align

/-!
The checks every root bridge access makes before its window is looked at, in
exact arithmetic: the extent fits, the address is aligned, and the end of the
access is below the top of the address space.
-/
namespace FdtBusPkg

theorem bytes_eq_two_pow (w : DtIoWidth) : w.bytes = 2 ^ (w.index &&& 3) := by
  cases w <;> rfl

theorem index_lt_maximum (w : DtIoWidth) (h : w ≠ .maximum) :
    ¬ w.index ≥ DtIoWidth.maximum.index := by
  cases w <;> first | exact absurd rfl h | decide

theorem toNat_ofNat_bytes (w : DtIoWidth) : (BitVec.ofNat 64 w.bytes).toNat = w.bytes := by
  have hle := w.bytes_le
  rw [BitVec.toNat_ofNat]
  omega

theorem address_aligned_iff (w : DtIoWidth) (address : U64) :
    ¬ address &&& (BitVec.ofNat 64 w.bytes - 1) ≠ 0 ↔ address.toNat % w.bytes = 0 := by
  have hmask : BitVec.ofNat 64 w.bytes - 1 = Align.lowMask 64 (w.index &&& 3) := by
    cases w <;> rfl
  have hzero : (0 : U64).toNat = 0 := rfl
  have hbits : w.index &&& 3 ≤ 64 := by
    cases w <;> decide
  rw [not_not, hmask, BitVec.toNat_eq, hzero, Align.toNat_and_lowMask _ _ hbits,
    ← bytes_eq_two_pow]

/-- Elements counted by the checks: one for a register that is read repeatedly. -/
theorem checkedCount_mul_bytes (w : DtIoWidth) (count : Uintn) :
    (if w.IsFifo then 1 else count).toNat * w.bytes = regExtent w count := by
  have hone : (1 : U64).toNat = 1 := rfl
  rw [regExtent]
  split
  · rw [hone, Nat.one_mul]
  · rfl

section Check

variable (bridge : PciRootBridge) (operation : OperationType) (width : DtIoWidth)
  (address : U64) (count : Uintn)

theorem countTooLarge_iff :
    ((if width.IsFifo then 1 else count) > MAX_UINT64 / BitVec.ofNat 64 width.bytes) ↔
      2 ^ 64 ≤ regExtent width count := by
  have hmax : MAX_UINT64.toNat = 2 ^ 64 - 1 := rfl
  have hpos := width.bytes_pos
  rw [gt_iff_lt, BitVec.lt_def, BitVec.toNat_udiv, toNat_ofNat_bytes, hmax,
    Nat.div_lt_iff_lt_mul hpos, checkedCount_mul_bytes]
  omega

theorem checkedLength_eq :
    (if width.IsFifo then 1 else count) * BitVec.ofNat 64 width.bytes =
      BitVec.ofNat 64 (regExtent width count) := by
  apply BitVec.eq_of_toNat_eq
  rw [BitVec.toNat_mul, toNat_ofNat_bytes, checkedCount_mul_bytes, BitVec.toNat_ofNat]

theorem endTooLarge_iff (hfits : regExtent width count < 2 ^ 64) :
    (address > MAX_UINT64 - BitVec.ofNat 64 (regExtent width count)) ↔
      2 ^ 64 ≤ address.toNat + regExtent width count := by
  have hmax : MAX_UINT64.toNat = 2 ^ 64 - 1 := rfl
  have haddress := address.isLt
  rw [gt_iff_lt, BitVec.lt_def, BitVec.toNat_sub, hmax, BitVec.toNat_ofNat]
  omega

/-- What is misaligned or reaches the top of the address space is rejected. -/
theorem checkParameter_rejects (hwidth : width ≠ .maximum)
    (h : ¬ (address.toNat % width.bytes = 0 ∧
      address.toNat + regExtent width count < 2 ^ 64)) :
    ∃ err, rootBridgeIoCheckParameter bridge operation width address count true =
      .error err := by
  simp only [rootBridgeIoCheckParameter, if_neg (index_lt_maximum width hwidth), Bool.not_true,
    Bool.and_false, Bool.false_eq_true, if_false, countTooLarge_iff, checkedLength_eq]
  by_cases hlarge : 2 ^ 64 ≤ regExtent width count
  · rw [if_pos hlarge]
    exact ⟨_, rfl⟩
  rw [if_neg hlarge]
  by_cases haligned : address &&& (BitVec.ofNat 64 width.bytes - 1) ≠ 0
  · rw [if_pos haligned]
    exact ⟨_, rfl⟩
  rw [if_neg haligned, if_pos]
  · exact ⟨_, rfl⟩
  · rw [endTooLarge_iff width address count (Nat.lt_of_not_le hlarge)]
    by_contra hend
    exact h ⟨(address_aligned_iff width address).mp haligned, by omega⟩

theorem checkParameter_passes (hwidth : width ≠ .maximum)
    (haligned : address.toNat % width.bytes = 0)
    (hend : address.toNat + regExtent width count < 2 ^ 64) :
    rootBridgeIoCheckParameter bridge operation width address count true =
      match accessWindow bridge operation address (BitVec.ofNat 64 (regExtent width count)) with
      | .error e => .error e
      | .ok (address, base, limit, reg) =>
        if address < base then
          .error .invalidParameter
        else if address + BitVec.ofNat 64 (regExtent width count) > limit + 1 then
          .error .invalidParameter
        else
          .ok reg := by
  have hlarge : ¬ 2 ^ 64 ≤ regExtent width count := by
    omega
  have htop : ¬ address > MAX_UINT64 - BitVec.ofNat 64 (regExtent width count) := by
    rw [endTooLarge_iff width address count (Nat.lt_of_not_le hlarge)]
    omega
  cases hwindow : accessWindow bridge operation address
      (BitVec.ofNat 64 (regExtent width count)) <;>
    simp only [rootBridgeIoCheckParameter, if_neg (index_lt_maximum width hwidth), Bool.not_true,
      Bool.and_false, Bool.false_eq_true, if_false, countTooLarge_iff, checkedLength_eq,
      if_neg hlarge, if_neg ((address_aligned_iff width address).mpr haligned), if_neg htop,
      hwindow]

end Check

end FdtBusPkg
