import FdtBusPkg.Pci.BusNumbers
import FdtBusPkg.Pci.Proposed
import FdtBusPkg.Pci.Routing
import FdtBusPkg.Pci.SearchExact

/-!
Searches far from the end of the address space. While apertures, lengths and alignments stay
below a quarter of it no sum overflows, and what a search asks for lies in its aperture, at
device addresses that the translation of the aperture gives back.
-/
namespace FdtBusPkg

def smallLimit : Nat := 2 ^ 62

/-- An aperture that is absent, or present and small on both of its sides. -/
def DtRange.Small (range : DtRange) : Prop :=
  (range.rb = 0 ∧ range.rt = 0 ∧ range.length = 0) ∨
    (range.valid = true ∧ range.rb.toNat + range.length.toNat ≤ smallLimit ∧
      (range.rb - range.rt).toNat + range.length.toNat ≤ smallLimit)

instance (range : DtRange) : Decidable range.Small := inferInstanceAs (Decidable (_ ∨ _))

section Search

variable (q : ApertureSearch) (length x : U64)

/-- Small sums do not overflow, so all a search asks for lies between its bounds. -/
theorem within_of_asks (hbits : q.bitsOfAlignment.toNat < 64)
    (hlimit : q.limit.toNat < smallLimit) (hlength : length.toNat ≤ smallLimit)
    (h : q.Asks length x) :
    q.baseAddress.toNat ≤ x.toNat ∧ x.toNat + length.toNat ≤ q.limit.toNat + 1 := by
  have hsmall : smallLimit = 2 ^ 62 := rfl
  obtain ⟨hlt, hvisits⟩ := h
  rw [BitVec.lt_def] at hlt
  have hstep : q.step.toNat ≤ 2 ^ 63 := by
    rw [q.toNat_step hbits]
    exact Nat.pow_le_pow_right (by decide) (Nat.le_of_lt_succ hbits)
  have hpos := q.step_pos hbits
  obtain ⟨hbase, hnear⟩ : q.baseAddress.toNat ≤ q.start.toNat ∧
      q.start.toNat < q.baseAddress.toNat + q.step.toNat := by
    rcases q.start_cases hbits with hstart | ⟨-, hover⟩
    · exact hstart
    · omega
  have hlast : q.lastEnd = q.limit.toNat + 1 := by
    have hone : (1 : U64).toNat = 1 := rfl
    rw [ApertureSearch.lastEnd, BitVec.toNat_add, hone, Nat.mod_eq_of_lt (by omega)]
  have hfirst : q.firstEnd length = q.start.toNat + length.toNat := by
    rw [ApertureSearch.firstEnd, BitVec.toNat_add, Nat.mod_eq_of_lt (by omega)]
  have hstops : q.Stops length := by
    have hexists : ∃ k, q.lastEnd < q.firstEnd length + k * q.step.toNat := by
      refine ⟨q.lastEnd + 1, ?_⟩
      have hmul : (q.lastEnd + 1) * 1 ≤ (q.lastEnd + 1) * q.step.toNat :=
        Nat.mul_le_mul_left _ hpos
      omega
    refine ⟨Nat.find hexists, Nat.find_spec hexists, ?_⟩
    cases hk : Nat.find hexists with
    | zero => omega
    | succ k =>
        have hbefore := Nat.find_min hexists (m := k) (by omega)
        rw [Nat.add_mul, Nat.one_mul]
        omega
  obtain ⟨k, hk, rfl⟩ := q.tries_of_visits length hstops x hvisits
  have hwalk : ((· + q.step)^[k] q.start).toNat = q.start.toNat + k * q.step.toNat := by
    rw [ApertureSearch.toNat_iterate_add, Nat.mod_eq_of_lt (by omega)]
  omega

theorem toNat_ALIGN_VALUE {value alignment : U64} (hvalue : value.toNat ≤ smallLimit)
    (halignment : alignment.toNat < smallLimit) :
    value.toNat ≤ (ALIGN_VALUE value (alignment + 1)).toNat ∧
      (ALIGN_VALUE value (alignment + 1)).toNat ≤ value.toNat + alignment.toNat := by
  have hsmall : smallLimit = 2 ^ 62 := rfl
  have hmask : alignment + 1 - 1 = alignment := BitVec.add_sub_cancel alignment 1
  have hoffset : ((alignment + 1 - value) &&& alignment).toNat ≤ alignment.toNat := by
    rw [BitVec.toNat_and]
    exact Nat.and_le_right
  rw [ALIGN_VALUE, hmask, BitVec.toNat_add, Nat.mod_eq_of_lt (by omega)]
  omega

end Search

section Aperture

variable {range : DtRange} {node : PciResNode}

/-- The last address of an aperture that stays small when it is shifted. -/
theorem limit_of_small (shift : U64) (hvalid : range.valid = true)
    (hdevice : range.rb.toNat + range.length.toNat ≤ smallLimit)
    (hhost : (range.rb - shift).toNat + range.length.toNat ≤ smallLimit) :
    (range.rl - shift).toNat + 1 = (range.rb - shift).toNat + range.length.toNat := by
  have hsmall : smallLimit = 2 ^ 62 := rfl
  have hone : (1 : U64).toNat = 1 := rfl
  have hpos := length_pos_of_valid range hvalid
  have hend := toNat_rl_add_one range
  rw [BitVec.toNat_add, hone, Nat.mod_eq_of_lt (by omega)] at hend
  have hlimit := range.rl.isLt
  have hshift := shift.isLt
  rw [BitVec.toNat_sub] at hhost
  rw [BitVec.toNat_sub, BitVec.toNat_sub]
  omega

theorem absent_of_asks (q : ApertureSearch) (length x : U64) (hbits : q.bitsOfAlignment.toNat < 64)
    (hbase : q.baseAddress.toNat ≤ smallLimit) (hlimit : q.limit = MAX_UINT64)
    (hlength : 0 < length.toNat ∧ length.toNat ≤ smallLimit) : ¬ q.Asks length x := by
  have hsmall : smallLimit = 2 ^ 62 := rfl
  rintro ⟨-, k, -, hinside⟩
  have hfirst := hinside 0 (Nat.zero_le k)
  have hzero : (q.limit + 1).toNat = 0 := by
    rw [hlimit]
    rfl
  have hstep : q.step.toNat ≤ 2 ^ 63 := by
    rw [q.toNat_step hbits]
    exact Nat.pow_le_pow_right (by decide) (Nat.le_of_lt_succ hbits)
  rw [show ALIGN_VALUE q.baseAddress q.step = q.start from rfl, q.searchInside_iterate,
    ApertureSearch.lastEnd, hzero, ApertureSearch.firstEnd, Nat.zero_mul, Nat.add_zero,
    BitVec.toNat_add] at hfirst
  rcases q.start_cases hbits with ⟨-, hnear⟩ | ⟨-, hover⟩ <;> omega

theorem limit_of_absent (hbase : range.rb = 0) (hnone : range.length = 0) :
    range.rl = MAX_UINT64 := by
  have hend := toNat_rl_add_one range
  have hzero : (0 : U64).toNat = 0 := rfl
  have hzero' : (0 : U128).toNat = 0 := rfl
  have hone : (1 : U64).toNat = 1 := rfl
  have htop : MAX_UINT64.toNat = 2 ^ 64 - 1 := rfl
  have hlimit := range.rl.isLt
  rw [hbase, hnone, hzero, hzero', BitVec.toNat_add, hone] at hend
  apply BitVec.eq_of_toNat_eq
  omega

/-- What a search of a small aperture asks for lies in it, shifted as its bounds are. -/
theorem inside_of_asks (q : ApertureSearch) (shift : U64) {alignment length x : U64}
    (hbits : q.bitsOfAlignment.toNat < 64)
    (hbase : q.baseAddress = ALIGN_VALUE range.rb (alignment + 1) - shift)
    (hlimit : q.limit = range.rl - shift) (halignment : alignment.toNat < smallLimit)
    (hrange : (range.rb = 0 ∧ shift = 0 ∧ range.length = 0) ∨
      (range.valid = true ∧ range.rb.toNat + range.length.toNat ≤ smallLimit ∧
        (range.rb - shift).toNat + range.length.toNat ≤ smallLimit))
    (hlength : 0 < length.toNat ∧ length.toNat ≤ smallLimit) (h : q.Asks length x) :
    range.valid = true ∧ (range.rb - shift).toNat ≤ x.toNat ∧
      x.toNat + length.toNat ≤ (range.rb - shift).toNat + range.length.toNat := by
  have hsmall : smallLimit = 2 ^ 62 := rfl
  rcases hrange with ⟨hfirst, hshift, hnone⟩ | ⟨hvalid, hdevice, hhost⟩
  · have hzero : (0 : U64).toNat = 0 := rfl
    have haligned := (@toNat_ALIGN_VALUE 0 _ (Nat.zero_le _) halignment).2
    have hbase : q.baseAddress = ALIGN_VALUE 0 (alignment + 1) := by
      rw [hbase, hfirst, hshift]
      exact BitVec.sub_zero _
    rw [hshift, limit_of_absent hfirst hnone] at hlimit
    refine absurd h (absent_of_asks q length x hbits ?_ (hlimit.trans (BitVec.sub_zero _)) hlength)
    rw [hbase]
    omega
  · have hend := limit_of_small shift hvalid hdevice hhost
    obtain ⟨hlow, hhigh⟩ := within_of_asks q length x hbits (by rw [hlimit]; omega) hlength.2 h
    obtain ⟨hge, hle⟩ := @toNat_ALIGN_VALUE range.rb _ (by omega) halignment
    have hmoved : (range.rb - shift).toNat ≤
        (ALIGN_VALUE range.rb (alignment + 1) - shift).toNat := by
      have hfirst := range.rb.isLt
      have hshift := shift.isLt
      rw [BitVec.toNat_sub] at hhost
      rw [BitVec.toNat_sub, BitVec.toNat_sub]
      omega
    rw [hbase] at hlow
    rw [hlimit] at hhigh
    exact ⟨hvalid, Nat.le_trans hmoved hlow, by omega⟩

end Aperture

end FdtBusPkg
