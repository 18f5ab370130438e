import FdtBusPkg.DtBus.Dma
import FdtBusPkg.Library.Align
import FdtBusPkg.Library.Span

/-!
The addresses a device is given, against its reach in exact arithmetic. A bounce
buffer and an allocated buffer always lie within reach; a direct mapping does
unless its end wraps in 64 bits.
-/
namespace FdtBusPkg

structure DmaRequest where
  hostAddress : U64
  numberOfBytes : Uintn

def callerMaximum (extra : Option DmaExtra) : Option U64 :=
  extra.bind fun extra =>
    if extra.flags &&& EFI_DT_IO_DMA_WITH_MAX_ADDRESS ≠ 0 then some extra.maxAddress else none

/-- Highest address of the device's reach under the constraints. -/
def dmaReach (device : DtDevice) (extra : Option DmaExtra) : Nat :=
  match callerMaximum extra with
  | none => device.info.maxCpuDmaAddress.toNat
  | some maximum => min device.info.maxCpuDmaAddress.toNat maximum.toNat

/-- `[address, address + length)` lies at or below `reach`. -/
def WithinReach (reach address length : Nat) : Prop :=
  Span.Within ⟨address, length⟩ ⟨0, reach + 1⟩

instance (reach address length : Nat) : Decidable (WithinReach reach address length) :=
  inferInstanceAs (Decidable (Span.Within _ _))

theorem withinReach_iff (reach address length : Nat) :
    WithinReach reach address length ↔ address + length ≤ reach + 1 := by
  simp [WithinReach, Span.Within]

/-- The arguments and constraints are ones `DtIoMap` serves. -/
def DmaServed (device : DtDevice) (extra : Option DmaExtra) (operation : DmaOperation)
    (hostAddress : U64) (outputs : Bool) : Prop :=
  operation ≠ .maximum ∧ hostAddress ≠ 0 ∧ outputs = true ∧
    device.info.flags &&& DT_DEVICE_NON_IDENTITY_DMA = 0 ∧
    (dmaConstraints device extra).map (·.2) = .ok true

instance (device : DtDevice) (extra : Option DmaExtra) (operation : DmaOperation)
    (hostAddress : U64) (outputs : Bool) :
    Decidable (DmaServed device extra operation hostAddress outputs) :=
  inferInstanceAs (Decidable (_ ∧ _ ∧ _ ∧ _ ∧ _))

/-- The exact end of the buffer is beyond 64 bits and wraps back to the reach. -/
def WrapsIntoReach (reach : Nat) (r : DmaRequest) : Prop :=
  2 ^ 64 < r.hostAddress.toNat + r.numberOfBytes.toNat ∧
    r.hostAddress.toNat + r.numberOfBytes.toNat ≤ 2 ^ 64 + reach + 1

theorem dmaConstraints_reach (device : DtDevice) (extra : Option DmaExtra) (limit : U64)
    (coherent : Bool) (h : dmaConstraints device extra = .ok (limit, coherent)) :
    limit.toNat = dmaReach device extra := by
  cases extra with
  | none =>
      simp only [dmaConstraints, Except.ok.injEq, Prod.mk.injEq] at h
      rw [← h.1]
      rfl
  | some extra =>
      simp only [dmaConstraints] at h
      split at h
      · simp at h
      · simp only [Except.ok.injEq, Prod.mk.injEq] at h
        rw [← h.1]
        by_cases hmax : extra.flags &&& EFI_DT_IO_DMA_WITH_MAX_ADDRESS ≠ 0
        · rw [if_pos hmax, toNat_MIN, dmaReach, callerMaximum, Option.bind_some, if_pos hmax]
        · rw [if_neg hmax, dmaReach, callerMaximum, Option.bind_some, if_neg hmax]

theorem le_efiSizeToPages (size : Uintn) : size.toNat ≤ 4096 * (efiSizeToPages size).toNat := by
  have hsize := size.isLt
  have hshift : (size >>> 12).toNat = size.toNat / 4096 := by
    rw [BitVec.toNat_ushiftRight, Nat.shiftRight_eq_div_pow]
  have hmask : (size &&& 0xFFF#64).toNat = size.toNat % 4096 :=
    Align.toNat_and_lowMask size 12 (by decide)
  have hone : (1 : U64).toNat = 1 := rfl
  have hzero : (0 : U64).toNat = 0 := rfl
  rw [efiSizeToPages]
  split
  · rw [BitVec.toNat_add, hshift, hone]
    omega
  · next h =>
    have hrest : size.toNat % 4096 = 0 := by
      rw [← hmask, not_not.mp h, hzero]
    rw [BitVec.toNat_add, hshift, hzero]
    omega

section Reach

variable (bs : BootServices) (device : DtDevice) (extra : Option DmaExtra)
  (operation : DmaOperation) (r : DmaRequest) (s : DmaState)

theorem dtIoMap_served (outputs : Bool)
    (h : DmaServed device extra operation r.hostAddress outputs) :
    ∃ limit : U64, dmaConstraints device extra = .ok (limit, true) ∧
      dtIoMap bs (some device) operation r.hostAddress extra (some r.numberOfBytes) outputs s =
        if r.hostAddress + r.numberOfBytes - 1 > limit then
          if operation = .busMasterCommonBuffer then
            (.error .invalidParameter, s)
          else
            dtIoMapBounce bs operation r.hostAddress limit r.numberOfBytes s
        else
          (.ok (r.hostAddress.setWidth 128, NO_MAPPING), s) := by
  obtain ⟨hop, hhost, hout, hflags, hcoherent⟩ := h
  rcases hc : dmaConstraints device extra with e | ⟨limit, coherent⟩
  · rw [hc] at hcoherent
    simp [Except.map] at hcoherent
  · rw [hc] at hcoherent
    obtain rfl : coherent = true := by simpa [Except.map] using hcoherent
    refine ⟨limit, rfl, ?_⟩
    have hargs : ¬ (operation = .maximum || r.hostAddress = 0 || !outputs) = true := by
      simp only [hop, hhost, hout, decide_false, Bool.or_self, Bool.not_true,
        Bool.false_eq_true, not_false_eq_true]
    rw [dtIoMap, if_neg hargs, if_neg (not_not_intro hflags), hc]
    rfl

theorem dtIoMap_refused (outputs : Bool)
    (h : ¬ DmaServed device extra operation r.hostAddress outputs) :
    ∃ e, dtIoMap bs (some device) operation r.hostAddress extra (some r.numberOfBytes) outputs s =
      (.error e, s) := by
  simp only [dtIoMap]
  split
  · exact ⟨_, rfl⟩
  · next hargs =>
    split
    · exact ⟨_, rfl⟩
    · next hflags =>
      rcases hc : dmaConstraints device extra with e | ⟨limit, coherent⟩
      · exact ⟨_, rfl⟩
      · cases coherent with
        | false => exact ⟨_, rfl⟩
        | true =>
            simp only [Bool.or_eq_true, decide_eq_true_eq, Bool.not_eq_true', not_or] at hargs
            refine absurd ⟨hargs.1.1, hargs.1.2, by simpa using hargs.2, not_not.mp hflags, ?_⟩ h
            rw [hc]
            rfl

theorem dtIoMapBounce_within (limit : U64) (address : DtBusAddress) (mapping : DmaMapping)
    (s' : DmaState)
    (h : dtIoMapBounce bs operation r.hostAddress limit r.numberOfBytes s =
      (.ok (address, mapping), s')) :
    WithinReach limit.toNat address.toNat r.numberOfBytes.toNat ∧ mapping ≠ NO_MAPPING := by
  rw [dtIoMapBounce] at h
  cases hpool : bs.allocatePool s with
  | none => simp [hpool] at h
  | some self =>
      rw [hpool] at h
      dsimp only at h
      cases hpages : bs.allocatePages s EfiBootServicesData limit
          (efiSizeToPages r.numberOfBytes) with
      | error e => simp [hpages] at h
      | ok base =>
          simp only [hpages, Prod.mk.injEq, Except.ok.injEq] at h
          obtain ⟨⟨rfl, rfl⟩, -⟩ := h
          have hbelow := bs.pages_below s _ _ _ base hpages
          have hcover := le_efiSizeToPages r.numberOfBytes
          refine ⟨?_, (bs.pool_ne_noMapping s self hpool).2⟩
          rw [withinReach_iff, BitVec.toNat_setWidth,
            Nat.mod_eq_of_lt (Nat.lt_of_lt_of_le base.isLt (by decide))]
          omega

/-- A successful mapping lies within the device's reach, and a common buffer is
mapped in place. -/
def MapWithinReach (outputs : Bool) : Prop :=
  ∀ address mapping s',
    dtIoMap bs (some device) operation r.hostAddress extra (some r.numberOfBytes) outputs s =
        (.ok (address, mapping), s') →
      WithinReach (dmaReach device extra) address.toNat r.numberOfBytes.toNat ∧
        (operation = .busMasterCommonBuffer →
          mapping = NO_MAPPING ∧ address.toNat = r.hostAddress.toNat)

theorem toNat_mapEnd (hhost : r.hostAddress ≠ 0) :
    (r.hostAddress + r.numberOfBytes - 1).toNat =
      (r.hostAddress.toNat + r.numberOfBytes.toNat - 1) % 2 ^ 64 := by
  have hpos := BitVec.toNat_pos_of_ne_zero hhost
  have hone : (1 : U64).toNat = 1 := rfl
  rw [BitVec.toNat_sub, BitVec.toNat_add, hone]
  omega

/-- A direct mapping is made for the buffers within reach and for those whose end
wraps into it. -/
theorem mapEnd_le_iff (limit : U64) (hhost : r.hostAddress ≠ 0) :
    ¬ r.hostAddress + r.numberOfBytes - 1 > limit ↔
      WithinReach limit.toNat r.hostAddress.toNat r.numberOfBytes.toNat ∨
        WrapsIntoReach limit.toNat r := by
  have hpos := BitVec.toNat_pos_of_ne_zero hhost
  have hend := r.hostAddress.isLt
  have hbytes := r.numberOfBytes.isLt
  have hlimit := limit.isLt
  rw [gt_iff_lt, BitVec.lt_def, toNat_mapEnd r hhost, withinReach_iff, WrapsIntoReach]
  omega

theorem not_within_of_wraps (limit : U64) (h : WrapsIntoReach limit.toNat r) :
    ¬ WithinReach limit.toNat r.hostAddress.toNat r.numberOfBytes.toNat := by
  have hlimit := limit.isLt
  rw [withinReach_iff]
  rw [WrapsIntoReach] at h
  omega

theorem dtIoMap_of_wraps (outputs : Bool)
    (hserved : DmaServed device extra operation r.hostAddress outputs)
    (hwraps : WrapsIntoReach (dmaReach device extra) r) :
    dtIoMap bs (some device) operation r.hostAddress extra (some r.numberOfBytes) outputs s =
      (.ok (r.hostAddress.setWidth 128, NO_MAPPING), s) := by
  obtain ⟨limit, hlimit, hmap⟩ := dtIoMap_served bs device extra operation r s outputs hserved
  rw [← dmaConstraints_reach device extra limit true hlimit] at hwraps
  rw [hmap, if_neg ((mapEnd_le_iff r limit hserved.2.1).mpr (Or.inr hwraps))]

theorem toNat_deviceAddress (a : U64) : (a.setWidth 128 : DtBusAddress).toNat = a.toNat := by
  rw [BitVec.toNat_setWidth]
  exact Nat.mod_eq_of_lt (Nat.lt_of_lt_of_le a.isLt (by decide))

theorem mapWithinReach_iff (outputs : Bool) :
    MapWithinReach bs device extra operation r s outputs ↔
      (DmaServed device extra operation r.hostAddress outputs →
        ¬ WrapsIntoReach (dmaReach device extra) r) := by
  by_cases hserved : DmaServed device extra operation r.hostAddress outputs
  · obtain ⟨limit, hlimit, hmap⟩ :=
      dtIoMap_served bs device extra operation r s outputs hserved
    have hdirect := mapEnd_le_iff r limit hserved.2.1
    rw [MapWithinReach, hmap, ← dmaConstraints_reach device extra limit true hlimit]
    simp only [hserved, true_imp_iff]
    by_cases hend : r.hostAddress + r.numberOfBytes - 1 > limit
    · have hnowrap : ¬ WrapsIntoReach limit.toNat r := fun h => hdirect.mpr (Or.inr h) hend
      refine iff_of_true ?_ hnowrap
      intro address mapping s' hrun
      rw [if_pos hend] at hrun
      split at hrun
      · simp at hrun
      · next hop =>
        exact ⟨(dtIoMapBounce_within bs operation r s limit address mapping s' hrun).1,
          fun h => absurd h hop⟩
    · simp only [if_neg hend, Prod.mk.injEq, Except.ok.injEq]
      constructor
      · intro h hwraps
        have hin := (h _ _ _ ⟨⟨rfl, rfl⟩, rfl⟩).1
        rw [toNat_deviceAddress] at hin
        exact not_within_of_wraps r limit hwraps hin
      · rintro hwraps address mapping s' ⟨⟨rfl, rfl⟩, rfl⟩
        rw [toNat_deviceAddress]
        exact ⟨(hdirect.mp hend).resolve_right hwraps, fun _ => ⟨rfl, rfl⟩⟩
  · obtain ⟨e, hmap⟩ := dtIoMap_refused bs device extra operation r s outputs hserved
    refine iff_of_true ?_ (fun h => absurd h hserved)
    intro address mapping s' hrun
    rw [hmap] at hrun
    simp at hrun

/-- An allocated buffer lies within the device's reach. -/
def BufferWithinReach (memoryType : EfiMemoryType) (pages : Uintn) (output : Bool) : Prop :=
  ∀ address s',
    dtIoAllocateBuffer bs (some device) memoryType pages extra output s = (.ok address, s') →
      WithinReach (dmaReach device extra) address.toNat (4096 * pages.toNat)

theorem bufferWithinReach (memoryType : EfiMemoryType) (pages : Uintn) (output : Bool) :
    BufferWithinReach bs device extra s memoryType pages output := by
  intro address s' h
  simp only [dtIoAllocateBuffer] at h
  split at h
  · simp at h
  split at h
  · simp at h
  split at h
  · simp at h
  rcases hc : dmaConstraints device extra with e | ⟨limit, coherent⟩
  · simp [hc] at h
  rw [hc] at h
  dsimp only at h
  split at h
  · simp at h
  cases hpages : bs.allocatePages s memoryType limit pages with
  | error e => simp [hpages] at h
  | ok base =>
      simp only [hpages, Prod.mk.injEq, Except.ok.injEq] at h
      obtain ⟨rfl, -⟩ := h
      rw [withinReach_iff, ← dmaConstraints_reach device extra limit coherent hc]
      exact bs.pages_below s _ _ _ base hpages

end Reach

end FdtBusPkg
