import FdtBusPkg.NorFlash.Write

/-!
The firmware volume block protocol over the flash. Its block numbers are relative
to the volume, which starts `StartLba` blocks into the region; the calls differ in
where they add that offset, and in whether they check blocks or bytes.
-/
namespace FdtBusPkg

/-- An instance with the field only the protocol uses. -/
structure FvbInstance extends NorFlashInstance where
  storageVariableBase : Uintn
  deriving DecidableEq, Repr

def EFI_LBA_LIST_TERMINATOR : U64 := 0xFFFFFFFFFFFFFFFF

/-- `Instance->StartLba`, as `NorFlashFvbInitialize` sets it. -/
def fvbStartLba (storageVariableBase regionBaseAddress : Uintn) (blockSize : U32) : U64 :=
  (storageVariableBase - regionBaseAddress) / blockSize.setWidth 64

def fvbGetPhysicalAddress (inst : FvbInstance) : EfiResult Uintn :=
  .ok inst.storageVariableBase

/-- The block size and the number of blocks from `lba` on. -/
def fvbGetBlockSize (inst : FvbInstance) (lba : U64) : EfiResult (Uintn × Uintn) :=
  if lba > inst.lastBlock then
    .error .invalidParameter
  else
    .ok (inst.blockSize.setWidth 64, inst.lastBlock - lba + 1)

section Calls

variable (inst : NorFlashInstance)

/-- The contents of the buffer after the call. -/
def fvbRead (lba : U64) (offset numBytes : Uintn) (buffer : Nat → U8) (f : NorFlash) :
    EfiResult (Nat → U8) :=
  let blockSize := inst.blockSize.setWidth 64
  if offset ≥ blockSize || numBytes > blockSize || offset + numBytes > blockSize then
    .error .badBufferSize
  else if numBytes = 0 then
    .error .badBufferSize
  else if numBytes % blockSize ≠ 0 then
    match norFlashRead inst (inst.startLba + lba) offset numBytes buffer f with
    | .error _ => .error .deviceError
    | .ok buffer => .ok buffer
  else
    match norFlashReadBlocks inst (inst.startLba + lba) blockSize buffer f with
    | .error _ => .error .deviceError
    | .ok buffer => .ok buffer

/-- The pass of `FvbEraseBlocks` that only checks the list. -/
def eraseListCheck : List (U64 × Uintn) → EfiStatus
  | [] => .ok ()
  | (startingLba, numOfLba) :: args =>
    if startingLba = EFI_LBA_LIST_TERMINATOR then
      .ok ()
    else if numOfLba = 0 || inst.startLba + startingLba + numOfLba - 1 > inst.lastBlock then
      .error .invalidParameter
    else
      eraseListCheck args

/-- The loop of `FvbEraseBlocks` over the blocks of one pair. -/
def eraseLbaLoop : Nat → U64 → NorFlash → EfiStatus × NorFlash
  | 0, _, f => (.ok (), f)
  | numOfLba + 1, startingLba, f =>
    match norFlashUnlockAndEraseSingleBlock inst
        (norBlockAddress inst (inst.startLba + startingLba)) f with
    | (.error _, f) => (.error .deviceError, f)
    | (.ok _, f) => eraseLbaLoop numOfLba (startingLba + 1) f

/-- The pass of `FvbEraseBlocks` that erases. -/
def eraseListLoop : List (U64 × Uintn) → NorFlash → EfiStatus × NorFlash
  | [], f => (.ok (), f)
  | (startingLba, numOfLba) :: args, f =>
    if startingLba = EFI_LBA_LIST_TERMINATOR then
      (.ok (), f)
    else
      match eraseLbaLoop inst numOfLba.toNat startingLba f with
      | (.error e, f) => (.error e, f)
      | (.ok _, f) => eraseListLoop args f

/-- The pairs of the argument list stand before its terminator. -/
def fvbEraseBlocks (args : List (U64 × Uintn)) (f : NorFlash) : EfiStatus × NorFlash :=
  match eraseListCheck inst args with
  | .error e => (.error e, f)
  | .ok _ => eraseListLoop inst args f

theorem eraseLbaLoop_succeeds (numOfLba : Nat) (startingLba : U64) (f : NorFlash) :
    (eraseLbaLoop inst numOfLba startingLba f).1 = .ok () := by
  induction numOfLba generalizing startingLba f with
  | zero => rfl
  | succ numOfLba ih =>
      rw [eraseLbaLoop, unlockAndErase_eq]
      exact ih _ _

theorem eraseListLoop_succeeds (args : List (U64 × Uintn)) (f : NorFlash) :
    (eraseListLoop inst args f).1 = .ok () := by
  induction args generalizing f with
  | nil => rfl
  | cons p args ih =>
      rcases p with ⟨startingLba, numOfLba⟩
      have hpair := eraseLbaLoop_succeeds inst numOfLba.toNat startingLba f
      rw [eraseListLoop]
      split
      · rfl
      · rcases hrun : eraseLbaLoop inst numOfLba.toNat startingLba f with
          ⟨status, g⟩
        rw [hrun] at hpair
        subst hpair
        exact ih g

end Calls

/-- A flash with a variable store at a block boundary inside its region. -/
structure FvbVolume extends NorFlashDevice where
  storageVariableBase : Uintn
  region_le_store : regionBaseAddress.toNat ≤ storageVariableBase.toNat
  store_lt : storageVariableBase.toNat < regionBaseAddress.toNat + size.toNat
  store_aligned : storageVariableBase.toNat % blockSize.toNat = 0
  startLba_eq : startLba = fvbStartLba storageVariableBase regionBaseAddress blockSize

namespace FvbVolume

variable (v : FvbVolume)

def fvb : FvbInstance := ⟨v.toNorFlashInstance, v.storageVariableBase⟩

def region : Span := ⟨v.regionBaseAddress.toNat, v.size.toNat⟩

/-- The block exists, counted from the start of the volume. -/
def HasBlock (lba : U64) : Prop := v.startLba.toNat + lba.toNat ≤ v.lastBlock.toNat

theorem store_eq : v.storageVariableBase.toNat = v.blockStart v.startLba := by
  have hle := v.region_le_store
  have hsub : (v.storageVariableBase - v.regionBaseAddress).toNat =
      v.storageVariableBase.toNat - v.regionBaseAddress.toNat :=
    BitVec.toNat_sub_of_le hle
  have hdvd : v.blockSize.toNat ∣ v.storageVariableBase.toNat - v.regionBaseAddress.toNat :=
    Nat.dvd_sub (Nat.dvd_of_mod_eq_zero v.store_aligned)
      (Nat.dvd_of_mod_eq_zero v.base_aligned)
  rw [NorFlashDevice.blockStart, v.startLba_eq, fvbStartLba, BitVec.toNat_udiv, hsub,
    v.toNat_setWidth_blockSize, Nat.div_mul_cancel hdvd, Nat.add_sub_cancel' hle]

theorem startLba_le : v.startLba.toNat ≤ v.lastBlock.toNat := by
  have hstore := v.store_eq
  have hlt := v.store_lt
  have hsize := v.size_eq
  rw [NorFlashDevice.blockStart] at hstore
  have hblocks : v.startLba.toNat * v.blockSize.toNat <
      (v.lastBlock.toNat + 1) * v.blockSize.toNat := by omega
  exact Nat.le_of_lt_succ (Nat.lt_of_mul_lt_mul_right hblocks)

theorem toNat_add_startLba (lba : U64) (h : v.HasBlock lba) :
    (v.startLba + lba).toNat = v.startLba.toNat + lba.toNat := by
  have hlast := v.lastBlock.isLt
  rw [HasBlock] at h
  rw [BitVec.toNat_add]
  exact Nat.mod_eq_of_lt (by omega)

theorem add_startLba_le (lba : U64) (h : v.HasBlock lba) :
    (v.startLba + lba).toNat ≤ v.lastBlock.toNat := by
  rw [v.toNat_add_startLba lba h]
  exact h

end FvbVolume

end FdtBusPkg
