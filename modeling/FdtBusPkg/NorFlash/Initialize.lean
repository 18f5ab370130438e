import FdtBusPkg.NorFlash.Containment
import FdtBusPkg.Library.LittleEndian

/-!
Initialisation of the flash: the volume and variable store headers are checked and, if
they are not valid, installed. They are installed where the volume starts, through the
block interface, and checked where the region starts, in memory; so a volume that starts
its region is initialised once, and any other one again on each boot.
-/
namespace FdtBusPkg

open LittleEndian (Field)

structure FlashPcds where
  ovmfFdBaseAddress : U32
  ovmfFirmwareFdSize : U32
  variableBase : U32
  variableBase64 : U64
  variableSize : U32
  ftwWorkingBase : U32
  ftwWorkingBase64 : U64
  ftwWorkingSize : U32
  ftwSpareBase : U32
  ftwSpareBase64 : U64
  ftwSpareSize : U32
  deriving DecidableEq, Repr

structure FvGuids where
  efiSystemNvDataFv : BitVec 128
  efiVariable : BitVec 128
  efiAuthenticatedVariable : BitVec 128
  deriving DecidableEq, Repr

/-- The 64-bit setting, or the 32-bit one where it is zero. -/
def nvStorageBase (base64 : U64) (base : U32) : U64 :=
  if base64 ≠ 0 then base64 else base.setWidth 64

def QEMU_NOR_BLOCK_SIZE : U32 := 0x40000
def BOOT_WITH_DEFAULT_SETTINGS : U32 := 0x04

def EFI_FVH_SIGNATURE : Nat := 0x4856465F
def EFI_FVH_REVISION : Nat := 0x02
def FVB_ATTRIBUTES : Nat := 0x0E36
def VARIABLE_STORE_FORMATTED : Nat := 0x5A
def VARIABLE_STORE_HEALTHY : Nat := 0xFE

/-- `sizeof` the volume header with one more block map entry, and with the variable
store header behind it. -/
def FV_HEADER_LENGTH : Nat := 72
def HEADERS_LENGTH : Uintn := 100

/-- Fields of `EFI_FIRMWARE_VOLUME_HEADER`. -/
def FileSystemGuid : Field := ⟨16, 16⟩
def FvLength : Field := ⟨32, 8⟩
def Signature : Field := ⟨40, 4⟩
def Attributes : Field := ⟨44, 4⟩
def HeaderLength : Field := ⟨48, 2⟩
def Checksum : Field := ⟨50, 2⟩
def Revision : Field := ⟨55, 1⟩
def BlockMapNumBlocks (entry : Nat) : Field := ⟨56 + 8 * entry, 4⟩
def BlockMapLength (entry : Nat) : Field := ⟨60 + 8 * entry, 4⟩

/-- Fields of `VARIABLE_STORE_HEADER`, in a record where it starts at `at_`. -/
def StoreSignature (at_ : Nat) : Field := ⟨at_, 16⟩
def StoreSize (at_ : Nat) : Field := ⟨at_ + 16, 4⟩
def StoreFormat (at_ : Nat) : Field := ⟨at_ + 20, 1⟩
def StoreState (at_ : Nat) : Field := ⟨at_ + 21, 1⟩

def calculateSum16 (mem : Nat → U8) (buffer length : Nat) : BitVec 16 :=
  BitVec.ofNat 16 (LittleEndian.wordSum mem buffer (length / 2))

def calculateCheckSum16 (mem : Nat → U8) (buffer length : Nat) : BitVec 16 :=
  0 - calculateSum16 mem buffer length

/-- What the creation of a child allocates; `headers` is the record that the initialisation lays
the headers out in. -/
inductive PoolObject
  | pathNode
  | handlePath
  | instance_ (instance_ : PoolRef)
  | shadowBuffer
  | headers
  deriving DecidableEq, Repr

inductive PoolCall
  | allocate (object : PoolObject)
  | free (object : PoolObject)
  deriving DecidableEq, Repr

/-- The allocation of the headers, when there is room for them. -/
def headersAllocation (allocated : Bool) : List PoolCall :=
  if allocated then [.allocate .headers] else []

/-- The result of a step of the initialisation, and the calls it made on the flash and of the
allocation services. -/
structure FvbInitRun where
  status : EfiStatus
  flash : NorFlash
  calls : List FvbCall
  pool : List PoolCall

/-- The end of `NorFlashFvbInitialize` after the blocks of the list were erased and the headers
installed, or not. -/
def FvbInitRun.finish (run : FvbInitRun) (installed : EfiStatus) (list : List (U64 × Uintn)) :
    FvbInitRun :=
  { run with
    status :=
      match run.status with
      | .error e => .error e
      | .ok _ => installed
    calls := .eraseBlocks list :: run.calls }

section Driver

variable (pcds : FlashPcds) (guids : FvGuids)

def nvStorageSize : U32 := pcds.variableSize + pcds.ftwWorkingSize + pcds.ftwSpareSize

/-- The headers as `InitializeFvAndVariableStoreHeaders` lays them out. -/
def fvAndVariableStoreHeaders (inst : NorFlashInstance) : Nat → U8 :=
  let headers : Nat → U8 := fun _ => 0
  let headers := FileSystemGuid.set headers guids.efiSystemNvDataFv.toNat
  let headers := FvLength.set headers (nvStorageSize pcds).toNat
  let headers := Signature.set headers EFI_FVH_SIGNATURE
  let headers := Attributes.set headers FVB_ATTRIBUTES
  let headers := HeaderLength.set headers FV_HEADER_LENGTH
  let headers := Revision.set headers EFI_FVH_REVISION
  let headers := (BlockMapNumBlocks 0).set headers (inst.lastBlock + 1).toNat
  let headers := (BlockMapLength 0).set headers inst.blockSize.toNat
  let headers := (BlockMapNumBlocks 1).set headers 0
  let headers := (BlockMapLength 1).set headers 0
  let headers := Checksum.set headers (calculateCheckSum16 headers 0 FV_HEADER_LENGTH).toNat
  let headers :=
    (StoreSignature FV_HEADER_LENGTH).set headers guids.efiAuthenticatedVariable.toNat
  let headers := (StoreSize FV_HEADER_LENGTH).set headers
    (pcds.variableSize - BitVec.ofNat 32 FV_HEADER_LENGTH).toNat
  let headers := (StoreFormat FV_HEADER_LENGTH).set headers VARIABLE_STORE_FORMATTED
  (StoreState FV_HEADER_LENGTH).set headers VARIABLE_STORE_HEALTHY

/-- `allocated` is whether the pool has room for the headers, which is not checked: `none` is the
use of a null pointer. The exits before the headers are laid out do not free them. -/
def initializeFvAndVariableStoreHeaders (inst : NorFlashInstance) (allocated : Bool)
    (f : NorFlash) (shadow : Nat → U8) : Option FvbInitRun :=
  let pool := headersAllocation allocated
  let variableBase := nvStorageBase pcds.variableBase64 pcds.variableBase
  let ftwWorkingBase := nvStorageBase pcds.ftwWorkingBase64 pcds.ftwWorkingBase
  let ftwSpareBase := nvStorageBase pcds.ftwSpareBase64 pcds.ftwSpareBase
  let blockSize := inst.blockSize.setWidth 64
  if variableBase + pcds.variableSize.setWidth 64 ≠ ftwWorkingBase then
    some ⟨.error .invalidParameter, f, [], pool⟩
  else if ftwWorkingBase + pcds.ftwWorkingSize.setWidth 64 ≠ ftwSpareBase then
    some ⟨.error .invalidParameter, f, [], pool⟩
  else if pcds.variableSize = 0 || pcds.variableSize / inst.blockSize = 0 then
    some ⟨.error .invalidParameter, f, [], pool⟩
  else if pcds.ftwWorkingSize = 0 || pcds.ftwWorkingSize / inst.blockSize = 0 then
    some ⟨.error .invalidParameter, f, [], pool⟩
  else if pcds.ftwSpareSize = 0 || pcds.ftwSpareSize / inst.blockSize = 0 then
    some ⟨.error .invalidParameter, f, [], pool⟩
  else if variableBase % blockSize ≠ 0 || ftwWorkingBase % blockSize ≠ 0 ||
      ftwSpareBase % blockSize ≠ 0 then
    some ⟨.error .invalidParameter, f, [], pool⟩
  else if !allocated then
    none
  else
    let headers := fvAndVariableStoreHeaders pcds guids inst
    let run := fvbWrite inst 0 0 HEADERS_LENGTH headers f shadow
    some ⟨run.status, run.flash, [.write 0 0 HEADERS_LENGTH headers], pool ++ [.free .headers]⟩

def validateFvHeader (inst : NorFlashInstance) (f : NorFlash) : EfiStatus :=
  let fwVolHeader := inst.regionBaseAddress.toNat
  if Revision.get f.bytes fwVolHeader ≠ EFI_FVH_REVISION ||
      Signature.get f.bytes fwVolHeader ≠ EFI_FVH_SIGNATURE ||
      FvLength.get f.bytes fwVolHeader ≠ (nvStorageSize pcds).toNat then
    .error .notFound
  else if FileSystemGuid.get f.bytes fwVolHeader ≠ guids.efiSystemNvDataFv.toNat then
    .error .notFound
  else
    let headerLength := HeaderLength.get f.bytes fwVolHeader
    if calculateSum16 f.bytes fwVolHeader headerLength ≠ 0 then
      .error .notFound
    else
      let signature := (StoreSignature headerLength).get f.bytes fwVolHeader
      if signature ≠ guids.efiVariable.toNat &&
          signature ≠ guids.efiAuthenticatedVariable.toNat then
        .error .notFound
      else
        let variableStoreLength := pcds.variableSize - BitVec.ofNat 32 headerLength
        if (StoreSize headerLength).get f.bytes fwVolHeader ≠ variableStoreLength.toNat then
          .error .notFound
        else
          .ok ()

/-- `Instance` after `ChildCreate` filled it in and `NorFlashFvbInitialize` placed the
volume. -/
def fvbInstance (regionBase size : Uintn) (blockSize : U32) : NorFlashInstance where
  regionBaseAddress := regionBase
  size := size
  startLba := fvbStartLba (nvStorageBase pcds.variableBase64 pcds.variableBase) regionBase
    blockSize
  lastBlock := size / blockSize.setWidth 64 - 1
  blockSize := blockSize

/-- `installed` is the status of the installation of the `NvVarStoreFormatted`
protocol. -/
def norFlashFvbInitialize (inst : NorFlashInstance) (bootMode : U32) (allocated : Bool)
    (installed : EfiStatus) (f : NorFlash) (shadow : Nat → U8) : Option FvbInitRun :=
  let status := if bootMode = BOOT_WITH_DEFAULT_SETTINGS then
      .error .invalidParameter
    else
      validateFvHeader pcds guids inst f
  match status with
  | .ok _ => some ⟨installed, f, [], []⟩
  | .error _ =>
    let fvbNumLba := nvStorageSize pcds / inst.blockSize
    let list := [((0 : U64), fvbNumLba.setWidth 64)]
    match fvbEraseBlocks inst list f with
    | (.error e, f) => some ⟨.error e, f, [.eraseBlocks list], []⟩
    | (.ok _, f) =>
      (initializeFvAndVariableStoreHeaders pcds guids inst allocated f shadow).map
        (·.finish installed list)

/-- The region does not overlap the primary firmware volume. Its end is a 32-bit sum, which is
zero for a volume that ends at 4 GiB: such a volume is overlapped by nothing. -/
def outsidePrimaryFv (regBase : Uintn) (length : U128) : Bool :=
  !((pcds.ovmfFdBaseAddress + pcds.ovmfFirmwareFdSize).setWidth 64 > regBase &&
    regBase.setWidth 128 + length > pcds.ovmfFdBaseAddress.setWidth 128)

def containVariableStorage (regBase : Uintn) (length : U128) : Bool :=
  if pcds.variableBase64 ≠ 0 then
    regBase ≤ pcds.variableBase64 &&
      (pcds.variableBase64 + pcds.variableSize.setWidth 64).setWidth 128 ≤
        regBase.setWidth 128 + length
  else
    regBase ≤ pcds.variableBase.setWidth 64 &&
      (pcds.variableBase + pcds.variableSize).setWidth 128 ≤ regBase.setWidth 128 + length

end Driver

end FdtBusPkg
