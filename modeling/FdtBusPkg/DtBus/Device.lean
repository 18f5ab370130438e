import FdtBusPkg.Base
import Mathlib.Algebra.GroupWithZero.Nat

/-!
The device records of the bus driver. A device holds its `EFI_DT_IO_PROTOCOL`
instance inline, so a protocol reference and its `DT_DEVICE` determine each
other; the chain of parents ends at the root, the one device with no parent.
-/
namespace FdtBusPkg

/-- Cell counts accepted by `FdtGetAddressCells` and `FdtGetSizeCells`:
at most `FDT_MAX_NCELLS`. -/
abbrev CellCount := Fin 5

instance neZeroCellCount : NeZero 5 := ⟨by decide⟩

/-- `EFI_DT_IO_PROTOCOL_CB`: which callbacks are not `NULL`. -/
structure DtIoCallbacks where
  readChildReg : Bool
  writeChildReg : Bool
  deriving DecidableEq, Repr

/-- The fields of `DT_DEVICE` and of its `EFI_DT_IO_PROTOCOL`. -/
structure DtDeviceInfo where
  dtIo : DtIoRef
  handle : EfiHandle
  fdtNode : Int
  addressCells : CellCount
  sizeCells : CellCount
  childAddressCells : CellCount
  childSizeCells : CellCount
  isDmaCoherent : Bool
  flags : Uintn
  callbacks : Option DtIoCallbacks
  maxCpuDmaAddress : U64
  deriving DecidableEq, Repr

/-- `DT_DEVICE` with its chain of `Parent` pointers. -/
inductive DtDevice
  | root (info : DtDeviceInfo)
  | child (info : DtDeviceInfo) (parent : DtDevice)
  deriving DecidableEq, Repr

namespace DtDevice

def info : DtDevice → DtDeviceInfo
  | .root i => i
  | .child i _ => i

/-- The `Parent` field; `none` is `NULL`. -/
def parent? : DtDevice → Option DtDevice
  | .root _ => none
  | .child _ p => some p

/-- `DtIo.ParentDevice`, filled from the parent's handle by `DtDeviceCreate`. -/
def parentDevice (d : DtDevice) : Option EfiHandle := d.parent?.map (·.info.handle)

@[simp] theorem info_root (i : DtDeviceInfo) : (root i).info = i := rfl
@[simp] theorem info_child (i : DtDeviceInfo) (p : DtDevice) : (child i p).info = i := rfl
@[simp] theorem parent?_root (i : DtDeviceInfo) : (root i).parent? = none := rfl
@[simp] theorem parent?_child (i : DtDeviceInfo) (p : DtDevice) :
    (child i p).parent? = some p := rfl

end DtDevice

/-- `DT_DEVICE_NON_IDENTITY_DMA`. -/
def DT_DEVICE_NON_IDENTITY_DMA : Uintn := 2

end FdtBusPkg
