import FdtBusPkg.DtBus.RegParse

/-!
Creation of a device from a devicetree node: the properties useful to most
clients, the cell counts, and the DMA limit and flags, which narrow down the
tree. Unit tests and assertions are compiled out.
-/
namespace FdtBusPkg

/-- `EFI_DT_STATUS`. -/
inductive EfiDtStatus
  | okay
  | disabled
  | reserved
  | fail
  | failWithCondition
  | broken
  deriving DecidableEq, Repr

def DT_DEVICE_CRITICAL : Uintn := 1
def DT_DEVICE_INHERITED : Uintn := DT_DEVICE_NON_IDENTITY_DMA

section Nodes

variable (fdt : Fdt) (fdtNode : Int)

/-- `fdt_getprop` without the length. -/
def fdtGetprop (name : String) : Option Nat :=
  match fdt.getprop fdtNode name with
  | .error _ => none
  | .ok (buf, _) => some buf

/-- `AsciiStrCmp` with a literal, for equality. -/
def asciiStrEq (mem : Nat → U8) : Nat → List Char → Bool
  | buf, [] => mem buf = 0
  | buf, c :: rest => mem buf = BitVec.ofNat 8 c.toNat && asciiStrEq mem (buf + 1) rest

/-- `AsciiStrnCmp` over the length of a literal, for equality. -/
def asciiStrnEq (mem : Nat → U8) : Nat → List Char → Bool
  | _, [] => true
  | buf, c :: rest => mem buf = BitVec.ofNat 8 c.toNat && asciiStrnEq mem (buf + 1) rest

/-- `FdtGetDeviceType`; `none` is the empty string. -/
def fdtGetDeviceType : Option Nat := fdtGetprop fdt fdtNode "device_type"

def fdtGetStatus : EfiDtStatus :=
  match fdtGetprop fdt fdtNode "status" with
  | none => .okay
  | some buf =>
    if asciiStrEq fdt.mem buf "okay".toList then .okay
    else if asciiStrEq fdt.mem buf "disabled".toList then .disabled
    else if asciiStrEq fdt.mem buf "reserved".toList then .reserved
    else if asciiStrEq fdt.mem buf "fail".toList then .fail
    else if asciiStrnEq fdt.mem buf "fail-".toList then .failWithCondition
    else .broken

/-- The count in a cell, as the byte that `Value` holds. -/
def fdtGetCells (name : String) (default : CellCount) : EfiResult CellCount :=
  match fdt.getprop fdtNode name with
  | .error _ => .ok default
  | .ok (buf, len) =>
    if len ≠ 4 then
      .error .deviceError
    else
      let value := (fdt32ToCpu (loadCell fdt.mem buf)).setWidth 8
      if h : value.toNat ≤ 4 then
        .ok ⟨value.toNat, Nat.lt_succ_of_le h⟩
      else
        .error .deviceError

def fdtGetSizeCells : EfiResult CellCount := fdtGetCells fdt fdtNode "#size-cells" 1
def fdtGetAddressCells : EfiResult CellCount := fdtGetCells fdt fdtNode "#address-cells" 2

def fdtIsDeviceCritical : Bool := (fdtGetprop fdt fdtNode "fdtbuspkg,critical").isSome

end Nodes

namespace DtDevice

def setInfo : DtDevice → (DtDeviceInfo → DtDeviceInfo) → DtDevice
  | .root i, f => .root (f i)
  | .child i p, f => .child (f i) p

@[simp] theorem info_setInfo (d : DtDevice) (f : DtDeviceInfo → DtDeviceInfo) :
    (d.setInfo f).info = f d.info := by
  cases d <;> rfl

@[simp] theorem parent?_setInfo (d : DtDevice) (f : DtDeviceInfo → DtDeviceInfo) :
    (d.setInfo f).parent? = d.parent? := by
  cases d <;> rfl

end DtDevice

section DmaInit

/-- The highest address of an entry in the 64 bits of `MaxChildAddress`. -/
def maxChildAddress (childBase : DtBusAddress) (childSize : DtSize) : U64 :=
  if childSize ≠ 0 then
    (((childBase.setWidth 64).setWidth 128 + (childSize - 1)) : U128).setWidth 64
  else
    childBase.setWidth 64

/-- The loop over `dma-ranges`, on the flags and the limit of the device. An entry has
at least one cell, so the cells left bound the iterations. -/
def dmaRangesLoop (mem : Nat → U8) (device : DtDevice) :
    Nat → DtProperty → Uintn → U64 → EfiStatus × Uintn × U64
  | 0, _, flags, limit => (.ok (), flags, limit)
  | fuel + 1, p, flags, limit =>
    if p.iter < p.end_ then
      match dtIoParsePropChildBusAddress mem device p 0 with
      | (.error e, _) => (.error e, flags, limit)
      | (.ok childBase, p) =>
        match dtIoParsePropBusAddress mem device p 0 with
        | (.error e, _) => (.error e, flags, limit)
        | (.ok parentBase, p) =>
          match dtIoParsePropChildSize mem device p 0 with
          | (.error e, _) => (.error e, flags, limit)
          | (.ok childSize, p) =>
            if childBase ≠ parentBase then
              (.ok (), flags ||| DT_DEVICE_NON_IDENTITY_DMA, limit)
            else
              let address := maxChildAddress childBase childSize
              dmaRangesLoop mem device fuel p flags (if limit > address then address else limit)
    else
      (.ok (), flags, limit)

/-- The rest of `DtDeviceCreateDmaInit` once `dma-ranges` is at hand. -/
def dmaInitRanges (mem : Nat → U8) (device : DtDevice) (p : DtProperty) : EfiStatus × DtDevice :=
  if p.end_ = p.begin_ then
    (.ok (), device)
  else
    match dmaRangesLoop mem device (p.cells + 1) p device.info.flags
        device.info.maxCpuDmaAddress with
    | (.error e, flags, limit) =>
      (.error e, device.setInfo fun i => { i with flags, maxCpuDmaAddress := limit })
    | (.ok _, flags, limit) =>
      let limit := if flags &&& DT_DEVICE_NON_IDENTITY_DMA ≠ 0 then 0 else limit
      (.ok (), device.setInfo fun i => { i with flags, maxCpuDmaAddress := limit })

/-- `DtDeviceCreateDmaInit`. `isCoherent` is `DMA_DEFAULT_IS_COHERENT`. An error other than
absence on `dma-ranges` leaves `Property` as it was, at first `uninit`. -/
def dtDeviceCreateDmaInit (isCoherent : Bool) (uninit : DtProperty) (fdt : Fdt)
    (device : DtDevice) : EfiStatus × DtDevice :=
  let inherited := match device.parent? with
    | none => MAX_UINT64
    | some parent => parent.info.maxCpuDmaAddress
  let device := device.setInfo fun i => { i with maxCpuDmaAddress := inherited }
  let coherence := dtIoGetProp fdt device (if isCoherent then "dma-noncoherent" else "dma-coherent")
  match coherence with
  | .ok p =>
    let device := device.setInfo fun i => { i with isDmaCoherent := !isCoherent }
    match dtIoGetProp fdt device "dma-ranges" with
    | .error .notFound => (.ok (), device)
    | .error _ => dmaInitRanges fdt.mem device p
    | .ok p => dmaInitRanges fdt.mem device p
  | .error .notFound =>
    let device := device.setInfo fun i => { i with isDmaCoherent := isCoherent }
    match dtIoGetProp fdt device "dma-ranges" with
    | .error .notFound => (.ok (), device)
    | .error _ => dmaInitRanges fdt.mem device uninit
    | .ok p => dmaInitRanges fdt.mem device p
  | .error e => (.error e, device)

end DmaInit

section Create

/-- A created device with the properties its `EFI_DT_IO_PROTOCOL` reports. -/
structure CreatedDevice where
  device : DtDevice
  deviceType : Option Nat
  deviceStatus : EfiDtStatus
  deriving DecidableEq, Repr

def CreatedDevice.isCritical (c : CreatedDevice) : Bool :=
  c.device.info.flags &&& DT_DEVICE_CRITICAL ≠ 0

/-- The cells that a failed query leaves in the zeroed device. -/
def cellsOrZero : EfiResult CellCount → CellCount
  | .ok n => n
  | .error _ => 0

/-- The zeroed device once its cell counts and inherited flags are set. -/
def dtDeviceCells (fdt : Fdt) (dtIo : DtIoRef) (fdtNode : Int) (parent : Option DtDevice)
    (parentFlags : Uintn) : DtDevice :=
  let info : DtDeviceInfo :=
    { dtIo, handle := 0, fdtNode
      addressCells := match parent with
        | some parent => parent.info.childAddressCells
        | none => 2
      sizeCells := match parent with
        | some parent => parent.info.childSizeCells
        | none => 1
      childAddressCells := cellsOrZero (fdtGetAddressCells fdt fdtNode)
      childSizeCells := cellsOrZero (fdtGetSizeCells fdt fdtNode)
      isDmaCoherent := false
      flags := parentFlags &&& DT_DEVICE_INHERITED
      callbacks := none
      maxCpuDmaAddress := 0 }
  match parent with
  | none => .root info
  | some parent => .child info parent

/-- `DtDeviceCreate` from the allocated device on. -/
def dtDevicePopulate (isCoherent : Bool) (uninit : DtProperty) (fdt : Fdt) (dtIo : DtIoRef)
    (fdtNode : Int) (parent : Option DtDevice) (parentFlags : Uintn) : CreatedDevice :=
  let deviceType := fdtGetDeviceType fdt fdtNode
  let deviceStatus := fdtGetStatus fdt fdtNode
  let (status, device) := dtDeviceCreateDmaInit isCoherent uninit fdt
    (dtDeviceCells fdt dtIo fdtNode parent parentFlags)
  let broken := deviceStatus = .broken || !(fdtGetAddressCells fdt fdtNode).toBool ||
    !(fdtGetSizeCells fdt fdtNode).toBool || !status.toBool
  let isMemory := match deviceType with
    | none => false
    | some buf => asciiStrEq fdt.mem buf "memory".toList
  let critical := fdtIsDeviceCritical fdt fdtNode || isMemory
  { device := device.setInfo fun i =>
      if critical then { i with flags := i.flags ||| DT_DEVICE_CRITICAL } else i
    deviceType
    deviceStatus := if broken then .broken else deviceStatus }

end Create

end FdtBusPkg
