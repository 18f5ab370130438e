import FdtBusPkg.DtBus.Dma
import FdtBusPkg.DtBus.Registers

/-!
The root bridge instances of the PCI host bridge driver, their apertures, their
DMA interfaces, which hand a limit down to the devicetree I/O protocol, and the
checks and register accesses behind configuration, memory and I/O space.
-/
namespace FdtBusPkg

namespace DtRange

/-- `RT`, `RB`, `RS`, `RL` and `RANGE_VALID`. -/
def rt (r : DtRange) : U64 := (r.childBase - r.translatedParentBase).setWidth 64
def rb (r : DtRange) : U64 := r.childBase.setWidth 64
def rs (r : DtRange) : U64 := r.length.setWidth 64
def rl (r : DtRange) : U64 := (r.childBase + r.length - 1).setWidth 64
def valid (r : DtRange) : Bool := r.length != 0

end DtRange

/-- `FbpRangeToReg`. -/
def fbpRangeToReg (range : DtRange) (childSideOffset : DtSize) : DtReg where
  busBase := range.parentBase - childSideOffset
  translatedBase := range.translatedParentBase - childSideOffset
  length := range.length + childSideOffset
  busDtIo := range.busDtIo

/-- The fields of `PCI_ROOT_BRIDGE_INSTANCE` that are fixed once it is created. -/
structure PciRootBridge where
  dtIo : DtDevice
  segment : U32
  configReg : DtReg
  busRange : DtRange
  ioRange : DtRange
  memRange : DtRange
  pMemRange : DtRange
  memAbove4GRange : DtRange
  pMemAbove4GRange : DtRange
  vgaMemRange : DtRange
  vgaIo1Range : DtRange
  vgaIo2Range : DtRange
  dmaAbove4G : Bool
  noExtendedConfigSpace : Bool
  keepExistingConfig : Bool
  deriving DecidableEq, Repr

/-- `EFI_PCI_ROOT_BRIDGE_IO_PROTOCOL_OPERATION`; `maximum` is any value that is
not an operation. -/
inductive PciOperation
  | busMasterRead
  | busMasterWrite
  | busMasterCommonBuffer
  | busMasterRead64
  | busMasterWrite64
  | busMasterCommonBuffer64
  | maximum
  deriving DecidableEq, Repr

def SIZE_4GB : U64 := 0x100000000

def EFI_PCI_ATTRIBUTE_MEMORY_WRITE_COMBINE : U64 := 0x0080
def EFI_PCI_ATTRIBUTE_MEMORY_CACHED : U64 := 0x0800
def EFI_PCI_ATTRIBUTE_DUAL_ADDRESS_CYCLE : U64 := 0x8000
def EFI_PCI_ATTRIBUTE_INVALID_FOR_ALLOCATE_BUFFER : U64 :=
  ~~~ (EFI_PCI_ATTRIBUTE_MEMORY_WRITE_COMBINE ||| EFI_PCI_ATTRIBUTE_MEMORY_CACHED |||
    EFI_PCI_ATTRIBUTE_DUAL_ADDRESS_CYCLE)

/-- The operation passed on, and whether it is a 32-bit one. -/
def PciOperation.toDma : PciOperation → Option (DmaOperation × Bool)
  | .busMasterRead => some (.busMasterRead, true)
  | .busMasterRead64 => some (.busMasterRead, false)
  | .busMasterWrite => some (.busMasterWrite, true)
  | .busMasterWrite64 => some (.busMasterWrite, false)
  | .busMasterCommonBuffer => some (.busMasterCommonBuffer, true)
  | .busMasterCommonBuffer64 => some (.busMasterCommonBuffer, false)
  | .maximum => none

/-- The constraints for a transfer that has or has not to stay below 4 GB. -/
def limitConstraints (limitTo32 : Bool) : DmaExtra :=
  if limitTo32 then ⟨EFI_DT_IO_DMA_WITH_MAX_ADDRESS, SIZE_4GB - 1⟩ else ⟨0, 0⟩

section Dma

variable (bs : BootServices) (rb : PciRootBridge)

def rootBridgeIoMap (operation : PciOperation) (hostAddress : U64)
    (numberOfBytes : Option Uintn) (outputs : Bool) (s : DmaState) :
    EfiResult (U64 × DmaMapping) × DmaState :=
  if hostAddress = 0 || numberOfBytes.isNone || !outputs then
    (.error .invalidParameter, s)
  else
    match operation.toDma with
    | none => (.error .invalidParameter, s)
    | some (dtOperation, is32) =>
      let limitTo32 := is32 || !rb.dmaAbove4G
      let (result, s) := dtIoMap bs (some rb.dtIo) dtOperation hostAddress
        (some (limitConstraints limitTo32)) numberOfBytes true s
      (result.map (fun (busAddress, mapping) => (busAddress.setWidth 64, mapping)), s)

def rootBridgeIoAllocateBuffer (memoryType : EfiMemoryType) (pages : Uintn) (output : Bool)
    (attributes : U64) (s : DmaState) : EfiResult U64 × DmaState :=
  if attributes &&& EFI_PCI_ATTRIBUTE_INVALID_FOR_ALLOCATE_BUFFER ≠ 0 then
    (.error .unsupported, s)
  else if !output then
    (.error .invalidParameter, s)
  else
    let limitTo32 := !rb.dmaAbove4G || attributes &&& EFI_PCI_ATTRIBUTE_DUAL_ADDRESS_CYCLE = 0
    dtIoAllocateBuffer bs (some rb.dtIo) memoryType pages
      (some (limitConstraints limitTo32)) true s

end Dma

/-- `OPERATION_TYPE`. -/
inductive OperationType
  | ioOperation
  | memOperation
  | memOperationNoBuffer
  | pciOperation
  deriving DecidableEq, Repr

/-- The fields of `EFI_PCI_ROOT_BRIDGE_IO_PROTOCOL_PCI_ADDRESS`. -/
def pciRegister (address : U64) : U8 := address.extractLsb' 0 8
def pciFunction (address : U64) : U8 := address.extractLsb' 8 8
def pciDevice (address : U64) : U8 := address.extractLsb' 16 8
def pciBus (address : U64) : U8 := address.extractLsb' 24 8
def pciExtendedRegister (address : U64) : U32 := address.extractLsb' 32 32

def PCI_MAX_DEVICE : U8 := 31
def PCI_MAX_FUNC : U8 := 7

def PCI_ECAM_ADDRESS (bus device function : U8) (register : U32) : U32 :=
  (bus.setWidth 32 <<< 20) ||| (device.setWidth 32 <<< 15) ||| (function.setWidth 32 <<< 12) |||
    register

section Access

variable (bridge : PciRootBridge)

/-- `[Address, Address + Length)` is inside the range, as compared by the code. -/
def inAperture (address length : U64) (range : DtRange) : Bool :=
  address ≥ range.rb && address + length ≤ range.rl + 1

def ioAperture (address length : U64) : DtRange :=
  if inAperture address length bridge.vgaIo1Range then bridge.vgaIo1Range
  else if inAperture address length bridge.vgaIo2Range then bridge.vgaIo2Range
  else bridge.ioRange

def memAperture (address length : U64) : DtRange :=
  if inAperture address length bridge.memRange then bridge.memRange
  else if inAperture address length bridge.vgaMemRange then bridge.vgaMemRange
  else if inAperture address length bridge.pMemRange then bridge.pMemRange
  else if inAperture address length bridge.memAbove4GRange then bridge.memAbove4GRange
  else bridge.pMemAbove4GRange

/-- The register a configuration address names: the extended one unless it is zero. -/
def pciRegisterNumber (address : U64) : U32 :=
  if pciExtendedRegister address ≠ 0 then pciExtendedRegister address
  else (pciRegister address).setWidth 32

/-- The register space of an access, with the address within it and its first and
last valid address. -/
def accessWindow (operation : OperationType) (address length : U64) :
    EfiResult (U64 × U64 × U64 × DtReg) :=
  match operation with
  | .ioOperation =>
    let range := ioAperture bridge address length
    .ok (address, range.rb, range.rl, fbpRangeToReg range (range.rb.setWidth 128))
  | .memOperation | .memOperationNoBuffer =>
    let range := memAperture bridge address length
    .ok (address, range.rb, range.rl, fbpRangeToReg range (range.rb.setWidth 128))
  | .pciOperation =>
    let bus := (pciBus address).setWidth 64
    if bus < bridge.busRange.rb || bus > bridge.busRange.rl then
      .error .invalidParameter
    else if pciDevice address > PCI_MAX_DEVICE || pciFunction address > PCI_MAX_FUNC then
      .error .invalidParameter
    else
      let limit := if bridge.noExtendedConfigSpace then 0xFF else 0xFFF
      .ok ((pciRegisterNumber address).setWidth 64, 0, limit, bridge.configReg)

/-- The register space to access; `buffer` says that `Buffer` is not `NULL`. -/
def rootBridgeIoCheckParameter (operation : OperationType) (width : DtIoWidth) (address : U64)
    (count : Uintn) (buffer : Bool) : EfiResult DtReg :=
  let size : U64 := BitVec.ofNat 64 width.bytes
  let count := if width.IsFifo then 1 else count
  let length := count * size
  if width.index ≥ DtIoWidth.maximum.index then
    .error .invalidParameter
  else if operation ≠ .memOperationNoBuffer && !buffer then
    .error .invalidParameter
  else if count > MAX_UINT64 / size then
    .error .invalidParameter
  else if address &&& (size - 1) ≠ 0 then
    .error .unsupported
  else if address > MAX_UINT64 - length then
    .error .invalidParameter
  else
    match accessWindow bridge operation address length with
    | .error e => .error e
    | .ok (address, base, limit, reg) =>
      if address < base then
        .error .invalidParameter
      else if address + length > limit + 1 then
        .error .invalidParameter
      else
        .ok reg

/-- The configuration access forwarded to the devicetree layer. -/
def rootBridgeIoPciAccess (read : Bool) (width : DtIoWidth) (address : U64) (count : Uintn)
    (buffer : Bool) : EfiResult RegAccess :=
  match rootBridgeIoCheckParameter bridge .pciOperation width address count buffer with
  | .error e => .error e
  | .ok reg =>
    let offset := (PCI_ECAM_ADDRESS (pciBus address) (pciDevice address) (pciFunction address)
      (pciRegisterNumber address)).setWidth 128
    if read then
      dtIoReadReg (some bridge.dtIo) width (some reg) offset count buffer
    else
      dtIoWriteReg (some bridge.dtIo) width (some reg) offset count buffer

/-- The common body of the memory and I/O accessors: the address is the offset. -/
def rootBridgeIoAccess (operation : OperationType) (read : Bool) (width : DtIoWidth)
    (address : U64) (count : Uintn) (buffer : Bool) : EfiResult RegAccess :=
  match rootBridgeIoCheckParameter bridge operation width address count buffer with
  | .error e => .error e
  | .ok reg =>
    let offset := address.setWidth 128
    if read then
      dtIoReadReg (some bridge.dtIo) width (some reg) offset count buffer
    else
      dtIoWriteReg (some bridge.dtIo) width (some reg) offset count buffer

def rootBridgeIoMemRead (width : DtIoWidth) (address : U64) (count : Uintn) (buffer : Bool) :
    EfiResult RegAccess :=
  rootBridgeIoAccess bridge .memOperation true width address count buffer

def rootBridgeIoMemWrite (width : DtIoWidth) (address : U64) (count : Uintn) (buffer : Bool) :
    EfiResult RegAccess :=
  rootBridgeIoAccess bridge .memOperation false width address count buffer

def rootBridgeIoIoRead (width : DtIoWidth) (address : U64) (count : Uintn) (buffer : Bool) :
    EfiResult RegAccess :=
  rootBridgeIoAccess bridge .ioOperation true width address count buffer

def rootBridgeIoIoWrite (width : DtIoWidth) (address : U64) (count : Uintn) (buffer : Bool) :
    EfiResult RegAccess :=
  rootBridgeIoAccess bridge .ioOperation false width address count buffer

end Access

/-- `BusRange` as `RootBridgeDtInit` sets it from `bus-range`. -/
def rootBridgeBusRange (busMin busMax : U32) : DtRange where
  childBase := busMin.setWidth 128
  parentBase := busMin.setWidth 128
  translatedParentBase := busMin.setWidth 128
  length := (busMax - busMin + 1).setWidth 128
  busDtIo := none

end FdtBusPkg
