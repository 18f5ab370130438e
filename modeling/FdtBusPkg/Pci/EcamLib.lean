import FdtBusPkg.Library.LastWrite
import FdtBusPkg.Pci.DtInit

/-!
The other readers of a PCI host node: the library that describes root bridges to the
generic host bridge driver, and the producer of the PCI PCDs. Both walk `ranges` on
their own; the library says that an aperture is absent by a base above its limit.
-/
namespace FdtBusPkg

def MAX_UINT32 : U64 := 0xFFFFFFFF

/-- `PCI_ROOT_BRIDGE_APERTURE`. -/
structure PciRootBridgeAperture where
  base : U64
  limit : U64
  translation : U64
  deriving DecidableEq, Repr

/-- `Base <= Limit`. -/
def PciRootBridgeAperture.present (aperture : PciRootBridgeAperture) : Bool :=
  aperture.base ≤ aperture.limit

/-- The fields of `PCI_ROOT_BRIDGE` that depend on the node. -/
structure PciRootBridgeInfo where
  allocationAttributes : U64
  bus : PciRootBridgeAperture
  aperture : PciAperture → PciRootBridgeAperture

def fbpRegToPhysicalAddress (reg : DtReg) : EfiResult U64 :=
  match reg.busDtIo with
  | some _ => .error .unsupported
  | none => .ok (reg.translatedBase.setWidth 64)

section ProcessPciHost

def noApertures : PciAperture → PciRootBridgeAperture
  | .io | .mem | .pMem => ⟨1, 0, 0⟩
  | .memAbove4G | .pMemAbove4G => ⟨MAX_UINT64, 0, 0⟩

/-- The cases of the `switch`. -/
def rangeAperture (range : DtRange) (a : PciAperture) : PciRootBridgeAperture :=
  let base := range.childBase.setWidth 64
  let limit := (base.setWidth 128 + range.length - 1).setWidth 64
  let translation :=
    if a = .io then 0 else base - range.translatedParentBase.setWidth 64
  if a.below4G && (base > MAX_UINT32 || limit > MAX_UINT32) then
    ⟨1, 0, translation⟩
  else
    ⟨base, limit, translation⟩

/-- The body of the loop over `ranges`. -/
def processRange (childAddressCells : Nat) (apertures : PciAperture → PciRootBridgeAperture)
    (range : DtRange) : PciAperture → PciRootBridgeAperture :=
  if !rangeHasPhysicalAddress range then
    apertures
  else
    match spaceCodeAperture (fbpPciGetRangeAttribute childAddressCells range.childBase) with
    | some a => Function.update apertures a (rangeAperture range a)
    | none => apertures

/-- A number of `bus-range`, zero if it cannot be read. -/
def busNumber (answer : EfiResult U32) : U64 :=
  match answer with
  | .ok bus => bus.setWidth 64
  | .error _ => 0

def processAllocationAttributes (apertures : PciAperture → PciRootBridgeAperture) : U64 :=
  (if !(apertures .pMem).present && !(apertures .pMemAbove4G).present then
    EFI_PCI_HOST_BRIDGE_COMBINE_MEM_PMEM else 0) |||
  (if (apertures .memAbove4G).present || (apertures .pMemAbove4G).present then
    EFI_PCI_HOST_BRIDGE_MEM64_DECODE else 0)

/-- The loop ends at the first entry that does not parse. -/
def processPciHost (node : PciHostNode) : EfiResult PciRootBridgeInfo := do
  let apertures := node.ranges.foldl (processRange node.childAddressCells) noApertures
  if node.rangesEnd ≠ .notFound then
    throw node.rangesEnd
  let reg ← node.ecamWindow
  let _ecamBase ← fbpRegToPhysicalAddress reg
  return {
    allocationAttributes := processAllocationAttributes apertures
    bus := ⟨busNumber node.busMin, busNumber node.busMax, 0⟩
    aperture := apertures }

end ProcessPciHost

/-- The loop of `ProcessHandle`, up to the first I/O entry. -/
def findIoTranslation (childAddressCells : Nat) : List DtRange → Option U64
  | [] => none
  | range :: rest =>
    if rangeHasPhysicalAddress range &&
        fbpPciGetRangeAttribute childAddressCells range.childBase = EFI_DT_PCI_HOST_RANGE_IO &&
        (range.childBase.setWidth 32).setWidth 64 ≤ MAX_UINT32 &&
        ((range.childBase + range.length - 1).setWidth 32).setWidth 64 ≤ MAX_UINT32 then
      some ((range.translatedParentBase.setWidth 64).setWidth 128 - range.childBase |>.setWidth 64)
    else
      findIoTranslation childAddressCells rest

/-- The PCDs that `ProcessHandle` sets. -/
structure PciPcds where
  pciExpressBaseAddress : U64
  pciDisableBusEnumeration : Bool
  pciIoTranslation : Option U64
  deriving DecidableEq, Repr

/-- `ProcessHandle` on a compatible node that is enabled. -/
def processHandle (node : PciHostNode) : EfiResult PciPcds := do
  let reg ← node.ecamWindow
  let regBase ← fbpRegToPhysicalAddress reg
  return {
    pciExpressBaseAddress := regBase
    pciDisableBusEnumeration := false
    pciIoTranslation := findIoTranslation node.childAddressCells node.ranges }

end FdtBusPkg
