import FdtBusPkg.Library.LastWrite
import FdtBusPkg.Pci.HostBridge
import FdtBusPkg.Pci.Ranges

/-!
The root bridge instance made from a devicetree node: what the node answers, the
initialisation from it and the validation of the result.
-/
namespace FdtBusPkg

def EFI_PCI_HOST_BRIDGE_MEM64_DECODE : U64 := 2

/-- What the devicetree I/O protocol of a PCI host node answers. `ranges` are the
entries before the first `GetRange` that fails, which fails with `rangesEnd`. -/
structure PciHostNode where
  dtIo : DtDevice
  pciDomain : EfiResult U32
  configReg : EfiResult DtReg
  firstReg : EfiResult DtReg
  busMin : EfiResult U32
  busMax : EfiResult U32
  keepConfig : Bool
  ranges : List DtRange
  rangesEnd : EfiError
  dmaAbove4G : Bool
  deriving DecidableEq

namespace PciHostNode

variable (node : PciHostNode)

def childAddressCells : Nat := node.dtIo.info.childAddressCells

/-- `GetRange` of `ranges`. -/
def getRange (index : Nat) : EfiResult DtRange :=
  match node.ranges[index]? with
  | some range => .ok range
  | none => .error node.rangesEnd

/-- The register called `config`, or else the first one. -/
def ecamWindow : EfiResult DtReg :=
  match node.configReg with
  | .ok reg => .ok reg
  | .error _ => node.firstReg

/-- The driver makes the entry the aperture `a`, until a later one takes its place. -/
def places (a : PciAperture) (range : DtRange) : Bool :=
  (node.keepConfig || rangeHasPhysicalAddress range) &&
    spaceCodeAperture (fbpPciGetRangeAttribute node.childAddressCells range.childBase) = some a

def lastEntry (a : PciAperture) : Option DtRange := node.ranges.reverse.find? (node.places a)

end PciHostNode

def zeroRange : DtRange := ⟨0, 0, 0, 0, none⟩

/-- The instance `AllocateZeroPool` gives, with the fields `RootBridgeCreate` sets before
`RootBridgeDtInit`. -/
def rootBridgeAlloc (dtIo : DtDevice) (controller : EfiHandle) : PciHostBridge where
  dtIo := dtIo
  segment := 0
  configReg := ⟨0, 0, 0, none⟩
  busRange := zeroRange
  ioRange := zeroRange
  memRange := zeroRange
  pMemRange := zeroRange
  memAbove4GRange := zeroRange
  pMemAbove4GRange := zeroRange
  vgaMemRange := zeroRange
  vgaIo1Range := zeroRange
  vgaIo2Range := zeroRange
  dmaAbove4G := false
  noExtendedConfigSpace := false
  keepExistingConfig := false
  controller := controller
  allocationAttributes := 0

/-- The allocation attributes that follow from the apertures. -/
def rootBridgeAllocationAttributes (bridge : PciRootBridge) : U64 :=
  (if !bridge.pMemRange.valid && !bridge.pMemAbove4GRange.valid then
    EFI_PCI_HOST_BRIDGE_COMBINE_MEM_PMEM else 0) |||
  (if bridge.memAbove4GRange.valid || bridge.pMemAbove4GRange.valid then
    EFI_PCI_HOST_BRIDGE_MEM64_DECODE else 0)

/-- The root bridge before the loop over `ranges`. -/
def rootBridgeBeforeRanges (node : PciHostNode) (configReg : DtReg) (busMin busMax : U32)
    (bridge : PciRootBridge) : PciRootBridge :=
  { bridge with
    segment :=
      match node.pciDomain with
      | .ok segment => segment
      | .error _ => bridge.segment
    configReg := configReg
    noExtendedConfigSpace := false
    busRange := rootBridgeBusRange busMin busMax
    keepExistingConfig := node.keepConfig || bridge.keepExistingConfig }

def rootBridgeDtInit (node : PciHostNode) (bridge : PciHostBridge) :
    EfiResult PciHostBridge := do
  let configReg ← node.ecamWindow
  let busMin ← node.busMin
  let busMax ← node.busMax
  let rootBridge :=
    rootBridgeBeforeRanges node configReg busMin busMax bridge.toPciRootBridge
  let rootBridge := setVgaWindows (rangesLoop node.childAddressCells node.getRange
    (node.ranges.length + 1) 0 rootBridge)
  return { bridge with
    toPciRootBridge := { rootBridge with dmaAbove4G := node.dmaAbove4G }
    allocationAttributes := rootBridgeAllocationAttributes rootBridge }

section DtInit

variable (node : PciHostNode)

theorem rangesLoop_node (bridge : PciRootBridge) :
    rangesLoop node.childAddressCells node.getRange (node.ranges.length + 1) 0 bridge =
      node.ranges.foldl (rangesStep node.childAddressCells) bridge := by
  apply rangesLoop_eq_foldl (e := node.rangesEnd)
  · intro i range hrange
    rw [Nat.zero_add, PciHostNode.getRange, hrange]
  · rw [Nat.zero_add, PciHostNode.getRange, List.getElem?_eq_none (Nat.le_refl _)]

theorem keepExistingConfig_rangesStep (cells : Nat) (bridge : PciRootBridge) (range : DtRange) :
    (rangesStep cells bridge range).keepExistingConfig = bridge.keepExistingConfig := by
  rw [rangesStep]
  split
  · rfl
  · split
    · next a _ => cases a <;> rfl
    · rfl

theorem aperture_rangesStep (bridge : PciRootBridge) (range : DtRange) (a : PciAperture)
    (hkeep : bridge.keepExistingConfig = node.keepConfig) :
    (rangesStep node.childAddressCells bridge range).aperture a =
      if node.places a range then range else bridge.aperture a := by
  rw [rangesStep, hkeep, PciHostNode.places]
  cases hused : node.keepConfig || rangeHasPhysicalAddress range with
  | false =>
      rw [← Bool.not_or, hused]
      rfl
  | true =>
      rw [← Bool.not_or, hused]
      simp only [Bool.not_true, Bool.false_eq_true, if_false, Bool.true_and]
      cases spaceCodeAperture (fbpPciGetRangeAttribute node.childAddressCells range.childBase) with
      | none => rfl
      | some b =>
          by_cases hb : b = a
          · simp [hb, PciRootBridge.aperture_setAperture_self]
          · simp [hb, PciRootBridge.aperture_setAperture_of_ne _ _ _ _ (Ne.symm hb)]

theorem aperture_foldl_rangesStep (bridge : PciRootBridge) (a : PciAperture)
    (hkeep : bridge.keepExistingConfig = node.keepConfig) :
    (node.ranges.foldl (rangesStep node.childAddressCells) bridge).aperture a =
      (node.lastEntry a).getD (bridge.aperture a) := by
  have hrun := LastWrite.read_foldl (rangesStep node.childAddressCells)
    (fun bridge => bridge.keepExistingConfig = node.keepConfig)
    (PciRootBridge.aperture · a) (node.places a) id
    (fun bridge range h => (keepExistingConfig_rangesStep _ bridge range).trans h)
    (fun bridge range h => aperture_rangesStep node bridge range a h) node.ranges bridge hkeep
  rwa [Option.map_id] at hrun

theorem busRange_setVgaWindows (bridge : PciRootBridge) :
    (setVgaWindows bridge).busRange = bridge.busRange := by
  simp only [setVgaWindows]
  split <;> split <;> rfl

theorem busRange_foldl_rangesStep (cells : Nat) (entries : List DtRange)
    (bridge : PciRootBridge) :
    (entries.foldl (rangesStep cells) bridge).busRange = bridge.busRange := by
  apply LastWrite.invariant_foldl (rangesStep cells) (fun b => b.busRange = bridge.busRange)
  · intro b range h
    rw [rangesStep]
    split
    · exact h
    · split
      · next a _ => cases a <;> exact h
      · exact h
  · rfl

theorem rootBridgeDtInit_ok (controller : EfiHandle) (bridge : PciHostBridge)
    (h : rootBridgeDtInit node (rootBridgeAlloc node.dtIo controller) = .ok bridge) :
    ∃ configReg busMin busMax, node.ecamWindow = .ok configReg ∧ node.busMin = .ok busMin ∧
      node.busMax = .ok busMax ∧ bridge.busRange = rootBridgeBusRange busMin busMax ∧
      ∀ a, bridge.aperture a = (node.lastEntry a).getD zeroRange := by
  rw [rootBridgeDtInit] at h
  cases hconfig : node.ecamWindow with
  | error e =>
      rw [hconfig] at h
      cases h
  | ok configReg =>
      cases hmin : node.busMin with
      | error e =>
          rw [hconfig, hmin] at h
          cases h
      | ok busMin =>
          cases hmax : node.busMax with
          | error e =>
              rw [hconfig, hmin, hmax] at h
              cases h
          | ok busMax =>
              rw [hconfig, hmin, hmax] at h
              simp only [bind, Except.bind, pure, Except.pure, Except.ok.injEq] at h
              subst h
              refine ⟨configReg, busMin, busMax, rfl, rfl, rfl, ?_, fun a => ?_⟩
              · rw [rangesLoop_node]
                exact (busRange_setVgaWindows _).trans (busRange_foldl_rangesStep _ _ _)
              · have hrange := aperture_foldl_rangesStep node (rootBridgeBeforeRanges node
                  configReg busMin busMax (rootBridgeAlloc node.dtIo controller).toPciRootBridge)
                  a (Bool.or_false _)
                have hinitial : (rootBridgeBeforeRanges node configReg busMin busMax
                    (rootBridgeAlloc node.dtIo controller).toPciRootBridge).aperture a =
                      zeroRange := by
                  cases a <;> rfl
                rw [hinitial, ← aperture_setVgaWindows, ← rangesLoop_node] at hrange
                rw [← hrange]
                cases a <;> rfl

end DtInit

/-- The apertures that have to lie below 4 GB. -/
def PciAperture.below4G : PciAperture → Bool
  | .io | .mem | .pMem => true
  | .memAbove4G | .pMemAbove4G => false

/-- The check of an aperture that has to lie below 4 GB. -/
def validateBelow4G (range : DtRange) : EfiStatus :=
  if range.valid && (range.rl ≥ SIZE_4GB || range.rb ≥ SIZE_4GB) then .error .unsupported
  else .ok ()

def rootBridgeValidate (bridge : PciRootBridge) : EfiStatus := do
  if !bridge.busRange.valid then
    throw .unsupported
  validateBelow4G bridge.ioRange
  validateBelow4G bridge.memRange
  validateBelow4G bridge.pMemRange

theorem validateBelow4G_ok_iff (range : DtRange) :
    validateBelow4G range = .ok () ↔
      (range.valid = true → range.rl < SIZE_4GB ∧ range.rb < SIZE_4GB) := by
  rw [validateBelow4G]
  cases range.valid with
  | false => simp
  | true => simp [BitVec.not_le]

theorem rootBridgeValidate_ok_iff (bridge : PciRootBridge) :
    rootBridgeValidate bridge = .ok () ↔ bridge.busRange.valid = true ∧
      ∀ a : PciAperture, a.below4G = true → validateBelow4G (bridge.aperture a) = .ok () := by
  have hall : (∀ a : PciAperture, a.below4G = true → validateBelow4G (bridge.aperture a) = .ok ()) ↔
      validateBelow4G bridge.ioRange = .ok () ∧ validateBelow4G bridge.memRange = .ok () ∧
        validateBelow4G bridge.pMemRange = .ok () := by
    constructor
    · intro h
      exact ⟨h .io rfl, h .mem rfl, h .pMem rfl⟩
    · rintro ⟨hio, hmem, hpMem⟩ a ha
      cases a with
      | io => exact hio
      | mem => exact hmem
      | pMem => exact hpMem
      | memAbove4G | pMemAbove4G => cases ha
  rw [hall, rootBridgeValidate]
  cases bridge.busRange.valid with
  | false => simp [bind, Except.bind, throw, throwThe, MonadExceptOf.throw]
  | true =>
      cases validateBelow4G bridge.ioRange <;> cases validateBelow4G bridge.memRange <;>
        simp [bind, Except.bind]

section BusRange

variable (busMin busMax : U32)

theorem toNat_rb_rootBridgeBusRange :
    (rootBridgeBusRange busMin busMax).rb.toNat = busMin.toNat := by
  have hmin := busMin.isLt
  rw [DtRange.rb, BitVec.toNat_setWidth]
  simp only [rootBridgeBusRange, BitVec.toNat_setWidth]
  omega

theorem toNat_length_rootBridgeBusRange :
    (rootBridgeBusRange busMin busMax).length.toNat =
      (busMax.toNat + 2 ^ 32 - busMin.toNat + 1) % 2 ^ 32 := by
  have hmin := busMin.isLt
  have hone : (1 : U32).toNat = 1 := rfl
  simp only [rootBridgeBusRange, BitVec.toNat_setWidth, BitVec.toNat_add, BitVec.toNat_sub, hone]
  omega

theorem valid_rootBridgeBusRange_iff :
    (rootBridgeBusRange busMin busMax).valid = true ↔
      (rootBridgeBusRange busMin busMax).length.toNat ≠ 0 := by
  rw [DtRange.valid, bne_iff_ne, ne_eq, ← BitVec.toNat_inj]
  rfl

theorem toNat_rl_rootBridgeBusRange
    (hvalid : (rootBridgeBusRange busMin busMax).valid = true) :
    (rootBridgeBusRange busMin busMax).rl.toNat =
      if busMin ≤ busMax then busMax.toNat else 2 ^ 32 + busMax.toNat := by
  have hmin := busMin.isLt
  have hmax := busMax.isLt
  have hone : (1 : U128).toNat = 1 := rfl
  have hlength := toNat_length_rootBridgeBusRange busMin busMax
  have hne := (valid_rootBridgeBusRange_iff busMin busMax).mp hvalid
  have hbase : (rootBridgeBusRange busMin busMax).childBase.toNat = busMin.toNat := by
    rw [rootBridgeBusRange, BitVec.toNat_setWidth]
    omega
  rw [DtRange.rl, BitVec.toNat_setWidth, BitVec.toNat_sub, BitVec.toNat_add, hbase, hone]
  rw [hlength] at hne ⊢
  split
  · next h =>
      rw [BitVec.le_def] at h
      omega
  · next h =>
      rw [BitVec.le_def] at h
      omega

end BusRange

/-- A root bridge that `RootBridgeDtInit` and `RootBridgeValidate` accept. -/
structure InitialisedRootBridge where
  node : PciHostNode
  controller : EfiHandle
  bridge : PciHostBridge
  initialised : rootBridgeDtInit node (rootBridgeAlloc node.dtIo controller) = .ok bridge
  validated : rootBridgeValidate bridge.toPciRootBridge = .ok ()

namespace InitialisedRootBridge

variable (p : InitialisedRootBridge)

theorem busRange_bridge : ∃ busMin busMax, p.node.busMin = .ok busMin ∧
    p.node.busMax = .ok busMax ∧ p.bridge.busRange = rootBridgeBusRange busMin busMax ∧
    (rootBridgeBusRange busMin busMax).valid = true := by
  obtain ⟨-, busMin, busMax, -, hmin, hmax, hrange, -⟩ :=
    rootBridgeDtInit_ok p.node p.controller p.bridge p.initialised
  refine ⟨busMin, busMax, hmin, hmax, hrange, ?_⟩
  rw [← hrange]
  exact ((rootBridgeValidate_ok_iff _).mp p.validated).1

theorem aperture_bridge (a : PciAperture) :
    p.bridge.aperture a = (p.node.lastEntry a).getD zeroRange := by
  obtain ⟨-, -, -, -, -, -, -, haperture⟩ :=
    rootBridgeDtInit_ok p.node p.controller p.bridge p.initialised
  exact haperture a

theorem below4G_of_entry (a : PciAperture) (range : DtRange)
    (h : p.node.lastEntry a = some range) (hclass : a.below4G = true) :
    validateBelow4G range = .ok () := by
  have hvalid := ((rootBridgeValidate_ok_iff _).mp p.validated).2 a hclass
  rwa [p.aperture_bridge a, h] at hvalid

end InitialisedRootBridge

/-- A node with buses 0 to 255 and no apertures. -/
def busesOnlyNode : PciHostNode where
  dtIo := .root ⟨0, 1, 0, 2, 2, 3, 2, true, 0, none, MAX_UINT64⟩
  pciDomain := .ok 0
  configReg := .ok ⟨0x40000000, 0x40000000, 0x10000000, none⟩
  firstReg := .ok ⟨0x40000000, 0x40000000, 0x10000000, none⟩
  busMin := .ok 0
  busMax := .ok 255
  keepConfig := false
  ranges := []
  rangesEnd := .notFound
  dmaAbove4G := true

/-- What `RootBridgeCreate` sets `PcdPciIoTranslation` to, when it holds `pcd`. -/
def rootBridgeIoTranslation (bridge : PciRootBridge) (pcd : U64) : Option U64 :=
  if bridge.ioRange.valid && pcd == 0 then some (-bridge.ioRange.rt) else none

end FdtBusPkg
