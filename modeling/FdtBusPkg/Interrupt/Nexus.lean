import FdtBusPkg.DtBus.Environment
import FdtBusPkg.Library.Loop

/-!
Interrupt resolution: the comparison of property cells, the search of one
interrupt nexus for the row that translates a specifier, and the walk from a
device over any number of nexuses to an interrupt controller.
-/
namespace FdtBusPkg

/-- The `while (Cells--)` loop of `FbpPropertyCompare`. -/
def propertyCompareLoop (mem : Nat → U8) : Nat → Nat → Nat → Option Nat → Bool
  | 0, _, _, _ => true
  | cells + 1, whatBuf, againstBuf, maskBuf =>
    let mask : U32 := match maskBuf with
      | some buf => loadCell mem buf
      | none => BitVec.allOnes 32
    if loadCell mem whatBuf ≠ loadCell mem againstBuf &&& mask then
      false
    else
      propertyCompareLoop mem cells (whatBuf + 4) (againstBuf + 4) (maskBuf.map (· + 4))

def fbpPropertyCompare (mem : Nat → U8) (what against : DtProperty) (cells : Nat)
    (mask : Option DtProperty) : Bool :=
  let maskCells := match mask with
    | some m => m.cells
    | none => 0
  if what.cells < cells || against.cells < cells ||
      (maskCells != 0 && maskCells < cells) then
    false
  else
    propertyCompareLoop mem cells what.iter against.iter (mask.map (·.iter))

def isInterruptController (fdt : Fdt) (device : DtDevice) : Bool :=
  (dtIoGetProp fdt device "interrupt-controller").toBool

/-- The out parameters of `TranslateWithInterruptNexus`. -/
structure NexusMatch where
  interrupt : DtProperty
  interruptParentHandle : EfiHandle
  interruptParentIo : DtDevice
  interruptCells : U32
  deriving DecidableEq

/-- The child unit address of a row: whether it equals the masked address of the
child, and the map after it. -/
def rowUnitMatches (mem : Nat → U8) (child : DtDevice) (maskedUnitAddress : DtBusAddress)
    (map : DtProperty) : EfiResult (Bool × DtProperty) :=
  if child.info.addressCells.val = 0 then
    .ok (true, map)
  else
    match dtIoParsePropBusAddress mem child map 0 with
    | (.error _, _) => .error .deviceError
    | (.ok unitAddress, map) => .ok (unitAddress = maskedUnitAddress, map)

/-- The rest of a row, from the parent's phandle on: the length depends on the
parent the row names, whose unit address has no role. The match to return and
the map after the row. -/
def nexusRowTarget (bus : DtBus) (nexus : DtDevice) (map : DtProperty) :
    EfiResult (NexusMatch × DtProperty) :=
  match dtIoParsePropDevice bus nexus map 0 with
  | (.error _, _) => .error .deviceError
  | (.ok parentHandle, map) =>
    match bus.handleProtocol parentHandle with
    | .error _ => .error .deviceError
    | .ok parent =>
      match dtIoGetU32 bus.fdt parent "#interrupt-cells" 0 with
      | .error e => .error e
      | .ok parentInterruptCells =>
        match map.skip? parent.info.childAddressCells.val with
        | none => .error .deviceError
        | some map =>
          if h : parentInterruptCells.toNat ≤ map.cells then
            .ok (⟨map, parentHandle, parent, parentInterruptCells⟩,
              map.advance parentInterruptCells.toNat h)
          else
            .error .deviceError

/-- The row loop of `TranslateWithInterruptNexus`. A row holds at least the
parent's phandle, so the bytes left bound the iterations. -/
def nexusRowLoop (bus : DtBus) (child nexus : DtDevice) (interruptCells : U32)
    (interrupt mask : DtProperty) (maskedUnitAddress : DtBusAddress) :
    Nat → DtProperty → EfiResult NexusMatch
  | 0, _ => .error .notFound
  | fuel + 1, map =>
    if map.iter < map.end_ then
      match rowUnitMatches bus.fdt.mem child maskedUnitAddress map with
      | .error e => .error e
      | .ok (unitMatch, map) =>
        let goodMatch := unitMatch &&
          fbpPropertyCompare bus.fdt.mem interrupt map interruptCells.toNat (some mask)
        match map.skip? interruptCells.toNat with
        | none => .error .deviceError
        | some map =>
          match nexusRowTarget bus nexus map with
          | .error e => .error e
          | .ok (target, map) =>
            if goodMatch then
              .ok target
            else
              nexusRowLoop bus child nexus interruptCells interrupt mask maskedUnitAddress
                fuel map
    else
      .error .notFound

/-- The masked unit address of the child and the mask after its address cells. -/
def maskedChildUnitAddress {σ : Type} (bus : DtBus) (applyGcd : ApplyGcd σ)
    (child : DtDevice) (mask : DtProperty) (s : σ) :
    EfiResult (DtBusAddress × DtProperty) × σ :=
  if child.info.addressCells.val = 0 then
    (.ok (0#128, mask), s)
  else
    match dtIoGetReg bus.fdt applyGcd child 0 s with
    | (.error e, s) => (.error e, s)
    | (.ok reg, s) =>
      match dtIoParsePropBusAddress bus.fdt.mem child mask 0 with
      | (.error e, _) => (.error e, s)
      | (.ok maskAddress, mask) => (.ok (maskAddress &&& reg.busBase, mask), s)

def translateWithInterruptNexus {σ : Type} (bus : DtBus) (applyGcd : ApplyGcd σ)
    (child nexus : DtDevice) (interruptCells : U32) (interrupt : DtProperty) (s : σ) :
    EfiResult NexusMatch × σ :=
  match dtIoGetProp bus.fdt nexus "interrupt-map" with
  | .error e => (.error e, s)
  | .ok map =>
    match dtIoGetProp bus.fdt nexus "interrupt-map-mask" with
    | .error e => (.error e, s)
    | .ok mask =>
      match maskedChildUnitAddress bus applyGcd child mask s with
      | (.error e, s) => (.error e, s)
      | (.ok (maskedUnitAddress, mask), s) =>
        (nexusRowLoop bus child nexus interruptCells interrupt mask maskedUnitAddress
          (map.end_ - map.iter) map, s)

/-- The variables of `FbpInterruptGet` at the head of its loop; `Nexus` and
`Parent` are the same device there. -/
structure InterruptState where
  child : DtDevice
  nexus : DtDevice
  parentHandle : EfiHandle
  interruptCells : U32
  interrupt : DtProperty

/-- How `FbpInterruptGet` ends, or that it is still walking. -/
inductive InterruptOutcome
  | returned (result : EfiResult (EfiHandle × DtProperty))
  | divideByZero
  | running

/-- `FbpInterruptGet` up to its loop: the parent, the cell count and the cursor
at the specifier asked for. `none` is a division by zero. -/
def interruptGetStart (bus : DtBus) (this : DtDevice) (index : Nat) :
    Option (EfiResult InterruptState) :=
  match dtIoGetProp bus.fdt this "interrupts" with
  | .error e => some (.error e)
  | .ok interrupts =>
    let parentHandle := match dtIoGetDevice bus this "interrupt-parent" 0 with
      | .ok handle => some handle
      | .error _ => this.parentDevice
    match parentHandle with
    | none => some (.error .notFound)
    | some parentHandle =>
      match bus.handleProtocol parentHandle with
      | .error e => some (.error e)
      | .ok parent =>
        match dtIoGetU32 bus.fdt parent "#interrupt-cells" 0 with
        | .error e => some (.error e)
        | .ok interruptCells =>
          if interruptCells.toNat = 0 then
            none
          else if h : (interrupts.end_ - interrupts.iter) / (4 * interruptCells.toNat) ≤
              index then
            some (.error .notFound)
          else
            some (.ok ⟨this, parent, parentHandle, interruptCells,
              interrupts.advance (interruptCells.toNat * index) (by
                have hcells : ¬ interrupts.cells / interruptCells.toNat ≤ index := by
                  rwa [DtProperty.cells, Nat.div_div_eq_div_mul]
                exact Nat.le_trans (Nat.mul_le_mul_left _ (Nat.le_succ _))
                  (interrupts.elem_le_cells _ index hcells))⟩)

/-- One iteration of the loop of `FbpInterruptGet`. -/
def interruptGetBody {σ : Type} (bus : DtBus) (applyGcd : ApplyGcd σ) :
    InterruptState × σ →
      Loop.Step (InterruptState × σ) (EfiResult (EfiHandle × DtProperty) × σ)
  | (st, s) =>
    if isInterruptController bus.fdt st.nexus then
      .exit (.ok (st.parentHandle, st.interrupt), s)
    else
      match translateWithInterruptNexus bus applyGcd st.child st.nexus st.interruptCells
          st.interrupt s with
      | (.error e, s) => .exit (.error e, s)
      | (.ok m, s) =>
        .next (⟨st.nexus, m.interruptParentIo, m.interruptParentHandle, m.interruptCells,
          m.interrupt⟩, s)

/-- `FbpInterruptGet` with at most `fuel` iterations of its loop. -/
def fbpInterruptGet {σ : Type} (bus : DtBus) (applyGcd : ApplyGcd σ) (fuel : Nat)
    (this : DtDevice) (index : Nat) (s : σ) : InterruptOutcome :=
  match interruptGetStart bus this index with
  | none => .divideByZero
  | some (.error e) => .returned (.error e)
  | some (.ok st) =>
    match Loop.run (interruptGetBody bus applyGcd) fuel (st, s) with
    | none => .running
    | some (result, _) => .returned result

end FdtBusPkg
