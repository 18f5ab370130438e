import FdtBusPkg.Library.Logged
import FdtBusPkg.Interrupt.Total

/-!
The cells that the search of an interrupt nexus reads through its three cursors. Every
function is the one of the walk with a log of its loads; a load outside its property
comes only from a comparison with a mask that has no cells left, whose length is not
checked.
-/
namespace FdtBusPkg

inductive WalkCursor
  | interrupt
  | map
  | mask
  deriving DecidableEq, Repr

structure CellRead where
  cursor : WalkCursor
  address : Nat
  deriving DecidableEq, Repr

section Definitions

variable (mem : Nat → U8)

def readCell (cursor : WalkCursor) (a : Nat) : Logged CellRead U32 :=
  Logged.record (loadCell mem a) ⟨cursor, a⟩

/-- The mask of an iteration, `-1` without a mask. -/
def maskReads : Option Nat → Logged CellRead U32
  | some buf => readCell mem .mask buf
  | none => pure (BitVec.allOnes 32)

/-- `propertyCompareLoop` with its loads. -/
def propertyCompareLoopReads : Nat → Nat → Nat → Option Nat → Logged CellRead Bool
  | 0, _, _, _ => pure true
  | cells + 1, whatBuf, againstBuf, maskBuf => do
    let mask ← maskReads mem maskBuf
    let what ← readCell mem .interrupt whatBuf
    let against ← readCell mem .map againstBuf
    if what ≠ against &&& mask then
      pure false
    else
      propertyCompareLoopReads cells (whatBuf + 4) (againstBuf + 4) (maskBuf.map (· + 4))

/-- `fbpPropertyCompare` with its loads. -/
def propertyCompareReads (what against : DtProperty) (cells : Nat)
    (mask : Option DtProperty) : Logged CellRead Bool :=
  let maskCells := match mask with
    | some m => m.cells
    | none => 0
  if what.cells < cells || against.cells < cells ||
      (maskCells != 0 && maskCells < cells) then
    pure false
  else
    propertyCompareLoopReads mem cells what.iter against.iter (mask.map (·.iter))

/-- `loadElem` with its loads. -/
def loadElemReads (cursor : WalkCursor) : Nat → Nat → U128 → Logged CellRead U128
  | 0, _, value => pure value
  | remaining + 1, buf, value => do
    let cell ← readCell mem cursor buf
    loadElemReads cursor remaining (buf + 4)
      (value ||| (fdt32ToCpu cell).setWidth 128 <<< (32 * remaining))

/-- `dtIoParsePropBusAddress` with its loads. -/
def busAddressReads (cursor : WalkCursor) (device : DtDevice) (p : DtProperty) (index : Nat) :
    Logged CellRead (EfiResult DtBusAddress × DtProperty) :=
  let elemCells := device.info.addressCells.val
  if elemCells = 0 then
    pure (.error .notFound, p)
  else if h : p.cells / elemCells ≤ index then
    pure (.error .notFound, p)
  else do
    let value ← loadElemReads mem cursor elemCells (p.iter + 4 * (elemCells * index)) 0#128
    pure (.ok value, p.advance (elemCells * (index + 1)) (p.elem_le_cells elemCells index h))

/-- `dtIoParsePropU32` with its load. -/
def u32Reads (cursor : WalkCursor) (p : DtProperty) (index : Nat) :
    Logged CellRead (EfiResult U32 × DtProperty) :=
  if h : p.cells ≤ index then
    pure (.error .notFound, p)
  else do
    let cell ← readCell mem cursor (p.iter + 4 * index)
    pure (.ok (fdt32ToCpu cell), p.advance (index + 1) (p.cell_le_cells index h))

/-- `rowUnitMatches` with its loads. -/
def rowUnitMatchesReads (child : DtDevice) (maskedUnitAddress : DtBusAddress)
    (map : DtProperty) : Logged CellRead (EfiResult (Bool × DtProperty)) :=
  if child.info.addressCells.val = 0 then
    pure (.ok (true, map))
  else do
    match ← busAddressReads mem .map child map 0 with
    | (.error _, _) => pure (.error .deviceError)
    | (.ok unitAddress, map) => pure (.ok (unitAddress = maskedUnitAddress, map))

variable (bus : DtBus)

/-- `dtIoParsePropDevice` with its load. -/
def deviceReads (device : DtDevice) (p : DtProperty) (index : Nat) :
    Logged CellRead (EfiResult EfiHandle × DtProperty) := do
  match ← u32Reads bus.fdt.mem .map p index with
  | (.error e, _) => pure (.error e, p)
  | (.ok phandle, q) =>
    let nodeOffset := bus.nodeOffsetByPhandle phandle
    if nodeOffset < 0 then
      pure (.error .notFound, p)
    else
      match bus.nodePath nodeOffset with
      | .error e => pure (.error e, p)
      | .ok path =>
        match bus.lookup device path true with
        | .error e => pure (.error e, p)
        | .ok handle => pure (.ok handle, q)

/-- `nexusRowTarget` with its load. -/
def nexusRowTargetReads (nexus : DtDevice) (map : DtProperty) :
    Logged CellRead (EfiResult (NexusMatch × DtProperty)) := do
  match ← deviceReads bus nexus map 0 with
  | (.error _, _) => pure (.error .deviceError)
  | (.ok parentHandle, map) =>
    match bus.handleProtocol parentHandle with
    | .error _ => pure (.error .deviceError)
    | .ok parent =>
      match dtIoGetU32 bus.fdt parent "#interrupt-cells" 0 with
      | .error e => pure (.error e)
      | .ok parentInterruptCells =>
        match map.skip? parent.info.childAddressCells.val with
        | none => pure (.error .deviceError)
        | some map =>
          if h : parentInterruptCells.toNat ≤ map.cells then
            pure (.ok (⟨map, parentHandle, parent, parentInterruptCells⟩,
              map.advance parentInterruptCells.toNat h))
          else
            pure (.error .deviceError)

/-- The comparison of a specifier, made only where the unit address matches. -/
def rowCompareReads (unitMatch : Bool) (interrupt map : DtProperty) (interruptCells : U32)
    (mask : DtProperty) : Logged CellRead Bool :=
  if unitMatch then
    propertyCompareReads bus.fdt.mem interrupt map interruptCells.toNat (some mask)
  else
    pure false

/-- `nexusRowLoop` with its loads. -/
def nexusRowLoopReads (child nexus : DtDevice) (interruptCells : U32)
    (interrupt mask : DtProperty) (maskedUnitAddress : DtBusAddress) :
    Nat → DtProperty → Logged CellRead (EfiResult NexusMatch)
  | 0, _ => pure (.error .notFound)
  | fuel + 1, map =>
    if map.iter < map.end_ then do
      match ← rowUnitMatchesReads bus.fdt.mem child maskedUnitAddress map with
      | .error e => pure (.error e)
      | .ok (unitMatch, map) =>
        let goodMatch ← rowCompareReads bus unitMatch interrupt map interruptCells mask
        match map.skip? interruptCells.toNat with
        | none => pure (.error .deviceError)
        | some map =>
          match ← nexusRowTargetReads bus nexus map with
          | .error e => pure (.error e)
          | .ok (target, map) =>
            if goodMatch then
              pure (.ok target)
            else
              nexusRowLoopReads child nexus interruptCells interrupt mask maskedUnitAddress
                fuel map
    else
      pure (.error .notFound)

/-- `maskedChildUnitAddress` with its loads. -/
def maskedUnitAddressReads {σ : Type} (applyGcd : ApplyGcd σ) (child : DtDevice)
    (mask : DtProperty) (s : σ) :
    Logged CellRead (EfiResult (DtBusAddress × DtProperty) × σ) :=
  if child.info.addressCells.val = 0 then
    pure (.ok (0#128, mask), s)
  else
    match dtIoGetReg bus.fdt applyGcd child 0 s with
    | (.error e, s) => pure (.error e, s)
    | (.ok reg, s) => do
      match ← busAddressReads bus.fdt.mem .mask child mask 0 with
      | (.error e, _) => pure (.error e, s)
      | (.ok maskAddress, mask) => pure (.ok (maskAddress &&& reg.busBase, mask), s)

/-- `translateWithInterruptNexus` with the loads through its three cursors. -/
def translateReads {σ : Type} (applyGcd : ApplyGcd σ) (child nexus : DtDevice)
    (interruptCells : U32) (interrupt : DtProperty) (s : σ) :
    Logged CellRead (EfiResult NexusMatch × σ) :=
  match dtIoGetProp bus.fdt nexus "interrupt-map" with
  | .error e => pure (.error e, s)
  | .ok map =>
    match dtIoGetProp bus.fdt nexus "interrupt-map-mask" with
    | .error e => pure (.error e, s)
    | .ok mask => do
      match ← maskedUnitAddressReads bus applyGcd child mask s with
      | (.error e, s) => pure (.error e, s)
      | (.ok (maskedUnitAddress, mask), s) =>
        let result ← nexusRowLoopReads bus child nexus interruptCells interrupt mask
          maskedUnitAddress (map.end_ - map.iter) map
        pure (result, s)

end Definitions

section Values

variable (mem : Nat → U8)

@[simp] theorem value_readCell (cursor : WalkCursor) (a : Nat) :
    (readCell mem cursor a).value = loadCell mem a := rfl

theorem value_propertyCompareLoopReads (cells what against : Nat) (mask : Option Nat) :
    (propertyCompareLoopReads mem cells what against mask).value =
      propertyCompareLoop mem cells what against mask := by
  induction cells generalizing what against mask with
  | zero => rfl
  | succ cells ih =>
      rw [propertyCompareLoopReads]
      simp only [Logged.value_bind, value_readCell]
      refine (apply_ite Logged.value _ _ _).trans ?_
      cases mask with
      | none => exact if_congr Iff.rfl rfl (ih (what + 4) (against + 4) none)
      | some buf => exact if_congr Iff.rfl rfl (ih (what + 4) (against + 4) (some (buf + 4)))

theorem value_propertyCompareReads (what against : DtProperty) (cells : Nat)
    (mask : Option DtProperty) :
    (propertyCompareReads mem what against cells mask).value =
      fbpPropertyCompare mem what against cells mask := by
  cases mask with
  | none =>
      simp only [propertyCompareReads, fbpPropertyCompare, Option.map_none]
      split
      · rfl
      · exact value_propertyCompareLoopReads mem _ _ _ none
  | some m =>
      simp only [propertyCompareReads, fbpPropertyCompare, Option.map_some]
      split
      · rfl
      · exact value_propertyCompareLoopReads mem _ _ _ (some m.iter)

theorem value_loadElemReads (cursor : WalkCursor) (cells buf : Nat) (value : U128) :
    (loadElemReads mem cursor cells buf value).value = loadElem mem cells buf value := by
  induction cells generalizing buf value with
  | zero => rfl
  | succ cells ih =>
      rw [loadElemReads, loadElem, Logged.value_bind, value_readCell]
      exact ih _ _

theorem value_busAddressReads (cursor : WalkCursor) (device : DtDevice) (p : DtProperty)
    (index : Nat) :
    (busAddressReads mem cursor device p index).value =
      dtIoParsePropBusAddress mem device p index := by
  simp only [busAddressReads, dtIoParsePropBusAddress, parseAddressElem, parseElem]
  split
  · rfl
  · split
    · rfl
    · rw [Logged.value_bind, Logged.value_pure, value_loadElemReads]

theorem value_u32Reads (cursor : WalkCursor) (p : DtProperty) (index : Nat) :
    (u32Reads mem cursor p index).value = dtIoParsePropU32 mem p index := by
  rw [u32Reads, dtIoParsePropU32]
  split
  · rfl
  · rfl

theorem value_rowUnitMatchesReads (child : DtDevice) (maskedUnitAddress : DtBusAddress)
    (map : DtProperty) :
    (rowUnitMatchesReads mem child maskedUnitAddress map).value =
      rowUnitMatches mem child maskedUnitAddress map := by
  rw [rowUnitMatchesReads, rowUnitMatches]
  split
  · rfl
  · rw [Logged.value_bind, value_busAddressReads]
    rcases dtIoParsePropBusAddress mem child map 0 with ⟨_ | _, _⟩ <;> rfl

variable (bus : DtBus)

theorem value_deviceReads (device : DtDevice) (p : DtProperty) (index : Nat) :
    (deviceReads bus device p index).value = dtIoParsePropDevice bus device p index := by
  rw [deviceReads, dtIoParsePropDevice, Logged.value_bind, value_u32Reads]
  rcases dtIoParsePropU32 bus.fdt.mem p index with ⟨_ | phandle, q⟩
  · rfl
  · dsimp only
    split
    · rfl
    · cases bus.nodePath (bus.nodeOffsetByPhandle phandle) with
      | error e => rfl
      | ok path =>
          dsimp only
          cases bus.lookup device path true <;> rfl

theorem value_nexusRowTargetReads (nexus : DtDevice) (map : DtProperty) :
    (nexusRowTargetReads bus nexus map).value = nexusRowTarget bus nexus map := by
  rw [nexusRowTargetReads, nexusRowTarget, Logged.value_bind, value_deviceReads]
  rcases dtIoParsePropDevice bus nexus map 0 with ⟨_ | parentHandle, rest⟩
  · rfl
  · dsimp only
    cases bus.handleProtocol parentHandle with
    | error e => rfl
    | ok parent =>
        dsimp only
        cases dtIoGetU32 bus.fdt parent "#interrupt-cells" 0 with
        | error e => rfl
        | ok cells =>
            dsimp only
            cases rest.skip? parent.info.childAddressCells.val with
            | none => rfl
            | some next =>
                dsimp only
                split <;> rfl

theorem value_nexusRowLoopReads (child nexus : DtDevice) (interruptCells : U32)
    (interrupt mask : DtProperty) (maskedUnitAddress : DtBusAddress) (fuel : Nat)
    (map : DtProperty) :
    (nexusRowLoopReads bus child nexus interruptCells interrupt mask maskedUnitAddress fuel
        map).value =
      nexusRowLoop bus child nexus interruptCells interrupt mask maskedUnitAddress fuel map := by
  induction fuel generalizing map with
  | zero => rfl
  | succ fuel ih =>
      rw [nexusRowLoopReads, nexusRowLoop]
      split
      · rw [Logged.value_bind, value_rowUnitMatchesReads]
        rcases rowUnitMatches bus.fdt.mem child maskedUnitAddress map with e | ⟨unitMatch, row⟩
        · rfl
        · dsimp only
          have hcompare : (rowCompareReads bus unitMatch interrupt row interruptCells mask).value =
              (unitMatch && fbpPropertyCompare bus.fdt.mem interrupt row interruptCells.toNat
                (some mask)) := by
            cases unitMatch with
            | false => rfl
            | true =>
                rw [Bool.true_and]
                exact value_propertyCompareReads bus.fdt.mem interrupt row
                  interruptCells.toNat (some mask)
          rw [Logged.value_bind, hcompare]
          cases row.skip? interruptCells.toNat with
          | none => rfl
          | some rest =>
              dsimp only
              rw [Logged.value_bind, value_nexusRowTargetReads]
              rcases nexusRowTarget bus nexus rest with e | ⟨target, next⟩
              · rfl
              · dsimp only
                split
                · rfl
                · exact ih next
      · rfl

theorem value_maskedUnitAddressReads {σ : Type} (applyGcd : ApplyGcd σ) (child : DtDevice)
    (mask : DtProperty) (s : σ) :
    (maskedUnitAddressReads bus applyGcd child mask s).value =
      maskedChildUnitAddress bus applyGcd child mask s := by
  rw [maskedUnitAddressReads, maskedChildUnitAddress]
  split
  · rfl
  · rcases dtIoGetReg bus.fdt applyGcd child 0 s with ⟨_ | reg, s'⟩
    · rfl
    · dsimp only
      rw [Logged.value_bind, value_busAddressReads]
      rcases dtIoParsePropBusAddress bus.fdt.mem child mask 0 with ⟨_ | _, _⟩ <;> rfl

theorem value_translateReads {σ : Type} (applyGcd : ApplyGcd σ) (child nexus : DtDevice)
    (interruptCells : U32) (interrupt : DtProperty) (s : σ) :
    (translateReads bus applyGcd child nexus interruptCells interrupt s).value =
      translateWithInterruptNexus bus applyGcd child nexus interruptCells interrupt s := by
  rw [translateReads, translateWithInterruptNexus]
  cases dtIoGetProp bus.fdt nexus "interrupt-map" with
  | error e => rfl
  | ok map =>
      dsimp only
      cases dtIoGetProp bus.fdt nexus "interrupt-map-mask" with
      | error e => rfl
      | ok mask =>
          dsimp only
          rw [Logged.value_bind, value_maskedUnitAddressReads]
          rcases maskedChildUnitAddress bus applyGcd child mask s with ⟨_ | ⟨address, rest⟩, s'⟩
          · rfl
          · dsimp only
            rw [Logged.value_bind, value_nexusRowLoopReads, Logged.value_pure]

end Values

/-- A load lies inside the property of its cursor. -/
def ReadInside (interrupt map : DtProperty) (mask : Option DtProperty) (r : CellRead) : Prop :=
  match r.cursor with
  | .interrupt => interrupt.Inside r.address
  | .map => map.Inside r.address
  | .mask => ∃ m, mask = some m ∧ m.Inside r.address

/-- A comparison reads only inside its operands and is not equal where one of them is too
short. -/
structure CompareConfined (mem : Nat → U8) (what against : DtProperty) (cells : Nat)
    (mask : Option DtProperty) : Prop where
  inside : (propertyCompareReads mem what against cells mask).All (ReadInside what against mask)
  short (h : what.cells < cells ∨ against.cells < cells ∨ ∃ m, mask = some m ∧ m.cells < cells) :
    fbpPropertyCompare mem what against cells mask = false

/-- A comparison of cells with a mask that has none left, of operands that are long
enough. -/
def MaskOverrun (what against : DtProperty) (cells : Nat) (mask : Option DtProperty) : Prop :=
  (∃ m, mask = some m ∧ m.cells = 0) ∧ 0 < cells ∧ cells ≤ what.cells ∧ cells ≤ against.cells

section Compare

theorem DtProperty.not_inside_of_cells {p : DtProperty} (h : p.cells = 0) (a : Nat)
    (hle : p.iter ≤ a) : ¬ p.Inside a := by
  rintro ⟨-, hend⟩
  rw [DtProperty.cells] at h
  omega

variable (mem : Nat → U8)

theorem all_propertyCompareLoopReads (P : CellRead → Prop) (cells what against : Nat)
    (mask : Option Nat) (hwhat : ∀ i < cells, P ⟨.interrupt, what + 4 * i⟩)
    (hagainst : ∀ i < cells, P ⟨.map, against + 4 * i⟩)
    (hmask : ∀ buf, mask = some buf → ∀ i < cells, P ⟨.mask, buf + 4 * i⟩) :
    (propertyCompareLoopReads mem cells what against mask).All P := by
  induction cells generalizing what against mask with
  | zero => exact Logged.all_pure P true
  | succ cells ih =>
      have hshift (a i : Nat) : a + 4 + 4 * i = a + 4 * (i + 1) := by omega
      rw [propertyCompareLoopReads]
      simp only [Logged.all_bind]
      refine ⟨?_, hwhat 0 cells.succ_pos |> (Logged.all_record P _ _).mpr,
        hagainst 0 cells.succ_pos |> (Logged.all_record P _ _).mpr, ?_⟩
      · cases mask with
        | none => exact Logged.all_pure P _
        | some buf => exact (Logged.all_record P _ _).mpr (hmask buf rfl 0 cells.succ_pos)
      · split
        · exact Logged.all_pure P false
        · refine ih _ _ _ (fun i hi => ?_) (fun i hi => ?_) fun buf hbuf i hi => ?_
          · exact hshift what i ▸ hwhat (i + 1) (Nat.succ_lt_succ hi)
          · exact hshift against i ▸ hagainst (i + 1) (Nat.succ_lt_succ hi)
          · obtain ⟨buf', rfl, rfl⟩ := Option.map_eq_some_iff.mp hbuf
            exact hshift buf' i ▸ hmask buf' rfl (i + 1) (Nat.succ_lt_succ hi)

theorem mask_of_all_propertyCompareLoopReads {P : CellRead → Prop} {cells what against buf : Nat}
    (hcells : 0 < cells)
    (h : (propertyCompareLoopReads mem cells what against (some buf)).All P) :
    P ⟨.mask, buf⟩ := by
  obtain ⟨cells, rfl⟩ := Nat.exists_eq_succ_of_ne_zero (Nat.ne_of_gt hcells)
  rw [propertyCompareLoopReads, Logged.all_bind] at h
  exact (Logged.all_record P _ _).mp h.1

variable (what against : DtProperty) (cells : Nat) (mask : Option DtProperty)

theorem propertyCompareReads_eq :
    propertyCompareReads mem what against cells mask =
      if what.cells < cells ∨ against.cells < cells ∨
          ∃ m, mask = some m ∧ m.cells ≠ 0 ∧ m.cells < cells then
        pure false
      else
        propertyCompareLoopReads mem cells what.iter against.iter (mask.map (·.iter)) := by
  cases mask with
  | none =>
      simp only [propertyCompareReads]
      exact if_congr (by simp) rfl rfl
  | some m =>
      simp only [propertyCompareReads]
      exact if_congr (by simp [or_assoc]) rfl rfl

theorem all_propertyCompareReads (h : ¬ MaskOverrun what against cells mask) :
    (propertyCompareReads mem what against cells mask).All (ReadInside what against mask) := by
  rw [propertyCompareReads_eq]
  split
  · exact Logged.all_pure _ false
  · next hlong =>
      obtain ⟨hwhat, hagainst, hmask⟩ : cells ≤ what.cells ∧ cells ≤ against.cells ∧
          ¬ ∃ m, mask = some m ∧ m.cells ≠ 0 ∧ m.cells < cells := by
        simpa only [not_or, Nat.not_lt] using hlong
      refine all_propertyCompareLoopReads mem _ cells _ _ _ (fun i hi => ?_) (fun i hi => ?_) ?_
      · exact what.inside_cell (Nat.lt_of_lt_of_le hi hwhat)
      · exact against.inside_cell (Nat.lt_of_lt_of_le hi hagainst)
      · intro buf hbuf i hi
        obtain ⟨m, rfl, rfl⟩ := Option.map_eq_some_iff.mp hbuf
        have hne : m.cells ≠ 0 := fun hzero =>
          h ⟨⟨m, rfl, hzero⟩, Nat.zero_lt_of_lt hi, hwhat, hagainst⟩
        have hle : cells ≤ m.cells := Nat.le_of_not_lt fun hlt => hmask ⟨m, rfl, hne, hlt⟩
        exact ⟨m, rfl, m.inside_cell (Nat.lt_of_lt_of_le hi hle)⟩

theorem mask_read_of_overrun {P : CellRead → Prop} {m : DtProperty}
    (hoverrun : MaskOverrun what against cells (some m))
    (h : (propertyCompareReads mem what against cells (some m)).All P) : P ⟨.mask, m.iter⟩ := by
  obtain ⟨⟨m', hm', hzero⟩, hcells, hwhat, hagainst⟩ := hoverrun
  cases hm'
  have hlong : ¬ (what.cells < cells ∨ against.cells < cells ∨
      ∃ m', some m = some m' ∧ m'.cells ≠ 0 ∧ m'.cells < cells) := by
    simp [hzero, hwhat, hagainst]
  rw [propertyCompareReads_eq, if_neg hlong] at h
  exact mask_of_all_propertyCompareLoopReads mem hcells h

theorem compareConfined_iff :
    CompareConfined mem what against cells mask ↔ ¬ MaskOverrun what against cells mask := by
  constructor
  · intro h hoverrun
    obtain ⟨m, rfl, hzero⟩ := hoverrun.1
    obtain ⟨m', hm', hinside⟩ := mask_read_of_overrun mem what against cells hoverrun h.inside
    cases hm'
    exact DtProperty.not_inside_of_cells hzero m.iter (Nat.le_refl _) hinside
  · intro h
    refine ⟨all_propertyCompareReads mem what against cells mask h, fun hshort => ?_⟩
    rw [← value_propertyCompareReads, propertyCompareReads_eq, if_pos]
    · rfl
    · by_cases hwhat : what.cells < cells
      · exact Or.inl hwhat
      · by_cases hagainst : against.cells < cells
        · exact Or.inr (Or.inl hagainst)
        · obtain hs | hs | ⟨m, rfl, hm⟩ := hshort
          · exact absurd hs hwhat
          · exact absurd hs hagainst
          · have hne : m.cells ≠ 0 := fun hzero =>
              h ⟨⟨m, rfl, hzero⟩, by omega, Nat.not_lt.mp hwhat, Nat.not_lt.mp hagainst⟩
            exact Or.inr (Or.inr ⟨m, rfl, hne, hm⟩)

end Compare

section Parse

theorem all_loadElemReads (mem : Nat → U8) (P : CellRead → Prop) (cursor : WalkCursor)
    (cells buf : Nat) (value : U128) (h : ∀ i < cells, P ⟨cursor, buf + 4 * i⟩) :
    (loadElemReads mem cursor cells buf value).All P := by
  induction cells generalizing buf value with
  | zero => exact Logged.all_pure P value
  | succ cells ih =>
      rw [loadElemReads, Logged.all_bind]
      refine ⟨(Logged.all_record P _ _).mpr (h 0 cells.succ_pos), ih _ _ fun i hi => ?_⟩
      have hshift : buf + 4 + 4 * i = buf + 4 * (i + 1) := by omega
      exact hshift ▸ h (i + 1) (Nat.succ_lt_succ hi)

theorem all_busAddressReads (mem : Nat → U8) (P : CellRead → Prop) (cursor : WalkCursor)
    (device : DtDevice) (p : DtProperty) (index : Nat)
    (h : ∀ a, p.Inside a → P ⟨cursor, a⟩) : (busAddressReads mem cursor device p index).All P := by
  simp only [busAddressReads]
  split
  · exact Logged.all_pure P _
  · split
    · exact Logged.all_pure P _
    · next hindex =>
        rw [Logged.all_bind]
        refine ⟨all_loadElemReads mem P cursor _ _ _ fun i hi => h _ ?_, Logged.all_pure P _⟩
        have hle := p.elem_le_cells _ index hindex
        rw [Nat.mul_succ] at hle
        have hcell : p.iter + 4 * (device.info.addressCells.val * index) + 4 * i =
            p.iter + 4 * (device.info.addressCells.val * index + i) := by omega
        rw [hcell]
        exact p.inside_cell (by omega)

theorem all_deviceReads (bus : DtBus) (P : CellRead → Prop) (device : DtDevice) (p : DtProperty)
    (index : Nat) (h : ∀ a, p.Inside a → P ⟨.map, a⟩) : (deviceReads bus device p index).All P := by
  rw [deviceReads, Logged.all_bind]
  constructor
  · rw [u32Reads]
    split
    · exact Logged.all_pure P _
    · next hindex =>
        rw [Logged.all_bind]
        exact ⟨(Logged.all_record P _ _).mpr (h _ (p.inside_cell (Nat.lt_of_not_le hindex))),
          Logged.all_pure P _⟩
  · rcases (u32Reads bus.fdt.mem .map p index).value with ⟨_ | phandle, q⟩
    · exact Logged.all_pure P _
    · dsimp only
      split
      · exact Logged.all_pure P _
      · split
        · exact Logged.all_pure P _
        · split
          · exact Logged.all_pure P _
          · exact Logged.all_pure P _

theorem all_nexusRowTargetReads (bus : DtBus) (P : CellRead → Prop) (nexus : DtDevice)
    (p : DtProperty) (h : ∀ a, p.Inside a → P ⟨.map, a⟩) :
    (nexusRowTargetReads bus nexus p).All P := by
  rw [nexusRowTargetReads, Logged.all_bind]
  refine ⟨all_deviceReads bus P nexus p 0 h, ?_⟩
  rcases (deviceReads bus nexus p 0).value with ⟨_ | parentHandle, q⟩
  · exact Logged.all_pure P _
  · dsimp only
    repeat' split
    all_goals exact Logged.all_pure P _

theorem cells_of_skip? {p q : DtProperty} {n : Nat} (h : p.skip? n = some q) : n ≤ p.cells := by
  rw [DtProperty.skip?] at h
  split at h
  · assumption
  · cases h

theorem rowUnitMatches_follows {mem : Nat → U8} {child : DtDevice}
    {maskedUnitAddress : DtBusAddress} {map row : DtProperty} {unitMatch : Bool}
    (h : rowUnitMatches mem child maskedUnitAddress map = .ok (unitMatch, row)) :
    map.Follows row := by
  rw [rowUnitMatches] at h
  split at h
  · rw [← (Prod.mk.inj (Except.ok.inj h)).2]
    exact map.follows_refl
  · split at h
    · exact nomatch h
    · next hparse =>
        rw [← (Prod.mk.inj (Except.ok.inj h)).2]
        exact follows_parseAddressElem mem _ _ _ _ _ hparse

theorem all_rowUnitMatchesReads (mem : Nat → U8) (P : CellRead → Prop) (child : DtDevice)
    (maskedUnitAddress : DtBusAddress) (p : DtProperty) (h : ∀ a, p.Inside a → P ⟨.map, a⟩) :
    (rowUnitMatchesReads mem child maskedUnitAddress p).All P := by
  rw [rowUnitMatchesReads]
  split
  · exact Logged.all_pure P _
  · rw [Logged.all_bind]
    refine ⟨all_busAddressReads mem P .map child p 0 h, ?_⟩
    rcases (busAddressReads mem .map child p 0).value with ⟨_ | _, _⟩ <;>
      exact Logged.all_pure P _

end Parse

/-- The cursor at the specifier of the first row whose unit address matches, before which
all rows are well formed. -/
def firstCompared (bus : DtBus) (child nexus : DtDevice) (interruptCells : U32)
    (maskedUnitAddress : DtBusAddress) : Nat → DtProperty → Option DtProperty
  | 0, _ => none
  | fuel + 1, map =>
    if map.iter < map.end_ then
      match rowUnitMatches bus.fdt.mem child maskedUnitAddress map with
      | .error _ => none
      | .ok (true, map) => some map
      | .ok (false, map) =>
        match map.skip? interruptCells.toNat with
        | none => none
        | some map =>
          match nexusRowTarget bus nexus map with
          | .error _ => none
          | .ok (_, map) =>
            firstCompared bus child nexus interruptCells maskedUnitAddress fuel map
    else
      none

section Walk

variable (bus : DtBus) (child nexus : DtDevice) (interruptCells : U32)
  (interrupt mask : DtProperty)

/-- The loads through the three cursors lie in the properties of the cursors. -/
def TranslateConfined {σ : Type} (applyGcd : ApplyGcd σ) (s : σ) : Prop :=
  (translateReads bus applyGcd child nexus interruptCells interrupt s).All fun r =>
    match r.cursor with
    | .interrupt => interrupt.Inside r.address
    | .map => ∃ p, dtIoGetProp bus.fdt nexus "interrupt-map" = .ok p ∧ p.Inside r.address
    | .mask => ∃ p, dtIoGetProp bus.fdt nexus "interrupt-map-mask" = .ok p ∧ p.Inside r.address

/-- The mask ends with its unit address, and a row is compared for which specifier cells
are there. -/
def SpentMaskCompared {σ : Type} (applyGcd : ApplyGcd σ) (s : σ) : Prop :=
  ∃ map mask maskedUnitAddress rest s' row,
    dtIoGetProp bus.fdt nexus "interrupt-map" = .ok map ∧
    dtIoGetProp bus.fdt nexus "interrupt-map-mask" = .ok mask ∧
    maskedChildUnitAddress bus applyGcd child mask s = (.ok (maskedUnitAddress, rest), s') ∧
    firstCompared bus child nexus interruptCells maskedUnitAddress (map.end_ - map.iter) map =
      some row ∧
    MaskOverrun interrupt row interruptCells.toNat (some rest)

theorem rowCompareReads_false (row : DtProperty) :
    rowCompareReads bus false interrupt row interruptCells mask = pure false := rfl

variable {P : CellRead → Prop} (hinterrupt : ∀ a, interrupt.Inside a → P ⟨.interrupt, a⟩)
  (hmask : ∀ a, mask.Inside a → P ⟨.mask, a⟩) (hspent : mask.cells = 0 → ¬ P ⟨.mask, mask.iter⟩)
include hinterrupt hmask hspent

theorem all_rowCompareReads_iff (row : DtProperty) (hmap : ∀ a, row.Inside a → P ⟨.map, a⟩) :
    (rowCompareReads bus true interrupt row interruptCells mask).All P ↔
      ¬ MaskOverrun interrupt row interruptCells.toNat (some mask) := by
  rw [rowCompareReads, if_pos rfl]
  constructor
  · intro h hoverrun
    obtain ⟨m, hm, hzero⟩ := hoverrun.1
    cases hm
    exact hspent hzero (mask_read_of_overrun bus.fdt.mem interrupt row _ hoverrun h)
  · intro h
    refine (all_propertyCompareReads bus.fdt.mem interrupt row _ _ h).imp fun r hr => ?_
    obtain ⟨cursor, a⟩ := r
    cases cursor with
    | interrupt => exact hinterrupt a hr
    | map => exact hmap a hr
    | mask =>
        obtain ⟨m, hm, hinside⟩ := hr
        cases hm
        exact hmask a hinside

omit hinterrupt hmask hspent in
/-- The rest of a row is read inside the map, whatever the comparison has said. -/
theorem all_restOfRow_iff (goodMatch : Bool) (row : DtProperty)
    (hmap : ∀ a, row.Inside a → P ⟨.map, a⟩)
    (next : DtProperty → Logged CellRead (EfiResult NexusMatch)) :
    (match row.skip? interruptCells.toNat with
      | none => pure (.error .deviceError)
      | some map => do
        match ← nexusRowTargetReads bus nexus map with
        | .error e => pure (.error e)
        | .ok (target, map) => if goodMatch then pure (.ok target) else next map :
      Logged CellRead (EfiResult NexusMatch)).All P ↔
    ∀ rest target last, row.skip? interruptCells.toNat = some rest →
      nexusRowTarget bus nexus rest = .ok (target, last) → row.Follows last →
        goodMatch = false → (next last).All P := by
  cases hskip : row.skip? interruptCells.toNat with
  | none => exact iff_of_true (Logged.all_pure P _) nofun
  | some rest =>
      have hrest := DtProperty.follows_skip? row rest _ hskip
      dsimp only
      rw [Logged.all_bind, value_nexusRowTargetReads, and_iff_right
        (all_nexusRowTargetReads bus P nexus rest fun a ha => hmap a (hrest.inside ha))]
      cases htarget : nexusRowTarget bus nexus rest with
      | error e =>
          refine iff_of_true (Logged.all_pure P _) fun rest' target last hsome hok => ?_
          cases hsome
          exact nomatch htarget.symm.trans hok
      | ok target =>
          obtain ⟨target, last⟩ := target
          have hlast := DtProperty.follows_trans hrest
            (nexusRowTarget_spec bus nexus rest last target htarget).2
          dsimp only
          cases goodMatch with
          | true => exact iff_of_true (Logged.all_pure P _) fun _ _ _ _ _ _ => nofun
          | false =>
              constructor
              · intro h rest' target' last' hsome hok _ _
                cases hsome
                cases htarget.symm.trans hok
                exact h
              · intro h
                exact h rest target last rfl htarget hlast rfl

/-- The loop over the rows: only the first comparison can overrun the mask, since a row
that is too short to overrun it ends the search, and one that overruns it has failed. -/
theorem all_nexusRowLoopReads_iff (maskedUnitAddress : DtBusAddress) (fuel : Nat)
    (map : DtProperty) (hmap : ∀ a, map.Inside a → P ⟨.map, a⟩) :
    (nexusRowLoopReads bus child nexus interruptCells interrupt mask maskedUnitAddress fuel
        map).All P ↔
      ¬ ∃ row, firstCompared bus child nexus interruptCells maskedUnitAddress fuel map =
          some row ∧ MaskOverrun interrupt row interruptCells.toNat (some mask) := by
  induction fuel generalizing map with
  | zero => exact iff_of_true (Logged.all_pure P _) (fun h => nomatch h.choose_spec.1)
  | succ fuel ih =>
      have hnone : ¬ ∃ row, (none : Option DtProperty) = some row ∧
          MaskOverrun interrupt row interruptCells.toNat (some mask) :=
        fun h => nomatch h.choose_spec.1
      rw [nexusRowLoopReads, firstCompared]
      by_cases hlt : map.iter < map.end_
      · rw [if_pos hlt, if_pos hlt, Logged.all_bind, value_rowUnitMatchesReads,
          and_iff_right (all_rowUnitMatchesReads bus.fdt.mem P child maskedUnitAddress map hmap)]
        cases hunit : rowUnitMatches bus.fdt.mem child maskedUnitAddress map with
        | error e => exact iff_of_true (Logged.all_pure P _) hnone
        | ok unit =>
            obtain ⟨unitMatch, row⟩ := unit
            have hrow := rowUnitMatches_follows hunit
            have hin (a : Nat) (ha : row.Inside a) : P ⟨.map, a⟩ := hmap a (hrow.inside ha)
            have hagain (last : DtProperty) (hlast : row.Follows last) :=
              ih last fun a ha => hin a (hlast.inside ha)
            dsimp only
            rw [Logged.all_bind, all_restOfRow_iff bus nexus interruptCells _ row hin]
            cases unitMatch with
            | false =>
                rw [rowCompareReads_false, and_iff_right (Logged.all_pure P false)]
                dsimp only
                cases hskip : row.skip? interruptCells.toNat with
                | none => exact iff_of_true nofun hnone
                | some rest =>
                    dsimp only
                    cases htarget : nexusRowTarget bus nexus rest with
                    | error e =>
                        refine iff_of_true (fun rest' target last hsome hok => ?_) hnone
                        cases hsome
                        exact nomatch htarget.symm.trans hok
                    | ok target =>
                        obtain ⟨target, last⟩ := target
                        have hlast := DtProperty.follows_trans
                          (DtProperty.follows_skip? row rest _ hskip)
                          (nexusRowTarget_spec bus nexus rest last target htarget).2
                        rw [← hagain last hlast]
                        constructor
                        · intro h
                          exact h rest target last rfl htarget hlast rfl
                        · intro h rest' target' last' hsome hok _ _
                          cases hsome
                          cases htarget.symm.trans hok
                          exact h
            | true =>
                rw [all_rowCompareReads_iff bus interruptCells interrupt mask hinterrupt hmask
                  hspent row hin]
                by_cases hoverrun : MaskOverrun interrupt row interruptCells.toNat (some mask)
                · exact iff_of_false (fun h => h.1 hoverrun) fun h => h ⟨row, rfl, hoverrun⟩
                · refine iff_of_true ⟨hoverrun, fun rest target last hskip _ hlast _ => ?_⟩ ?_
                  · refine (hagain last hlast).mpr ?_
                    rintro ⟨other, -, hspentMask, hcells, hwhat, -⟩
                    exact hoverrun ⟨hspentMask, hcells, hwhat, cells_of_skip? hskip⟩
                  · rintro ⟨other, hother, hover⟩
                    cases hother
                    exact hoverrun hover
      · rw [if_neg hlt, if_neg hlt]
        exact iff_of_true (Logged.all_pure P _) hnone

end Walk

section Translate

variable (bus : DtBus) (child nexus : DtDevice) (interruptCells : U32) (interrupt : DtProperty)

/-- The mask is read inside its property, and the mask that is left follows in it. -/
theorem maskedUnitAddressReads_spec {σ : Type} (P : CellRead → Prop) (applyGcd : ApplyGcd σ)
    (mask : DtProperty) (s : σ) (hmask : ∀ a, mask.Inside a → P ⟨.mask, a⟩) :
    (maskedUnitAddressReads bus applyGcd child mask s).All P ∧
      ∀ unit rest s', maskedChildUnitAddress bus applyGcd child mask s =
        (.ok (unit, rest), s') → mask.Follows rest := by
  constructor
  · rw [maskedUnitAddressReads]
    split
    · exact Logged.all_pure P _
    · split
      · exact Logged.all_pure P _
      · rw [Logged.all_bind]
        refine ⟨all_busAddressReads bus.fdt.mem P .mask child mask 0 hmask, ?_⟩
        rcases (busAddressReads bus.fdt.mem .mask child mask 0).value with ⟨_ | _, _⟩ <;>
          exact Logged.all_pure P _
  · intro unit rest s' h
    rw [maskedChildUnitAddress] at h
    split at h
    · rw [← (Prod.mk.inj (Except.ok.inj (Prod.mk.inj h).1)).2]
      exact mask.follows_refl
    · split at h
      · exact nomatch (Prod.mk.inj h).1
      · split at h
        · exact nomatch (Prod.mk.inj h).1
        · next hparse =>
            rw [← (Prod.mk.inj (Except.ok.inj (Prod.mk.inj h).1)).2]
            exact follows_parseAddressElem bus.fdt.mem _ _ _ _ _ hparse

theorem translateConfined_iff {σ : Type} (applyGcd : ApplyGcd σ) (s : σ) :
    TranslateConfined bus child nexus interruptCells interrupt applyGcd s ↔
      ¬ SpentMaskCompared bus child nexus interruptCells interrupt applyGcd s := by
  rw [TranslateConfined, translateReads]
  cases hmap : dtIoGetProp bus.fdt nexus "interrupt-map" with
  | error e =>
      refine iff_of_true (Logged.all_pure _ _) ?_
      rintro ⟨map, mask, unit, rest, s', row, hok, -⟩
      exact nomatch hmap.symm.trans hok
  | ok map =>
      cases hmask : dtIoGetProp bus.fdt nexus "interrupt-map-mask" with
      | error e =>
          refine iff_of_true (Logged.all_pure _ _) ?_
          rintro ⟨map', mask, unit, rest, s', row, -, hok, -⟩
          exact nomatch hmask.symm.trans hok
      | ok mask =>
          dsimp only
          obtain ⟨hreads, hfollows⟩ := maskedUnitAddressReads_spec bus child
            (fun r => match r.cursor with
              | .interrupt => interrupt.Inside r.address
              | .map => ∃ p, (.ok map : EfiResult DtProperty) = .ok p ∧ p.Inside r.address
              | .mask => ∃ p, (.ok mask : EfiResult DtProperty) = .ok p ∧ p.Inside r.address)
            applyGcd mask s fun a ha => ⟨mask, rfl, ha⟩
          rw [Logged.all_bind, value_maskedUnitAddressReads, and_iff_right hreads]
          rcases hunit : maskedChildUnitAddress bus applyGcd child mask s with
            ⟨e | ⟨unit, rest⟩, s'⟩
          · refine iff_of_true (Logged.all_pure _ _) ?_
            rintro ⟨map', mask', unit, rest, s'', row, -, hmask', hok, -⟩
            cases hmask.symm.trans hmask'
            exact nomatch (Prod.mk.inj (hunit.symm.trans hok)).1
          · have hrest := hfollows unit rest s' hunit
            dsimp only
            rw [Logged.all_bind, and_iff_left (Logged.all_pure _ _),
              all_nexusRowLoopReads_iff bus child nexus interruptCells interrupt rest
                (fun a ha => ha) (fun a ha => ⟨mask, rfl, hrest.inside ha⟩) ?_ unit _ map
                (fun a ha => ⟨map, rfl, ha⟩)]
            · refine not_congr ⟨?_, ?_⟩
              · rintro ⟨row, hfirst, hoverrun⟩
                exact ⟨map, mask, unit, rest, s', row, hmap, hmask, hunit, hfirst, hoverrun⟩
              · rintro ⟨map', mask', unit', rest', s'', row, hmap', hmask', hunit', hfirst,
                  hoverrun⟩
                cases hmap.symm.trans hmap'
                cases hmask.symm.trans hmask'
                cases hunit.symm.trans hunit'
                exact ⟨row, hfirst, hoverrun⟩
            · rintro hzero ⟨mask', hmask', hinside⟩
              cases hmask'
              have hend : rest.end_ = mask.end_ := hrest.2.1
              exact DtProperty.not_inside_of_cells hzero rest.iter (Nat.le_refl _)
                ⟨Nat.le_refl _, hend ▸ hinside.2⟩

/-- The comparison of property cells, and with it the search of a nexus, stays inside its
properties exactly when no cells are compared with a mask that has none left. -/
theorem interruptMap_confined_iff :
    (∀ (mem : Nat → U8) (what against : DtProperty) (cells : Nat) (mask : Option DtProperty),
      CompareConfined mem what against cells mask ↔ ¬ MaskOverrun what against cells mask) ∧
    ∀ (σ : Type) (applyGcd : ApplyGcd σ) (s : σ),
      TranslateConfined bus child nexus interruptCells interrupt applyGcd s ↔
        ¬ SpentMaskCompared bus child nexus interruptCells interrupt applyGcd s :=
  ⟨compareConfined_iff, fun _ applyGcd s =>
    translateConfined_iff bus child nexus interruptCells interrupt applyGcd s⟩

/-- The tree of `maskedNexusBus` with a mask of no cells. -/
def emptyMaskBus : DtBus :=
  { maskedNexusBus with
    fdt := { maskedNexusFdt with
      getprop node name :=
        if node = 2 ∧ name = "interrupt-map-mask" then .ok (4, 0)
        else maskedNexusFdt.getprop node name } }

/-- The first row is compared with the cell after the empty mask. -/
theorem emptyMask_not_confined :
    ¬ ((∀ (mem : Nat → U8) (what against : DtProperty) (cells : Nat)
        (mask : Option DtProperty), CompareConfined mem what against cells mask) ∧
      TranslateConfined emptyMaskBus interruptDevice nexusDevice 1 (DtProperty.ofBuf 0 4) noGcd
        ()) := by
  rintro ⟨-, h⟩
  refine (translateConfined_iff _ _ _ _ _ noGcd ()).mp h ⟨DtProperty.ofBuf 8 24,
    DtProperty.ofBuf 4 0, 0, DtProperty.ofBuf 4 0, (), DtProperty.ofBuf 8 24, rfl, rfl, rfl, rfl,
    ⟨_, rfl, rfl⟩, ?_⟩
  decide

end Translate

end FdtBusPkg
