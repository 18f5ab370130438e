import FdtBusPkg.DtBus.Translate

/-!
Parsing of `reg` and `ranges` entries. An entry that translates to a CPU range
is also applied to the GCD map, with the type and attributes of the companion
property; the GCD state is threaded through the parsers.
-/
namespace FdtBusPkg

/-- `EFI_GCD_MEMORY_TYPE`. -/
inductive GcdMemoryType
  | nonExistent
  | reserved
  | systemMemory
  | memoryMappedIo
  | persistent
  | moreReliable
  | unaccepted
  deriving DecidableEq, Repr

def EFI_MEMORY_UC : U64 := 1

/-- `ApplyGcdTypeAndAttrs` on a GCD state: address, length, type, attributes and
`OnConflictDoNothing`. -/
abbrev ApplyGcd (σ : Type) :=
  U64 → Uintn → GcdMemoryType → U64 → Bool → σ → EfiStatus × σ

/-- The `switch` of `DtPropParseEfiTypeAndAttrs` over `EFI_DT_IO_REG_TYPE`. -/
def gcdTypeOfRegType (dtType : U32) : EfiResult GcdMemoryType :=
  if dtType = 2 then .ok .reserved
  else if dtType = 3 then .ok .systemMemory
  else if dtType = 4 then .ok .memoryMappedIo
  else if dtType = 5 then .ok .persistent
  else if dtType = 6 then .ok .moreReliable
  else .error .invalidParameter

/-- `DtPropParseEfiTypeAndAttrs`: one cell of type and two of attributes. -/
def dtPropParseEfiTypeAndAttrs (mem : Nat → U8) (p : DtProperty) (index : Nat) :
    EfiResult (GcdMemoryType × U64) × DtProperty :=
  if h : p.cells / 3 ≤ index then
    (.error .notFound, p)
  else
    let entry := p.advance (3 * index) (by
      have := p.elem_le_cells 3 index h
      omega)
    match dtIoParsePropU32 mem entry 0 with
    | (.error e, _) => (.error e, p)
    | (.ok dtType, q) =>
      match dtIoParsePropU64 mem q 0 with
      | (.error e, _) => (.error e, p)
      | (.ok attributes, q) =>
        match gcdTypeOfRegType dtType with
        | .error e => (.error e, p)
        | .ok type => (.ok (type, attributes), q)

def dtPropGetRegOrRangeEfiTypeAndAttrs (fdt : Fdt) (device : DtDevice) (isReg : Bool)
    (index : Nat) : EfiResult (GcdMemoryType × U64) :=
  let propertyName := if isReg then "fdtbuspkg,reg-attrs" else "fdtbuspkg,range-attrs"
  match dtIoGetProp fdt device propertyName with
  | .error .notFound => .ok (.memoryMappedIo, EFI_MEMORY_UC)
  | .error e => .error e
  | .ok p => (dtPropParseEfiTypeAndAttrs fdt.mem p index).1

/-- The common tail of `DtIoParsePropReg` and `DtIoParsePropRange`: translate the
bus range and apply a CPU range to the GCD map. -/
def translateAndApply {σ : Type} (fdt : Fdt) (applyGcd : ApplyGcd σ) (device : DtDevice)
    (isReg : Bool) (index : Nat) (base : DtBusAddress) (length : DtSize) (s : σ) :
    EfiResult (DtBusAddress × Option DtIoRef) × σ :=
  match dtDeviceTranslateRangeToCpu fdt device base length with
  | .error e => (.error e, s)
  | .ok (translated, some busDevice) => (.ok (translated, some busDevice.info.dtIo), s)
  | .ok (translated, none) =>
    if length = 0 then
      (.ok (translated, none), s)
    else
      match dtPropGetRegOrRangeEfiTypeAndAttrs fdt device isReg index with
      | .error e => (.error e, s)
      | .ok (type, attributes) =>
        match applyGcd (translated.setWidth 64) (length.setWidth 64) type attributes true s with
        | (.error e, s) => (.error e, s)
        | (.ok _, s) => (.ok (translated, none), s)

def dtIoParsePropReg {σ : Type} (fdt : Fdt) (applyGcd : ApplyGcd σ) (device : DtDevice)
    (p : DtProperty) (index : Nat) (s : σ) : (EfiResult DtReg × DtProperty) × σ :=
  let elemCells := device.info.addressCells.val + device.info.sizeCells.val
  if elemCells = 0 then
    ((.error .notFound, p), s)
  else if h : p.cells / elemCells ≤ index then
    ((.error .notFound, p), s)
  else
    let entry := p.advance (elemCells * index)
      (Nat.le_trans (Nat.mul_le_mul_left _ (Nat.le_succ _)) (p.elem_le_cells _ index h))
    match dtIoParsePropBusAddress fdt.mem device entry 0 with
    | (.error e, _) => ((.error e, p), s)
    | (.ok busBase, q) =>
      match dtIoParsePropSize fdt.mem device q 0 with
      | (.error e, _) => ((.error e, p), s)
      | (.ok length, q) =>
        match translateAndApply fdt applyGcd device true index busBase length s with
        | (.error e, s) => ((.error e, p), s)
        | (.ok (translatedBase, busDtIo), s) =>
          ((.ok ⟨busBase, translatedBase, length, busDtIo⟩, q), s)

def dtIoParsePropRange {σ : Type} (fdt : Fdt) (applyGcd : ApplyGcd σ) (device : DtDevice)
    (p : DtProperty) (index : Nat) (s : σ) : (EfiResult DtRange × DtProperty) × σ :=
  let elemCells := tripletCells device
  if elemCells = 0 then
    ((.error .notFound, p), s)
  else if h : p.cells / elemCells ≤ index then
    ((.error .notFound, p), s)
  else
    let entry := p.advance (elemCells * index)
      (Nat.le_trans (Nat.mul_le_mul_left _ (Nat.le_succ _)) (p.elem_le_cells _ index h))
    match dtIoParsePropChildBusAddress fdt.mem device entry 0 with
    | (.error e, _) => ((.error e, p), s)
    | (.ok childBase, q) =>
      match dtIoParsePropBusAddress fdt.mem device q 0 with
      | (.error e, _) => ((.error e, p), s)
      | (.ok parentBase, q) =>
        match dtIoParsePropChildSize fdt.mem device q 0 with
        | (.error e, _) => ((.error e, p), s)
        | (.ok length, q) =>
          match translateAndApply fdt applyGcd device false index parentBase length s with
          | (.error e, s) => ((.error e, p), s)
          | (.ok (translatedParentBase, busDtIo), s) =>
            ((.ok ⟨childBase, parentBase, translatedParentBase, length, busDtIo⟩, q), s)

def dtIoGetReg {σ : Type} (fdt : Fdt) (applyGcd : ApplyGcd σ) (device : DtDevice)
    (index : Nat) (s : σ) : EfiResult DtReg × σ :=
  match dtIoGetProp fdt device "reg" with
  | .error e => (.error e, s)
  | .ok p =>
    let parsed := dtIoParsePropReg fdt applyGcd device p index s
    (parsed.1.1, parsed.2)

/-- The bus address of the first `reg` entry of a device. -/
def firstRegBusAddress (fdt : Fdt) (device : DtDevice) : Option DtBusAddress :=
  match dtIoGetProp fdt device "reg" with
  | .error _ => none
  | .ok p =>
    if device.info.addressCells.val ≤ p.cells then
      some (loadElem fdt.mem device.info.addressCells p.iter 0#128)
    else
      none

theorem busBase_dtIoGetReg {σ : Type} (fdt : Fdt) (applyGcd : ApplyGcd σ)
    (device : DtDevice) (s : σ) (reg : DtReg)
    (h : (dtIoGetReg fdt applyGcd device 0 s).1 = .ok reg) :
    firstRegBusAddress fdt device = some reg.busBase := by
  unfold dtIoGetReg at h
  unfold firstRegBusAddress
  cases hprop : dtIoGetProp fdt device "reg" with
  | error e => simp [hprop] at h
  | ok p =>
      simp only [hprop, dtIoParsePropReg] at h
      split at h
      · simp at h
      · split at h
        · simp at h
        · simp only [dtIoParsePropBusAddress, parseAddressElem_zero, Nat.mul_zero,
            DtProperty.advance_zero] at h
          by_cases haddr : device.info.addressCells.val ≤ p.cells ∧
              0 < device.info.addressCells.val
          · rw [dif_pos haddr] at h
            dsimp only at h
            simp only [haddr.1, if_true]
            rcases hsize : dtIoParsePropSize fdt.mem device
                (p.advance device.info.addressCells haddr.1) 0 with ⟨e | length, q⟩
            · simp [hsize] at h
            · rcases happly : translateAndApply fdt applyGcd device true 0
                  (loadElem fdt.mem device.info.addressCells p.iter 0#128) length s with
                ⟨e | ⟨translated, bus⟩, s'⟩
              · simp [hsize, happly] at h
              · simp only [hsize, happly, Except.ok.injEq] at h
                rw [← h]
          · rw [dif_neg haddr] at h
            simp at h

end FdtBusPkg
