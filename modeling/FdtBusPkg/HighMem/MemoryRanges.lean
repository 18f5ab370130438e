import FdtBusPkg.DtBus.GcdOutcome
import FdtBusPkg.DtBus.IndexedParse
import FdtBusPkg.Pci.EcamLib

/-!
The driver for memory nodes. It goes through the registers of a node, makes system memory of
each and asks the CPU to protect it. Reading a register already changes the GCD map; what an
entry makes of the memory is said on its own, and runs are seen to follow it.
-/
namespace FdtBusPkg

def EFI_MEMORY_WB : U64 := 8
def EFI_MEMORY_XP : U64 := 0x4000

/-- `EFI_DT_IO_REG_TYPE`. -/
inductive EfiDtIoRegType
  | invalid
  | nonExistent
  | reserved
  | systemMemory
  | memoryMappedIo
  | persistent
  | moreReliable
  | maximum
  deriving DecidableEq, Repr

/-- The `switch` over the type asked for. -/
def EfiDtIoRegType.gcdType : EfiDtIoRegType → EfiResult GcdMemoryType
  | .reserved => .ok .reserved
  | .systemMemory => .ok .systemMemory
  | .memoryMappedIo => .ok .memoryMappedIo
  | .persistent => .ok .persistent
  | .moreReliable => .ok .moreReliable
  | .invalid | .nonExistent | .maximum => .error .invalidParameter

/-- The `switch` over the type found. -/
def GcdMemoryType.regType : GcdMemoryType → EfiDtIoRegType
  | .nonExistent => .nonExistent
  | .reserved => .reserved
  | .systemMemory => .systemMemory
  | .memoryMappedIo => .memoryMappedIo
  | .persistent => .persistent
  | .moreReliable => .moreReliable
  | .unaccepted => .invalid

theorem regType_eq_systemMemory (type : GcdMemoryType) :
    type.regType = .systemMemory ↔ type = .systemMemory := by
  cases type <;> decide

section Driver

variable {σ : Type} (gDS : GcdServices σ) (fuel : Nat)

/-- The calls made to read a register. One that does not return leaves no state. -/
def applyGcdWithin : ApplyGcd (Option σ) :=
  fun address length type attributes onConflictDoNothing s =>
    match s.bind (applyGcdTypeAndAttrs gDS ⟨address, length, type, attributes, onConflictDoNothing⟩
      fuel) with
    | none => (.error .timeout, none)
    | some (.error e, s) => (.error e, some s)
    | some (.ok _, s) => (.ok (), some s)

/-- `DtIoSetRegType`; `stack` is what the descriptor holds before it is set. -/
def dtIoSetRegType (stack : GcdDescriptor) (reg : DtReg) (type : EfiDtIoRegType)
    (memoryAttributes : U64) (s : σ) : Option (EfiResult (EfiDtIoRegType × U64) × σ) :=
  if reg.length = 0 ∨ memoryAttributes = 0 then
    some (.error .invalidParameter, s)
  else
    match type.gcdType with
    | .error e => some (.error e, s)
    | .ok gcdType =>
      match fbpRegToPhysicalAddress reg with
      | .error e => some (.error e, s)
      | .ok base =>
        match applyGcdTypeAndAttrs gDS ⟨base, reg.length.setWidth 64, gcdType, memoryAttributes,
          false⟩ fuel s with
        | none => none
        | some (.error e, s) => some (.error e, s)
        | some (.ok seen, s) =>
          let descriptor := seen.getD stack
          some (.ok (descriptor.gcdMemoryType.regType, descriptor.attributes), s)

variable (setMemoryAttributes : U64 → U64 → U64 → σ → EfiStatus × σ) (policy : U64)

/-- The attributes asked of the CPU; the bit of the policy is that of
`EfiConventionalMemory`. -/
def memoryAttributes (policy : U64) : U64 :=
  if policy &&& (1 <<< 7) ≠ 0 then EFI_MEMORY_WB ||| EFI_MEMORY_XP else EFI_MEMORY_WB

def processMemoryRange (stack : GcdDescriptor) (reg : DtReg) (s : σ) : Option (EfiStatus × σ) :=
  if reg.length = 0 then
    some (.ok (), s)
  else
    match dtIoSetRegType gDS fuel stack reg .systemMemory EFI_MEMORY_WB s with
    | none => none
    | some (.error e, s) => some (.error e, s)
    | some (.ok (oldType, _), s) =>
      if oldType = .systemMemory then
        some (.ok (), s)
      else
        some (setMemoryAttributes (reg.translatedBase.setWidth 64) (reg.length.setWidth 64)
          (memoryAttributes policy) s)

variable (fdt : Fdt) (device : DtDevice) (stack : Nat → GcdDescriptor)

/-- The body of the loop of `ProcessMemoryRanges`, over the index and the state. -/
def processMemoryRangesLoop (w : Nat × σ) : Loop.Step (Nat × σ) (Option (EfiStatus × σ)) :=
  match dtIoGetReg fdt (applyGcdWithin gDS fuel) device w.1 (some w.2) with
  | (_, none) => .exit none
  | (.error e, some s) => .exit (some (if e = .notFound then .ok () else .error e, s))
  | (.ok reg, some s) =>
    match fbpRegToPhysicalAddress reg with
    | .error e => .exit (some (.error e, s))
    | .ok _ =>
      match processMemoryRange gDS fuel setMemoryAttributes policy (stack w.1) reg s with
      | none => .exit none
      | some (.error e, s) => .exit (some (.error e, s))
      | some (.ok _, s) => .next (w.1 + 1, s)

/-- `ProcessMemoryRanges`; no result within the fuel is no return. -/
def processMemoryRanges (s : σ) : Option (EfiStatus × σ) :=
  (Loop.run (processMemoryRangesLoop gDS fuel setMemoryAttributes policy fdt device stack) fuel
    (0, s)).join

end Driver

section Entries

variable (fdt : Fdt) (device : DtDevice)

/-- A register of the node as it is read and translated, without the GCD map. -/
def regEntry (index : Nat) : EfiResult DtReg :=
  match dtIoGetProp fdt device "reg" with
  | .error e => .error e
  | .ok p =>
    match entryAt .reg device p index with
    | none => .error .notFound
    | some entry =>
      match dtIoParsePropBusAddress fdt.mem device entry 0 with
      | (.error e, _) => .error e
      | (.ok busBase, q) =>
        match dtIoParsePropSize fdt.mem device q 0 with
        | (.error e, _) => .error e
        | (.ok length, _) =>
          match dtDeviceTranslateRangeToCpu fdt device busBase length with
          | .error e => .error e
          | .ok (translatedBase, busDevice) =>
            .ok ⟨busBase, translatedBase, length, busDevice.map fun d => d.info.dtIo⟩

def DtReg.applied (reg : DtReg) : Bool := reg.busDtIo.isNone && reg.length != 0

theorem DtReg.applied_iff (reg : DtReg) :
    reg.applied = true ↔ reg.busDtIo = none ∧ reg.length ≠ 0 := by
  rw [DtReg.applied, Bool.and_eq_true, Option.isNone_iff_eq_none, bne_iff_ne]

theorem dtIoGetReg_eq {σ : Type} (applyGcd : ApplyGcd σ) (index : Nat) (s : σ) :
    dtIoGetReg fdt applyGcd device index s =
      match regEntry fdt device index with
      | .error e => (.error e, s)
      | .ok reg =>
        if reg.applied then
          match companionEntry .reg fdt device index with
          | .error e => (.error e, s)
          | .ok (type, attributes) =>
            let r := applyGcd (reg.translatedBase.setWidth 64) (reg.length.setWidth 64) type
              attributes true s
            (r.1.map fun _ => reg, r.2)
        else
          (.ok reg, s) := by
  rw [dtIoGetReg, regEntry]
  cases hprop : dtIoGetProp fdt device "reg" with
  | error e => rfl
  | ok p =>
      dsimp only
      by_cases hcells : device.info.addressCells.val + device.info.sizeCells.val = 0
      · have hat : entryAt .reg device p index = none := if_pos hcells
        simp only [hat, dtIoParsePropReg, if_pos hcells]
      by_cases habsent :
        p.cells / (device.info.addressCells.val + device.info.sizeCells.val) ≤ index
      · have hat : entryAt .reg device p index = none := (if_neg hcells).trans (dif_pos habsent)
        simp only [hat, dtIoParsePropReg, if_neg hcells, dif_pos habsent]
      · have hat : entryAt .reg device p index = some _ := (if_neg hcells).trans (dif_neg habsent)
        simp only [hat, dtIoParsePropReg, if_neg hcells, dif_neg habsent, EntryKind.cells]
        rcases dtIoParsePropBusAddress fdt.mem device (p.advance _ _) 0 with ⟨e | busBase, q⟩
        · rfl
        dsimp only
        rcases dtIoParsePropSize fdt.mem device q 0 with ⟨e | length, q'⟩
        · rfl
        dsimp only [translateAndApply]
        rcases dtDeviceTranslateRangeToCpu fdt device busBase length with
          e | ⟨translated, _ | bus⟩
        · rfl
        · dsimp only [Option.map_none]
          by_cases hzero : length = 0
          · rw [if_pos hzero, if_neg (by rw [DtReg.applied_iff]; exact fun h => h.2 hzero)]
          · have hcompanion : companionEntry .reg fdt device index =
                dtPropGetRegOrRangeEfiTypeAndAttrs fdt device true index := rfl
            rw [if_neg hzero, if_pos ((DtReg.applied_iff _).mpr ⟨rfl, hzero⟩), hcompanion]
            rcases dtPropGetRegOrRangeEfiTypeAndAttrs fdt device true index with
              e | ⟨type, attributes⟩
            · rfl
            · dsimp only
              rcases applyGcd (translated.setWidth 64) (length.setWidth 64) type attributes
                true s with ⟨e | u, s'⟩ <;> rfl
        · rfl

/-- What a call of `GetReg` finds: the register, and what the companion property says of it,
which has no say in a register that is not applied. -/
structure MemoryEntry where
  reg : DtReg
  type : GcdMemoryType
  attributes : U64

def memoryEntry (index : Nat) : EfiResult MemoryEntry :=
  match regEntry fdt device index with
  | .error e => .error e
  | .ok reg =>
    if reg.applied then
      (companionEntry .reg fdt device index).map fun c => ⟨reg, c.1, c.2⟩
    else
      .ok ⟨reg, .memoryMappedIo, EFI_MEMORY_UC⟩

end Entries

def OverlapsPage (base length x : Nat) : Prop :=
  0 < length ∧ base / 4096 ≤ x / 4096 ∧ x / 4096 ≤ (base + length - 1) / 4096

instance (base length x : Nat) : Decidable (OverlapsPage base length x) :=
  inferInstanceAs (Decidable (_ ∧ _ ∧ _))

/-- The memory of the platform; the CPU keeps attributes for whole pages. -/
structure MemoryPlatform (σ : Type) extends GcdMemorySpace σ where
  setMemoryAttributes : U64 → U64 → U64 → σ → EfiStatus × σ
  dxeNxMemoryProtectionPolicy : U64
  setMemoryAttributes_ok (base length attributes : U64) (s t : σ)
    (h : setMemoryAttributes base length attributes s = (.ok (), t)) :
    map.value t = map.value s ∧ ∀ x, cpuAttributes t x =
      if OverlapsPage base.toNat length.toNat x then attributes else cpuAttributes s x

namespace MemoryEntry

variable (e : MemoryEntry)

/-- The update made by `GetReg`. -/
def getRequest : GcdRequest :=
  ⟨e.reg.translatedBase.setWidth 64, e.reg.length.setWidth 64, e.type, e.attributes, true⟩

/-- The update made by `SetRegType`. -/
def setRequest : GcdRequest :=
  ⟨e.reg.translatedBase.setWidth 64, e.reg.length.setWidth 64, .systemMemory, EFI_MEMORY_WB, false⟩

def Walks (x : Nat) : Prop := e.reg.length ≠ 0 ∧ e.setRequest.Walks x

instance (x : Nat) : Decidable (e.Walks x) := inferInstanceAs (Decidable (_ ∧ _))

/-- The entry has CPU attributes set at the address, if it does so at all. -/
def Covers (x : Nat) : Prop :=
  e.reg.length ≠ 0 ∧ OverlapsPage (e.reg.translatedBase.setWidth 64).toNat
    (e.reg.length.setWidth 64).toNat x

instance (x : Nat) : Decidable (e.Covers x) := inferInstanceAs (Decidable (_ ∧ _))

variable (forwards : U64 → Option U64) (stack : GcdDescriptor)

/-- The type reported for an entry over memory `v`: that of the last page of the range after
the register has been read, or what is on the stack. -/
def oldType (v : Nat → PageState) : GcdMemoryType :=
  if e.setRequest.alignedAddress < e.setRequest.alignedEnd then
    (e.getRequest.convert forwards (v (e.setRequest.alignedEnd.toNat - 1))).1.1
  else
    stack.gcdMemoryType

def convert (c : PageState) : PageState :=
  e.setRequest.convert forwards (e.getRequest.convert forwards c)

/-- What an entry makes of memory `v`. -/
def process (wanted : U64) (v : Nat → PageState) (x : Nat) : PageState :=
  let converted := if e.Walks x then e.convert forwards (v x) else v x
  if e.oldType forwards stack v ≠ .systemMemory ∧ e.Covers x then
    (converted.1, wanted)
  else
    converted

end MemoryEntry

section Process

variable {σ : Type} (g : MemoryPlatform σ) (fdt : Fdt) (device : DtDevice) (fuel : Nat)

theorem applyGcdWithin_ok (address : U64) (length : Uintn) (type : GcdMemoryType)
    (attributes : U64) (onConflictDoNothing : Bool) (s : σ) (t : Option σ)
    (h : applyGcdWithin g.services fuel address length type attributes onConflictDoNothing
      (some s) = (.ok (), t)) :
    ∃ r t', t = some t' ∧ applyGcdTypeAndAttrs g.services
      ⟨address, length, type, attributes, onConflictDoNothing⟩ fuel s = some (.ok r, t') := by
  rw [applyGcdWithin, Option.bind_some] at h
  rcases happly : applyGcdTypeAndAttrs g.services
    ⟨address, length, type, attributes, onConflictDoNothing⟩ fuel s with _ | ⟨e | r, t'⟩
  · rw [happly] at h
    exact nomatch congrArg Prod.fst h
  · rw [happly] at h
    exact nomatch congrArg Prod.fst h
  · rw [happly] at h
    exact ⟨r, t', (congrArg Prod.snd h).symm, rfl⟩

theorem applyGcdWithin_ne_notFound (address : U64) (length : Uintn) (type : GcdMemoryType)
    (attributes : U64) (s : σ) :
    (applyGcdWithin g.services fuel address length type attributes true (some s)).1 ≠
      .error .notFound := by
  rw [applyGcdWithin, Option.bind_some]
  rcases happly : applyGcdTypeAndAttrs g.services ⟨address, length, type, attributes, true⟩
    fuel s with _ | ⟨e | r, t⟩
  · exact nofun
  · intro h
    exact applyGcd_ne_notFound g.toGcdMemorySpace _ fuel s t e rfl happly (Except.error.inj h)
  · exact nofun

theorem getReg_ok (index : Nat) (s t : σ) (reg : DtReg)
    (h : dtIoGetReg fdt (applyGcdWithin g.services fuel) device index (some s) =
      (.ok reg, some t)) (hbus : reg.busDtIo = none) :
    ∃ e, memoryEntry fdt device index = .ok e ∧ e.reg = reg ∧
      ∀ x, g.observe t x =
        if e.Walks x then e.getRequest.convert g.forwards (g.observe s x) else g.observe s x := by
  rw [dtIoGetReg_eq] at h
  rw [memoryEntry]
  cases hentry : regEntry fdt device index with
  | error e =>
      rw [hentry] at h
      exact nomatch congrArg Prod.fst h
  | ok reg' =>
      rw [hentry] at h
      dsimp only at h ⊢
      by_cases happlied : reg'.applied = true
      · rw [if_pos happlied] at h
        rw [if_pos happlied]
        cases hcompanion : companionEntry .reg fdt device index with
        | error e =>
            rw [hcompanion] at h
            exact nomatch congrArg Prod.fst h
        | ok c =>
            rw [hcompanion] at h
            rcases hcall : applyGcdWithin g.services fuel (reg'.translatedBase.setWidth 64)
              (reg'.length.setWidth 64) c.1 c.2 true (some s) with ⟨e | u, t'⟩
            · simp only [hcall] at h
              exact nomatch congrArg Prod.fst h
            · simp only [hcall] at h
              obtain ⟨hreg, rfl⟩ := Prod.mk.inj h
              cases hreg
              obtain ⟨r, t'', ht, hrun⟩ := applyGcdWithin_ok g fuel _ _ _ _ _ s _ hcall
              cases ht
              refine ⟨⟨reg', c.1, c.2⟩, rfl, rfl, fun x => ?_⟩
              have hlength := ((DtReg.applied_iff reg').mp happlied).2
              rw [(applyGcd_succeeds g.toGcdMemorySpace _ fuel s t r hrun).1 x]
              refine if_congr ?_ rfl rfl
              exact ⟨fun hwalk => ⟨hlength, hwalk⟩, fun hwalk => hwalk.2⟩
      · rw [if_neg happlied] at h
        rw [if_neg happlied]
        cases h
        refine ⟨⟨reg, .memoryMappedIo, EFI_MEMORY_UC⟩, rfl, rfl, fun x => ?_⟩
        rw [if_neg]
        intro hwalk
        exact happlied ((DtReg.applied_iff reg).mpr ⟨hbus, hwalk.1⟩)

theorem getReg_notFound (index : Nat) (s t : σ)
    (h : dtIoGetReg fdt (applyGcdWithin g.services fuel) device index (some s) =
      (.error .notFound, some t)) :
    memoryEntry fdt device index = .error .notFound ∧ t = s := by
  rw [dtIoGetReg_eq] at h
  rw [memoryEntry]
  cases hentry : regEntry fdt device index with
  | error e =>
      rw [hentry] at h
      cases h
      exact ⟨rfl, rfl⟩
  | ok reg =>
      rw [hentry] at h
      dsimp only at h ⊢
      by_cases happlied : reg.applied = true
      · rw [if_pos happlied] at h
        rw [if_pos happlied]
        cases hcompanion : companionEntry .reg fdt device index with
        | error e =>
            rw [hcompanion] at h
            cases h
            exact ⟨rfl, rfl⟩
        | ok c =>
            rw [hcompanion] at h
            rcases hcall : applyGcdWithin g.services fuel (reg.translatedBase.setWidth 64)
              (reg.length.setWidth 64) c.1 c.2 true (some s) with ⟨e | u, t'⟩
            · simp only [hcall] at h
              have herror := applyGcdWithin_ne_notFound g fuel (reg.translatedBase.setWidth 64)
                (reg.length.setWidth 64) c.1 c.2 s
              rw [hcall] at herror
              exact absurd (congrArg Except.error (Except.error.inj (Prod.mk.inj h).1)) herror
            · simp only [hcall] at h
              exact nomatch congrArg Prod.fst h
      · rw [if_neg happlied] at h
        exact nomatch congrArg Prod.fst h

theorem setRegType_ok (e : MemoryEntry) (stack : GcdDescriptor) (s t : σ) (old : EfiDtIoRegType)
    (oldAttributes : U64) (h : dtIoSetRegType g.services fuel stack e.reg .systemMemory
      EFI_MEMORY_WB s = some (.ok (old, oldAttributes), t)) :
    e.reg.length ≠ 0 ∧
    (∀ x, g.observe t x =
      if e.Walks x then e.setRequest.convert g.forwards (g.observe s x) else g.observe s x) ∧
    old = (if e.setRequest.alignedAddress < e.setRequest.alignedEnd then
      (g.map.value s (e.setRequest.alignedEnd.toNat - 1)).1 else stack.gcdMemoryType).regType := by
  rw [dtIoSetRegType] at h
  by_cases hinvalid : e.reg.length = 0 ∨ EFI_MEMORY_WB = 0
  · rw [if_pos hinvalid] at h
    exact absurd h (by simp)
  rw [if_neg hinvalid] at h
  dsimp only [EfiDtIoRegType.gcdType] at h
  cases hbus : e.reg.busDtIo with
  | some bus =>
      rw [fbpRegToPhysicalAddress, hbus] at h
      exact absurd h (by simp)
  | none =>
      rw [fbpRegToPhysicalAddress, hbus] at h
      dsimp only at h
      rcases hrun : applyGcdTypeAndAttrs g.services e.setRequest fuel s with _ | ⟨e' | r, t'⟩
      · rw [MemoryEntry.setRequest] at hrun
        rw [hrun] at h
        exact nomatch h
      · rw [MemoryEntry.setRequest] at hrun
        rw [hrun] at h
        exact absurd h (by simp)
      · obtain ⟨hobserve, hnone, hlast⟩ :=
          applyGcd_succeeds g.toGcdMemorySpace e.setRequest fuel s t' r hrun
        rw [MemoryEntry.setRequest] at hrun
        rw [hrun] at h
        cases h
        have hlength : e.reg.length ≠ 0 := fun hzero => hinvalid (Or.inl hzero)
        refine ⟨hlength, fun x => ?_, congrArg GcdMemoryType.regType ?_⟩
        · rw [hobserve x]
          exact if_congr ⟨fun hwalk => ⟨hlength, hwalk⟩, fun hwalk => hwalk.2⟩ rfl rfl
        · by_cases hwalk : e.setRequest.alignedAddress < e.setRequest.alignedEnd
          · obtain ⟨d, rfl, hvalue⟩ := hlast hwalk
            rw [if_pos hwalk, ← hvalue]
            rfl
          · rw [if_neg hwalk, hnone (Nat.le_of_not_lt hwalk)]
            rfl

theorem processMemoryRange_ok (e : MemoryEntry) (stack : GcdDescriptor) (r s t : σ)
    (hread : ∀ x, g.observe s x =
      if e.Walks x then e.getRequest.convert g.forwards (g.observe r x) else g.observe r x)
    (h : processMemoryRange g.services fuel g.setMemoryAttributes g.dxeNxMemoryProtectionPolicy
      stack e.reg s = some (.ok (), t)) (x : Nat) :
    g.observe t x = e.process g.forwards stack
      (memoryAttributes g.dxeNxMemoryProtectionPolicy) (g.observe r) x := by
  rw [processMemoryRange] at h
  rw [MemoryEntry.process]
  by_cases hzero : e.reg.length = 0
  · rw [if_pos hzero] at h
    cases h
    rw [hread x, if_neg (fun hwalk => hwalk.1 hzero), if_neg (fun hcovers => hcovers.2.1 hzero),
      if_neg (fun hwalk => hwalk.1 hzero)]
  rw [if_neg hzero] at h
  rcases hset : dtIoSetRegType g.services fuel stack e.reg .systemMemory EFI_MEMORY_WB s with
    _ | ⟨e' | ⟨old, oldAttributes⟩, s'⟩
  · rw [hset] at h
    exact nomatch h
  · rw [hset] at h
    exact absurd h (by simp)
  rw [hset] at h
  dsimp only at h
  obtain ⟨-, hconverted, hold⟩ := setRegType_ok g fuel e stack s s' old oldAttributes hset
  have hboth : g.observe s' x =
      if e.Walks x then e.convert g.forwards (g.observe r x) else g.observe r x := by
    rw [hconverted x, hread x]
    by_cases hwalk : e.Walks x
    · rw [if_pos hwalk, if_pos hwalk, if_pos hwalk]
      rfl
    · rw [if_neg hwalk, if_neg hwalk, if_neg hwalk]
  have holdType : old = .systemMemory ↔
      e.oldType g.forwards stack (g.observe r) = .systemMemory := by
    rw [hold, regType_eq_systemMemory, MemoryEntry.oldType]
    by_cases hwalk : e.setRequest.alignedAddress < e.setRequest.alignedEnd
    · have hbounds : e.setRequest.alignedAddress.toNat < e.setRequest.alignedEnd.toNat := hwalk
      have hlast := hread (e.setRequest.alignedEnd.toNat - 1)
      rw [if_pos ⟨hzero, by omega, by omega⟩] at hlast
      rw [if_pos hwalk, if_pos hwalk, ← hlast]
      rfl
    · rw [if_neg hwalk, if_neg hwalk]
  by_cases hsystem : old = .systemMemory
  · rw [if_pos hsystem] at h
    cases h
    rw [← hboth, if_neg (fun hcovers => hcovers.1 (holdType.mp hsystem))]
  · rw [if_neg hsystem] at h
    obtain ⟨hvalue, hcpu⟩ := g.setMemoryAttributes_ok _ _ _ s' t (Option.some.inj h)
    rw [← hboth, GcdMemorySpace.observe, hvalue, hcpu x]
    by_cases hcovers : e.Covers x
    · rw [if_pos hcovers.2, if_pos ⟨fun hsame => hsystem (holdType.mpr hsame), hcovers⟩]
      rfl
    · rw [if_neg (fun hover => hcovers ⟨hzero, hover⟩), if_neg (fun hboth => hcovers hboth.2)]
      rfl

variable (stack : Nat → GcdDescriptor)

def memoryAfter (v : Nat → PageState) : Nat → Nat → PageState
  | 0 => v
  | index + 1 =>
    match memoryEntry fdt device index with
    | .error _ => memoryAfter v index
    | .ok e => e.process g.forwards (stack index)
        (memoryAttributes g.dxeNxMemoryProtectionPolicy) (memoryAfter v index)

/-- The entries before an index, all of them in CPU space. -/
def EntriesBefore (index : Nat) : Prop :=
  ∀ i < index, ∃ e, memoryEntry fdt device i = .ok e ∧ e.reg.busDtIo = none

structure ProcessedBefore (s : σ) (w : Nat × σ) : Prop where
  entries : EntriesBefore fdt device w.1
  observe_eq : g.observe w.2 = memoryAfter g fdt device stack (g.observe s) w.1

theorem processedBefore_next (s : σ) (w w' : Nat × σ)
    (hinv : ProcessedBefore g fdt device stack s w)
    (h : processMemoryRangesLoop g.services fuel g.setMemoryAttributes
      g.dxeNxMemoryProtectionPolicy fdt device stack w = .next w') :
    ProcessedBefore g fdt device stack s w' := by
  rw [processMemoryRangesLoop] at h
  rcases hget : dtIoGetReg fdt (applyGcdWithin g.services fuel) device w.1 (some w.2) with
    ⟨e | reg, _ | r⟩
  · rw [hget] at h
    exact nomatch h
  · rw [hget] at h
    exact nomatch h
  · rw [hget] at h
    exact nomatch h
  rw [hget] at h
  dsimp only at h
  cases hbus : reg.busDtIo with
  | some bus =>
      rw [fbpRegToPhysicalAddress, hbus] at h
      exact nomatch h
  | none =>
      obtain ⟨e, hentry, rfl, hread⟩ := getReg_ok g fdt device fuel w.1 w.2 r reg hget hbus
      rw [fbpRegToPhysicalAddress, hbus] at h
      dsimp only at h
      rcases hprocess : processMemoryRange g.services fuel g.setMemoryAttributes
        g.dxeNxMemoryProtectionPolicy (stack w.1) e.reg r with _ | ⟨e' | u, t⟩
      · rw [hprocess] at h
        exact nomatch h
      · rw [hprocess] at h
        exact nomatch h
      · rw [hprocess] at h
        cases h
        refine ⟨fun i hi => ?_, funext fun x => ?_⟩
        · rcases Nat.lt_succ_iff_lt_or_eq.mp hi with hi | rfl
          · exact hinv.entries i hi
          · exact ⟨e, hentry, hbus⟩
        · rw [processMemoryRange_ok g fuel e (stack w.1) w.2 r t hread hprocess x, hinv.observe_eq]
          simp only [memoryAfter, hentry]

/-- A run that succeeds goes through the entries up to the first that is not found, and makes
of memory what they make of it. -/
theorem processMemoryRanges_ok (s t : σ)
    (h : processMemoryRanges g.services fuel g.setMemoryAttributes g.dxeNxMemoryProtectionPolicy
      fdt device stack s = some (.ok (), t)) :
    ∃ n, EntriesBefore fdt device n ∧ memoryEntry fdt device n = .error .notFound ∧
      g.observe t = memoryAfter g fdt device stack (g.observe s) n := by
  rw [processMemoryRanges, Option.join_eq_some_iff] at h
  obtain ⟨w, hinv, hexit⟩ := Loop.exit_of_run _ (ProcessedBefore g fdt device stack s)
    (fun w w' => processedBefore_next g fdt device fuel stack s w w') fuel _ _
    ⟨fun i hi => absurd hi (Nat.not_lt_zero i), rfl⟩ h
  rw [processMemoryRangesLoop] at hexit
  rcases hget : dtIoGetReg fdt (applyGcdWithin g.services fuel) device w.1 (some w.2) with
    ⟨e | reg, _ | r⟩
  · rw [hget] at hexit
    exact absurd hexit (by simp)
  · rw [hget] at hexit
    dsimp only at hexit
    by_cases hend : e = .notFound
    · subst hend
      obtain ⟨hentry, rfl⟩ := getReg_notFound g fdt device fuel w.1 w.2 r hget
      cases hexit
      exact ⟨w.1, hinv.entries, hentry, hinv.observe_eq⟩
    · rw [if_neg hend] at hexit
      exact absurd hexit (by simp)
  · rw [hget] at hexit
    exact absurd hexit (by simp)
  · rw [hget] at hexit
    dsimp only at hexit
    cases hbus : reg.busDtIo with
    | some bus =>
        rw [fbpRegToPhysicalAddress, hbus] at hexit
        exact absurd hexit (by simp)
    | none =>
        rw [fbpRegToPhysicalAddress, hbus] at hexit
        dsimp only at hexit
        rcases hprocess : processMemoryRange g.services fuel g.setMemoryAttributes
          g.dxeNxMemoryProtectionPolicy (stack w.1) reg r with _ | ⟨e' | u, t⟩ <;>
          rw [hprocess] at hexit <;> exact absurd hexit (by simp)

end Process

end FdtBusPkg
