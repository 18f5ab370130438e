import FdtBusPkg.NorFlash.ChildCreate
import FdtBusPkg.Virtio.Binding

/-!
The start of the flash driver. Its loop goes over all registers of the controller and makes
a child for every one that holds the variable store, whatever came of those before. Where
the registers are apart there is only one of these, and all that a start does is to make
the child for it.
-/
namespace FdtBusPkg

open OpenRecords (Database)

/-- What the calls of `ChildCreate` leave. -/
structure FlashStartState where
  handles : Handles
  events : List PoolRef
  flash : NorFlash
  calls : List PoolCall

/-- What the services that `DriverStart` calls answer. `GetReg` reads the registers and ends
with `regsEnd`; the others go by the index after it was increased. -/
structure FlashStartServices where
  openDriver : EfiStatus
  regs : List DtReg
  regsEnd : EfiError
  setRegType : Uintn → EfiStatus
  child : Uintn → (db : Handles) → (events : List PoolRef) → FlashChildServices db events
  close : EfiStatus

section Driver

variable (pcds : FlashPcds) (guids : FvGuids) (gEfiCallerIdGuid : List U8) (bootMode : U32)
  (gImageHandle agent controller : EfiHandle) (services : FlashStartServices)

/-- The call of `ChildCreate`; a failure is left to an assertion. -/
def flashChild (controllerPath : DevicePath) (index regBase : Uintn) (reg : DtReg)
    (s : FlashStartState) : Option FlashStartState :=
  (norFlashChildCreate pcds guids gEfiCallerIdGuid s.handles s.events
    (services.child index s.handles s.events) bootMode s.flash index regBase regBase
    (reg.length.setWidth 64) QEMU_NOR_BLOCK_SIZE gImageHandle controller agent
    controllerPath).map fun run => ⟨run.handles, run.events, run.flash, s.calls ++ run.calls⟩

/-- An iteration of the loop of `DriverStart`. -/
def flashRegister (controllerPath : DevicePath) (index : Uintn) (reg : DtReg)
    (s : FlashStartState) : Option FlashStartState :=
  match fbpRegToPhysicalAddress reg with
  | .error _ => some s
  | .ok regBase =>
    if !outsidePrimaryFv pcds regBase reg.length then
      some s
    else if !containVariableStorage pcds regBase reg.length then
      some s
    else
      match services.setRegType index with
      | .error _ => some s
      | .ok _ => flashChild pcds guids gEfiCallerIdGuid bootMode gImageHandle agent controller
          services controllerPath index regBase reg s

/-- The loop of `DriverStart`, from an index on. -/
def flashRegisters (controllerPath : DevicePath) :
    Uintn → List DtReg → FlashStartState → Option FlashStartState
  | _, [], s => some s
  | index, reg :: regs, s =>
    (flashRegister pcds guids gEfiCallerIdGuid bootMode gImageHandle agent controller services
      controllerPath (index + 1) reg s).bind (flashRegisters controllerPath (index + 1) regs)

/-- `DriverStart` after the loop. The index is not zero there, so that a controller without
registers is started, too. -/
def flashStartEnd (s : FlashStartState) : EfiStatus × FlashStartState :=
  if services.regsEnd = .notFound then
    (.ok (), s)
  else
    (.error services.regsEnd, { s with handles :=
      (s.handles.closeProtocol services.close controller .dtIo agent controller).2 })

/-- `DriverStart` of the flash driver; `pathEnds` says that the remaining path is the end
node. A controller without a path stays open; `none` is the use of a pointer without a
value. -/
def norFlashDriverStart (db : Handles) (events : List PoolRef) (f : NorFlash) (pathEnds : Bool) :
    Option (EfiStatus × FlashStartState) :=
  let opened := db.openByDriver services.openDriver agent controller
  let s : FlashStartState := ⟨opened.2, events, f, []⟩
  match opened.1 with
  | .error e => some (.error e, s)
  | .ok _ =>
    if pathEnds then
      some (.ok (), s)
    else
      match opened.2.interface (controller, .devicePath) with
      | some (.devicePath controllerPath) =>
        (flashRegisters pcds guids gEfiCallerIdGuid bootMode gImageHandle agent controller
          services controllerPath 0 services.regs s).map
          (flashStartEnd agent controller services)
      | _ => some (.error .notFound, s)

end Driver

section Registers

/-- The registers, each with the index after it was read. -/
def numbered : Uintn → List DtReg → List (Uintn × DtReg)
  | _, [] => []
  | index, reg :: regs => (index + 1, reg) :: numbered (index + 1) regs

def DtReg.start (reg : DtReg) : Uintn := reg.translatedBase.setWidth 64

def DtReg.Apart (r r' : DtReg) : Prop :=
  r.start.setWidth 128 + r.length ≤ r'.start.setWidth 128 ∨
    r'.start.setWidth 128 + r'.length ≤ r.start.setWidth 128

instance (r r' : DtReg) : Decidable (r.Apart r') :=
  inferInstanceAs (Decidable (_ ∨ _))

variable (pcds : FlashPcds) (services : FlashStartServices)

/-- The end of the variable store as `DriverStart` computes it. -/
def variableStorageEnd : U64 :=
  if pcds.variableBase64 ≠ 0 then pcds.variableBase64 + pcds.variableSize.setWidth 64
  else (pcds.variableBase + pcds.variableSize).setWidth 64

/-- The variable store has bytes and does not wrap around. -/
def VariableStorageOrdered : Prop :=
  nvStorageBase pcds.variableBase64 pcds.variableBase < variableStorageEnd pcds

instance : Decidable (VariableStorageOrdered pcds) :=
  inferInstanceAs (Decidable (_ < _))

/-- A register at a physical address that holds the variable store, does not overlap the
primary firmware volume up to its end as a 32-bit sum, and can be declared as runtime memory. -/
def FlashStartServices.holdsStore (entry : Uintn × DtReg) : Bool :=
  match fbpRegToPhysicalAddress entry.2 with
  | .error _ => false
  | .ok regBase =>
    outsidePrimaryFv pcds regBase entry.2.length &&
      containVariableStorage pcds regBase entry.2.length &&
      decide (services.setRegType entry.1 = .ok ())

def FlashStartServices.storeRegisters : List (Uintn × DtReg) :=
  (numbered 0 services.regs).filter (services.holdsStore pcds)

theorem numbered_regs (index : Uintn) (regs : List DtReg) :
    (numbered index regs).map Prod.snd = regs := by
  induction regs generalizing index with
  | nil => rfl
  | cons reg regs ih => rw [numbered, List.map_cons, ih]

theorem containVariableStorage_iff (regBase : Uintn) (length : U128) :
    containVariableStorage pcds regBase length = true ↔
      regBase ≤ nvStorageBase pcds.variableBase64 pcds.variableBase ∧
        (variableStorageEnd pcds).setWidth 128 ≤ regBase.setWidth 128 + length := by
  rw [containVariableStorage, nvStorageBase, variableStorageEnd]
  split
  · rw [Bool.and_eq_true, decide_eq_true_iff, decide_eq_true_iff]
  · rw [Bool.and_eq_true, decide_eq_true_iff, decide_eq_true_iff,
      BitVec.setWidth_setWidth]
    decide

variable {pcds services}

theorem region_of_holdsStore {entry : Uintn × DtReg}
    (h : services.holdsStore pcds entry = true) :
    outsidePrimaryFv pcds entry.2.start entry.2.length = true ∧
      containVariableStorage pcds entry.2.start entry.2.length = true := by
  rw [FlashStartServices.holdsStore] at h
  cases hbase : fbpRegToPhysicalAddress entry.2 with
  | error e =>
      rw [hbase] at h
      cases h
  | ok regBase =>
      rw [hbase] at h
      dsimp only at h
      rw [Bool.and_eq_true, Bool.and_eq_true] at h
      rw [DtReg.start, Handles.fbpRegToPhysicalAddress_ok hbase]
      exact h.1

theorem not_apart_of_holdsStore (hstore : VariableStorageOrdered pcds)
    {entry entry' : Uintn × DtReg} (h : services.holdsStore pcds entry = true)
    (h' : services.holdsStore pcds entry' = true) : ¬ entry.2.Apart entry'.2 := by
  obtain ⟨hstart, hend⟩ :=
    (containVariableStorage_iff pcds _ _).mp (region_of_holdsStore h).2
  obtain ⟨hstart', hend'⟩ :=
    (containVariableStorage_iff pcds _ _).mp (region_of_holdsStore h').2
  rw [VariableStorageOrdered] at hstore
  rw [DtReg.Apart]
  generalize entry.2.start.setWidth 128 + entry.2.length = limit at hend ⊢
  generalize entry'.2.start.setWidth 128 + entry'.2.length = limit' at hend' ⊢
  rw [BitVec.le_def] at hstart hstart' hend hend'
  rw [BitVec.lt_def] at hstore
  rw [BitVec.toNat_setWidth_of_le (by omega)] at hend hend'
  rw [BitVec.le_def, BitVec.le_def, BitVec.toNat_setWidth_of_le (by omega),
    BitVec.toNat_setWidth_of_le (by omega)]
  omega

theorem storeRegisters_cases (hstore : VariableStorageOrdered pcds)
    (hapart : services.regs.Pairwise DtReg.Apart) :
    services.storeRegisters pcds = [] ∨ ∃ entry, services.storeRegisters pcds = [entry] := by
  have hpairs : (services.storeRegisters pcds).Pairwise fun e e' => e.2.Apart e'.2 := by
    rw [← numbered_regs 0 services.regs, List.pairwise_map] at hapart
    exact hapart.filter _
  have hholds : ∀ entry ∈ services.storeRegisters pcds,
      services.holdsStore pcds entry = true := fun entry h => (List.mem_filter.mp h).2
  generalize services.storeRegisters pcds = entries at hpairs hholds ⊢
  cases entries with
  | nil => exact .inl rfl
  | cons entry rest =>
      cases rest with
      | nil => exact .inr ⟨entry, rfl⟩
      | cons entry' rest =>
          have happart := List.rel_of_pairwise_cons hpairs List.mem_cons_self
          exact absurd happart (not_apart_of_holdsStore hstore (hholds entry List.mem_cons_self)
            (hholds entry' (List.mem_cons_of_mem entry List.mem_cons_self)))

end Registers

section Start

variable (pcds : FlashPcds) (guids : FvGuids) (gEfiCallerIdGuid : List U8) (bootMode : U32)
  (gImageHandle agent controller : EfiHandle) (services : FlashStartServices)
  (controllerPath : DevicePath)

def flashChildFor (s : FlashStartState) (entry : Uintn × DtReg) : Option FlashStartState :=
  flashChild pcds guids gEfiCallerIdGuid bootMode gImageHandle agent controller services
    controllerPath entry.1 entry.2.start entry.2 s

theorem flashRegister_eq (index : Uintn) (reg : DtReg) (s : FlashStartState) :
    flashRegister pcds guids gEfiCallerIdGuid bootMode gImageHandle agent controller services
        controllerPath index reg s =
      if services.holdsStore pcds (index, reg) then
        flashChildFor pcds guids gEfiCallerIdGuid bootMode gImageHandle agent controller
          services controllerPath s (index, reg)
      else
        some s := by
  rw [flashRegister, FlashStartServices.holdsStore, flashChildFor]
  cases hbase : fbpRegToPhysicalAddress reg with
  | error e => rfl
  | ok regBase =>
      dsimp only
      rw [DtReg.start, Handles.fbpRegToPhysicalAddress_ok hbase]
      split
      · next houtside =>
          rw [Bool.not_eq_true'] at houtside
          rw [if_neg (by rw [houtside, Bool.false_and, Bool.false_and]; exact Bool.false_ne_true)]
      · next houtside =>
          rw [Bool.not_eq_true', Bool.not_eq_false] at houtside
          split
          · next hcontains =>
              rw [Bool.not_eq_true'] at hcontains
              rw [if_neg (by
                rw [hcontains, Bool.and_false, Bool.false_and]; exact Bool.false_ne_true)]
          · next hcontains =>
              rw [Bool.not_eq_true', Bool.not_eq_false] at hcontains
              cases hset : services.setRegType index with
              | error e =>
                  rw [if_neg (by
                    rw [Bool.and_eq_true, decide_eq_true_iff]; exact fun h => by cases h.2)]
              | ok u =>
                  rw [if_pos (by rw [houtside, hcontains]; rfl)]

theorem flashRegisters_eq (index : Uintn) (regs : List DtReg) (s : FlashStartState) :
    flashRegisters pcds guids gEfiCallerIdGuid bootMode gImageHandle agent controller services
        controllerPath index regs s =
      ((numbered index regs).filter (services.holdsStore pcds)).foldlM
        (flashChildFor pcds guids gEfiCallerIdGuid bootMode gImageHandle agent controller
          services controllerPath) s := by
  induction regs generalizing index s with
  | nil => rfl
  | cons reg regs ih =>
      rw [flashRegisters, flashRegister_eq, numbered, List.filter_cons]
      split
      · rw [List.foldlM_cons]
        exact Option.bind_congr fun s' _ => ih (index + 1) s'
      · exact ih (index + 1) s

variable (db : Handles) (events : List PoolRef) (f : NorFlash)

def flashOpened : FlashStartState :=
  ⟨(db.openByDriver services.openDriver agent controller).2, events, f, []⟩

/-- A start that comes to the loop makes one child, for the register that holds the variable
store, and nothing at all where no register does. -/
theorem norFlashDriverStart_once (hstore : VariableStorageOrdered pcds)
    (hapart : services.regs.Pairwise DtReg.Apart)
    (hopen : (db.openByDriver services.openDriver agent controller).1 = .ok ())
    (hpath : (db.openByDriver services.openDriver agent controller).2.interface
      (controller, .devicePath) = some (.devicePath controllerPath)) :
    (services.storeRegisters pcds = [] ∧
      norFlashDriverStart pcds guids gEfiCallerIdGuid bootMode gImageHandle agent controller
          services db events f false =
        some (flashStartEnd agent controller services
          (flashOpened agent controller services db events f))) ∨
    ∃ entry, services.storeRegisters pcds = [entry] ∧
      norFlashDriverStart pcds guids gEfiCallerIdGuid bootMode gImageHandle agent controller
          services db events f false =
        (flashChildFor pcds guids gEfiCallerIdGuid bootMode gImageHandle agent controller
          services controllerPath (flashOpened agent controller services db events f) entry).map
            (flashStartEnd agent controller services) := by
  have hrun : norFlashDriverStart pcds guids gEfiCallerIdGuid bootMode gImageHandle agent
      controller services db events f false =
        ((services.storeRegisters pcds).foldlM
          (flashChildFor pcds guids gEfiCallerIdGuid bootMode gImageHandle agent controller
            services controllerPath) (flashOpened agent controller services db events f)).map
              (flashStartEnd agent controller services) := by
    rw [norFlashDriverStart, hopen]
    dsimp only
    rw [if_neg Bool.false_ne_true, hpath]
    dsimp only
    rw [flashRegisters_eq]
    rfl
  obtain hnone | ⟨entry, hentry⟩ := storeRegisters_cases hstore hapart
  · refine .inl ⟨hnone, ?_⟩
    rw [hrun, hnone]
    rfl
  · refine .inr ⟨entry, hentry, ?_⟩
    rw [hrun, hentry, List.foldlM_cons]
    exact congrArg _ (Option.bind_fun_some _)

end Start

/-- The controller `1` with a path. -/
def flashOnPath : Handles := flashController.install (1, .devicePath) (.devicePath [])

/-- All the store of `threeBlockPcds`. -/
def storeReg : DtReg := ⟨0x4040000, 0x4040000, 0xC0000, none⟩

/-- A register before the one with the store; there is no memory for the child. -/
def secondHoldsStore : FlashStartServices where
  openDriver := .ok ()
  regs := [⟨0, 0, 0x4000000, none⟩, storeReg]
  regsEnd := .notFound
  setRegType _ := .ok ()
  child _ _ _ := ⟨true, true, none, true, true, .ok (), .error .outOfResources, .ok (), .ok (),
    .ok (), Handles.yieldingDrivers⟩
  close := .ok ()

theorem norFlashDriverStart_once_second :
    norFlashDriverStart threeBlockPcds edk2Guids [] 0 3 7 1 secondHoldsStore flashOnPath []
        erasedFlash false =
      (flashChildFor threeBlockPcds edk2Guids [] 0 3 7 1 secondHoldsStore []
        (flashOpened 7 1 secondHoldsStore flashOnPath [] erasedFlash) (2, storeReg)).map
          (flashStartEnd 7 1 secondHoldsStore) := by
  have honly : secondHoldsStore.storeRegisters threeBlockPcds = [(2, storeReg)] := by decide
  obtain ⟨hnone, -⟩ | ⟨entry, hentry, hrun⟩ := norFlashDriverStart_once threeBlockPcds edk2Guids
    [] 0 3 7 1 secondHoldsStore [] flashOnPath [] erasedFlash (by decide) (by decide) (by decide)
    (by decide)
  · rw [honly] at hnone
    cases hnone
  · rw [honly, List.singleton_inj] at hentry
    rw [hrun, hentry]

section Contained

variable (pcds : FlashPcds) (guids : FvGuids) (v : FvbVolume)

/-- The blocks of the volume exist, or the check sees that they do not: no count of 32 bits
comes round to a block that exists. -/
theorem eraseFirst_sound (count : U32) :
    (FvbCall.eraseBlocks [(0, count.setWidth 64)]).Sound v := by
  have hzero : (0 : U64).toNat = 0 := rfl
  have hstart := v.startLba_le
  have hlast : v.lastBlock.toNat < 2 ^ 55 := by
    have hsize := v.size_eq
    have hlt := v.size.isLt
    have hblock := Nat.le_of_dvd v.blockSize_pos v.dvd_blockSize
    have hmul := Nat.mul_le_mul_left (v.lastBlock.toNat + 1) hblock
    omega
  have hcount := count.isLt
  have hwide : (count.setWidth 64).toNat = count.toNat :=
    BitVec.toNat_setWidth_of_le (by omega)
  have hlisted : FvbCall.listed [(0, count.setWidth 64)] = [(0, count.setWidth 64)] := by
    rw [listed_cons, if_neg (by decide : ¬ (0 : U64) = EFI_LBA_LIST_TERMINATOR)]
    rfl
  rw [FvbCall.Sound, hlisted, List.forall_mem_singleton]
  by_cases hvalid : FvbCall.ValidPair v (0, count.setWidth 64)
  · exact .inl hvalid
  · refine .inr ⟨_, List.mem_singleton.mpr rfl, ?_⟩
    rw [FvbCall.ValidPair, hwide] at hvalid
    rw [FvbCall.PairRefused, hwide]
    dsimp only at hvalid ⊢
    rw [hzero] at hvalid ⊢
    omega

theorem initialize_writes {bootMode : U32} {allocated : Bool} {installed : EfiStatus}
    {f : NorFlash} {shadow : Nat → U8} {run : FvbInitRun}
    (h : norFlashFvbInitialize pcds guids v.toNorFlashInstance bootMode allocated installed f
      shadow = some run) (a : Nat) (ha : ¬ Span.Mem a v.region) :
    run.flash.bytes a = f.bytes a := by
  have hcases := norFlashFvbInitialize_initialised pcds guids v.toNorFlashInstance bootMode
    allocated installed f shadow
  rw [h] at hcases
  generalize hresult : some run = result at hcases
  cases hcases with
  | valid hmode hvalid =>
      cases hresult
      rfl
  | refused e hunerasable =>
      cases hresult
      rfl
  | erased hinstalls g herase headers hheaders =>
      have hkept : g.bytes a = f.bytes a := by
        have hcontained := (eraseBlocks_contained_iff v _).mpr
          (eraseFirst_sound v (nvStorageSize pcds / v.blockSize))
        have hwrites := (hcontained.touches fun _ => 0).writes f a ha
        rw [storageBlocks] at herase
        rw [FvbCall.run, herase] at hwrites
        exact hwrites
      cases hheaders with
      | refused hrefused =>
          cases hresult
          exact hkept
      | nullUsed hconfigured hallocated => cases hresult
      | written hconfigured hallocated written hwritten =>
          cases hresult
          refine Eq.trans ?_ hkept
          rw [hwritten]
          refine fvbWrite_writes v 0 0 HEADERS_LENGTH _ shadow v.startLba_le (by decide) ?_ g a ha
          exact Nat.le_trans (by decide) (Nat.le_of_dvd v.blockSize_pos v.dvd_blockSize)

variable (gEfiCallerIdGuid : List U8) (bootMode : U32)

theorem norFlashChildPublish_flash {db : Handles} {events : List PoolRef}
    (services : FlashChildServices db events) (db' : Handles) (flash : NorFlash)
    (calls : List PoolCall) (i : PoolRef) (handlePath : DevicePath)
    (controller agent : EfiHandle) :
    (norFlashChildPublish services db' flash calls i handlePath controller agent).flash =
      flash := by
  rw [norFlashChildPublish]
  cases services.install with
  | error e => rfl
  | ok new =>
      dsimp only
      split <;> rfl

theorem norFlashChildCreate_flash {db : Handles} {events : List PoolRef}
    {services : FlashChildServices db events} {f : NorFlash}
    {index deviceBase regionBase size : Uintn} {blockSize : U32}
    {gImageHandle controller agent : EfiHandle} {controllerPath : DevicePath}
    {run : FlashChildRun}
    (h : norFlashChildCreate pcds guids gEfiCallerIdGuid db events services bootMode f index
      deviceBase regionBase size blockSize gImageHandle controller agent controllerPath =
        some run) :
    run.flash = f ∨ ∃ init,
      norFlashFvbInitialize pcds guids (fvbInstance pcds regionBase size blockSize) bootMode
        services.allocateHeaders services.installFormatted f (fun _ => 0) = some init ∧
          run.flash = init.flash := by
  rw [norFlashChildCreate] at h
  by_cases hnode : services.createNode
  · rw [if_neg (by rw [hnode]; exact Bool.false_ne_true)] at h
    dsimp only at h
    generalize (if services.appendNode then appendDevicePathNode controllerPath
      (norFlashPathNode gEfiCallerIdGuid deviceBase index) else none) = appended at h
    cases appended with
    | none => cases h
    | some handlePath =>
        cases hallocate : services.allocateInstance with
        | none =>
            rw [hallocate] at h
            exact .inl (Option.some.inj h ▸ rfl)
        | some i =>
            rw [hallocate] at h
            dsimp only at h
            by_cases hshadow : services.allocateShadow
            · rw [if_neg (by rw [hshadow]; exact Bool.false_ne_true)] at h
              obtain ⟨init, hinit, hrun⟩ := Option.map_eq_some_iff.mp h
              refine .inr ⟨init, hinit, ?_⟩
              rw [← hrun]
              exact norFlashChildPublish_flash _ _ _ _ _ _ _ _
            · rw [Bool.not_eq_true] at hshadow
              rw [if_pos (by rw [hshadow]; rfl)] at h
              exact .inl (Option.some.inj h ▸ rfl)
  · rw [Bool.not_eq_true] at hnode
    rw [if_pos (by rw [hnode]; rfl)] at h
    cases h

end Contained

section Spared

variable {pcds : FlashPcds} {guids : FvGuids} {gEfiCallerIdGuid : List U8} {bootMode : U32}
  {gImageHandle agent controller : EfiHandle} {services : FlashStartServices}
  {controllerPath : DevicePath}

/-- The bytes of a register that the driver takes for flash; its size is the length cut to 64
bits. -/
def DtReg.flashSpan (reg : DtReg) : Span := ⟨reg.start.toNat, (reg.length.setWidth 64).toNat⟩

/-- The register is whole blocks, and the variable store starts at one of them. -/
def DtReg.IsVolume (pcds : FlashPcds) (reg : DtReg) : Prop :=
  ∃ v : FvbVolume, v.toNorFlashInstance =
    fvbInstance pcds reg.start (reg.length.setWidth 64) QEMU_NOR_BLOCK_SIZE

theorem flashChildFor_writes {entry : Uintn × DtReg} (hvolume : entry.2.IsVolume pcds)
    {s s' : FlashStartState}
    (h : flashChildFor pcds guids gEfiCallerIdGuid bootMode gImageHandle agent controller
      services controllerPath s entry = some s') (a : Nat)
    (ha : ¬ Span.Mem a entry.2.flashSpan) : s'.flash.bytes a = s.flash.bytes a := by
  rw [flashChildFor, flashChild, Option.map_eq_some_iff] at h
  obtain ⟨run, hrun, rfl⟩ := h
  obtain ⟨v, hv⟩ := hvolume
  obtain hkept | ⟨init, hinit, hwritten⟩ :=
    norFlashChildCreate_flash pcds guids gEfiCallerIdGuid bootMode hrun
  · exact congrFun (congrArg NorFlash.bytes hkept) a
  · dsimp only
    rw [← hv] at hinit
    rw [hwritten]
    refine initialize_writes pcds guids v hinit a ?_
    rw [FvbVolume.region, hv]
    exact ha

theorem flashChildren_writes (entries : List (Uintn × DtReg))
    (hvolume : ∀ entry ∈ entries, entry.2.IsVolume pcds) {s s' : FlashStartState}
    (h : entries.foldlM (flashChildFor pcds guids gEfiCallerIdGuid bootMode gImageHandle agent
      controller services controllerPath) s = some s') (a : Nat)
    (ha : ∀ entry ∈ entries, ¬ Span.Mem a entry.2.flashSpan) :
    s'.flash.bytes a = s.flash.bytes a := by
  induction entries generalizing s with
  | nil => exact congrArg (fun s : FlashStartState => s.flash.bytes a) (Option.some.inj h).symm
  | cons entry entries ih =>
      rw [List.foldlM_cons] at h
      obtain ⟨next, hnext, hrest⟩ := Option.bind_eq_some_iff.mp h
      rw [List.forall_mem_cons] at hvolume ha
      exact (ih hvolume.2 hrest ha.2).trans (flashChildFor_writes hvolume.1 hnext a ha.1)

/-- The primary firmware volume ends below 4 GiB: `DriverStart` takes its end for a 32-bit sum,
so one that ends at 4 GiB is empty to it. -/
def PrimaryFvBelow4G (pcds : FlashPcds) : Prop :=
  pcds.ovmfFdBaseAddress.toNat + pcds.ovmfFirmwareFdSize.toNat < 2 ^ 32

def InPrimaryFv (pcds : FlashPcds) (a : Nat) : Prop :=
  pcds.ovmfFdBaseAddress.toNat ≤ a ∧
    a < pcds.ovmfFdBaseAddress.toNat + pcds.ovmfFirmwareFdSize.toNat

theorem not_mem_of_inPrimaryFv (hstore : VariableStorageOrdered pcds)
    (hfirmware : PrimaryFvBelow4G pcds) {entry : Uintn × DtReg}
    (h : services.holdsStore pcds entry = true) (a : Nat) (ha : InPrimaryFv pcds a) :
    ¬ Span.Mem a entry.2.flashSpan := by
  obtain ⟨houtside, hcontains⟩ := region_of_holdsStore h
  obtain ⟨hstart, hend⟩ := (containVariableStorage_iff pcds _ _).mp hcontains
  rw [outsidePrimaryFv, Bool.not_eq_true', Bool.and_eq_false_iff, decide_eq_false_iff_not,
    decide_eq_false_iff_not, gt_iff_lt, gt_iff_lt, BitVec.lt_def, BitVec.lt_def,
    BitVec.toNat_setWidth_of_le (by omega), BitVec.toNat_setWidth_of_le (by omega),
    BitVec.toNat_add _ entry.2.length, BitVec.toNat_setWidth_of_le (by omega),
    BitVec.toNat_add pcds.ovmfFdBaseAddress, Nat.mod_eq_of_lt hfirmware] at houtside
  rw [BitVec.le_def] at hstart hend
  rw [BitVec.toNat_setWidth_of_le (by omega), BitVec.toNat_add,
    BitVec.toNat_setWidth_of_le (by omega)] at hend
  rw [VariableStorageOrdered, BitVec.lt_def] at hstore
  rw [InPrimaryFv] at ha
  rw [Span.Mem, DtReg.flashSpan, Span.limit_mk, BitVec.toNat_setWidth]
  dsimp only
  have hlength := entry.2.length.isLt
  have hcut := Nat.mod_le entry.2.length.toNat (2 ^ 64)
  omega

theorem flashStartEnd_flash (agent controller : EfiHandle) (services : FlashStartServices)
    (s : FlashStartState) :
    (flashStartEnd agent controller services s).2.flash = s.flash := by
  rw [flashStartEnd]
  split
  · rfl
  · rfl

theorem norFlashDriverStart_flash {db : Handles} {events : List PoolRef} {f : NorFlash}
    {pathEnds : Bool} {status : EfiStatus} {s : FlashStartState}
    (h : norFlashDriverStart pcds guids gEfiCallerIdGuid bootMode gImageHandle agent controller
      services db events f pathEnds = some (status, s)) :
    s.flash = f ∨ ∃ controllerPath next,
      (services.storeRegisters pcds).foldlM
        (flashChildFor pcds guids gEfiCallerIdGuid bootMode gImageHandle agent controller
          services controllerPath) (flashOpened agent controller services db events f) =
            some next ∧ s.flash = next.flash := by
  rw [norFlashDriverStart] at h
  split at h
  · cases h
    exact .inl rfl
  · split at h
    · cases h
      exact .inl rfl
    · split at h
      · next controllerPath hpath =>
          obtain ⟨next, hnext, hend⟩ := Option.map_eq_some_iff.mp h
          rw [flashRegisters_eq] at hnext
          have hkept := flashStartEnd_flash agent controller services next
          rw [hend] at hkept
          exact .inr ⟨controllerPath, next, hnext, hkept⟩
      · cases h
        exact .inl rfl

/-- A start, of however many registers hold the store and whatever fails, changes only bytes
of these registers, and none of a primary firmware volume that ends below 4 GiB. -/
theorem norFlashDriverStart_spares (hstore : VariableStorageOrdered pcds)
    (hfirmware : PrimaryFvBelow4G pcds)
    (hvolume : ∀ entry ∈ services.storeRegisters pcds, entry.2.IsVolume pcds)
    {db : Handles} {events : List PoolRef} {f : NorFlash} {pathEnds : Bool}
    {status : EfiStatus} {s : FlashStartState}
    (h : norFlashDriverStart pcds guids gEfiCallerIdGuid bootMode gImageHandle agent controller
      services db events f pathEnds = some (status, s)) :
    (∀ a, (∀ entry ∈ services.storeRegisters pcds, ¬ Span.Mem a entry.2.flashSpan) →
      s.flash.bytes a = f.bytes a) ∧
    ∀ a, InPrimaryFv pcds a → s.flash.bytes a = f.bytes a := by
  have houtside (a : Nat)
      (ha : ∀ entry ∈ services.storeRegisters pcds, ¬ Span.Mem a entry.2.flashSpan) :
      s.flash.bytes a = f.bytes a := by
    obtain hkept | ⟨controllerPath, next, hnext, hflash⟩ := norFlashDriverStart_flash h
    · rw [hkept]
    · rw [hflash]
      exact flashChildren_writes _ hvolume hnext a ha
  refine ⟨houtside, fun a ha => houtside a fun entry hentry => ?_⟩
  exact not_mem_of_inPrimaryFv hstore hfirmware (List.mem_filter.mp hentry).2 a ha

end Spared

/-- The primary firmware volume ends where the region of the store begins. -/
def firmwareBelow : FlashPcds :=
  { threeBlockPcds with ovmfFdBaseAddress := 0x4000000, ovmfFirmwareFdSize := 0x40000 }

theorem storeReg_isVolume : storeReg.IsVolume firmwareBelow :=
  ⟨{  toNorFlashInstance := fvbInstance firmwareBelow storeReg.start
        (storeReg.length.setWidth 64) QEMU_NOR_BLOCK_SIZE
      blockBits := 18
      blockSize_eq := rfl
      nine_le_blockBits := by decide
      base_aligned := by decide
      size_eq := by decide
      region_le := by decide
      storageVariableBase := 0x4040000
      region_le_store := by decide
      store_lt := by decide
      store_aligned := by decide
      startLba_eq := by decide }, rfl⟩

theorem norFlashDriverStart_spares_below :
    ∃ status s, norFlashDriverStart firmwareBelow edk2Guids [] 0 3 7 1 secondHoldsStore
        flashOnPath [] erasedFlash false = some (status, s) ∧
      s.flash.bytes 0x4000000 = erasedFlash.bytes 0x4000000 := by
  have honly : secondHoldsStore.storeRegisters firmwareBelow = [(2, storeReg)] := by decide
  have hvolume : ∀ entry ∈ secondHoldsStore.storeRegisters firmwareBelow,
      entry.2.IsVolume firmwareBelow := by
    rw [honly, List.forall_mem_singleton]
    exact storeReg_isVolume
  have hsome : (norFlashDriverStart firmwareBelow edk2Guids [] 0 3 7 1 secondHoldsStore
      flashOnPath [] erasedFlash false).isSome = true := by decide
  obtain ⟨⟨status, s⟩, hrun⟩ := Option.isSome_iff_exists.mp hsome
  have hfirmware : PrimaryFvBelow4G firmwareBelow := by
    rw [PrimaryFvBelow4G]
    decide
  exact ⟨status, s, hrun, (norFlashDriverStart_spares (by decide) hfirmware hvolume hrun).2
    0x4000000 ⟨by decide, by decide⟩⟩

end FdtBusPkg
