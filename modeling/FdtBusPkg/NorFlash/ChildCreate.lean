import FdtBusPkg.DtBus.Handles
import FdtBusPkg.NorFlash.InitializeOnce

/-!
The child handle of a flash region. Its creation has one exit for all failures, which is
right for those between the allocation of the instance and the installation of the
protocols only: before, the exit reads a pointer that has no value yet, and after, the
block protocol and the event stay behind, with the instance freed. The result of the
initialisation does not matter to it, nor what the initialisation leaves in the pool.
-/
namespace FdtBusPkg

open OpenRecords (Database)

/-- `NOR_FLASH_DEVICE_PATH`. -/
def norFlashPathNode (gEfiCallerIdGuid : List U8) (deviceBase index : Uintn) : List U8 :=
  vendorPathNode gEfiCallerIdGuid (leBytes 8 deviceBase ++ leBytes 1 (index.setWidth 8))

/-- Memory that is handed out belongs to no installed interface and to no event. -/
structure NewInstance (db : Handles) (events : List PoolRef) (i : PoolRef) : Prop where
  interface (k : EfiHandle × ProtocolGuid) : db.interface k ≠ some (.fvbProtocol i)
  event : i ∉ events

/-- What the services that `ChildCreate` calls answer. -/
structure FlashChildServices (db : Handles) (events : List PoolRef) where
  createNode : Bool
  appendNode : Bool
  allocateInstance : Option { i // NewInstance db events i }
  allocateShadow : Bool
  allocateHeaders : Bool
  installFormatted : EfiStatus
  install : EfiResult { handle // db.Free handle }
  createEvent : EfiStatus
  openChild : EfiStatus
  undo : EfiStatus
  drivers : Handles.StopDrivers

/-- What is left after `ChildCreate`: the handles, the contexts of the events for the
change of the virtual addresses, the flash and the calls of the allocation services. -/
structure FlashChildRun where
  status : EfiStatus
  handles : Handles
  events : List PoolRef
  flash : NorFlash
  calls : List PoolCall

/-- The steps of `ChildCreate` from the installation of the protocols on. -/
def norFlashChildPublish {db : Handles} {events : List PoolRef}
    (services : FlashChildServices db events) (db : Handles) (flash : NorFlash)
    (calls : List PoolCall) (i : PoolRef) (handlePath : DevicePath)
    (controller agent : EfiHandle) : FlashChildRun :=
  let cleanup : List PoolCall := [.free .shadowBuffer, .free (.instance_ i), .free .handlePath]
  match services.install with
  | .error e => ⟨.error e, db, events, flash, calls ++ cleanup⟩
  | .ok ⟨handle, _⟩ =>
    let db : Handles := db.installMultiple handle
      [(.devicePath, .devicePath handlePath), (.firmwareVolumeBlock, .fvbProtocol i)]
    -- A failure is left to an assertion.
    let events := if services.createEvent = .ok () then i :: events else events
    match db.openProtocol services.openChild controller .dtIo
        ⟨agent, handle, .byChildController⟩ with
    | (.error e, db) =>
      ⟨.error e, (db.uninstallMultiple services.drivers services.undo handle [.devicePath]).2,
        events, flash, calls ++ cleanup⟩
    | (.ok _, db) => ⟨.ok (), db, events, flash, calls⟩

section Driver

variable (pcds : FlashPcds) (guids : FvGuids) (gEfiCallerIdGuid : List U8)

/-- `ChildCreate` of the flash driver; `none` is the use of a null pointer or of one without a
value. -/
def norFlashChildCreate (db : Handles) (events : List PoolRef)
    (services : FlashChildServices db events) (bootMode : U32) (f : NorFlash)
    (index deviceBase regionBase size : Uintn) (blockSize : U32)
    (gImageHandle controller agent : EfiHandle) (controllerPath : DevicePath) :
    Option FlashChildRun :=
  if !services.createNode then
    none
  else
    let pathNode := norFlashPathNode gEfiCallerIdGuid deviceBase index
    match if services.appendNode then appendDevicePathNode controllerPath pathNode else none with
    | none => none
    | some handlePath =>
      let calls : List PoolCall := [.allocate .pathNode, .allocate .handlePath, .free .pathNode]
      match services.allocateInstance with
      | none => some ⟨.error .outOfResources, db, events, f, calls ++ [.free .handlePath]⟩
      | some ⟨i, _⟩ =>
        let calls := calls ++ [.allocate (.instance_ i)]
        let inst := fvbInstance pcds regionBase size blockSize
        if !services.allocateShadow then
          some ⟨.error .outOfResources, db, events, f,
            calls ++ [.free (.instance_ i), .free .handlePath]⟩
        else
          let calls := calls ++ [.allocate .shadowBuffer]
          (norFlashFvbInitialize pcds guids inst bootMode services.allocateHeaders
            services.installFormatted f (fun _ => 0)).map fun init =>
              let db : Handles :=
                if init.status = .ok () then db.install (gImageHandle, .nvVarStoreFormatted) .none
                else db
              norFlashChildPublish services db init.flash (calls ++ init.pool) i handlePath
                controller agent

end Driver

section Headers

variable (pcds : FlashPcds) (guids : FvGuids) (inst : NorFlashInstance)

def volumeInstance : NorFlashInstance :=
  { inst with regionBaseAddress := norBlockAddress inst (inst.startLba + 0) }

def VolumeHeadersValid (f : NorFlash) : Prop :=
  validateFvHeader pcds guids (volumeInstance inst) f = .ok ()

/-- If headers are installed, then they can be; otherwise those of the volume are valid. -/
structure HeadersEndValid (bootMode : U32) (f : NorFlash) : Prop where
  installed (h : InstallsHeaders pcds guids inst bootMode f) :
    StoreConfigured pcds inst.blockSize ∧ FirstLineWritable inst
  kept (h : ¬ InstallsHeaders pcds guids inst bootMode f) : VolumeHeadersValid pcds guids inst f

theorem headersEndValid_of_installs {bootMode : U32} {f : NorFlash}
    (hinstalls : InstallsHeaders pcds guids inst bootMode f) :
    HeadersEndValid pcds guids inst bootMode f ↔
      StoreConfigured pcds inst.blockSize ∧ FirstLineWritable inst :=
  ⟨fun h => h.installed hinstalls, fun h => ⟨fun _ => h, fun hnot => absurd hinstalls hnot⟩⟩

theorem headersEndValid_of_not_installs {bootMode : U32} {f : NorFlash}
    (hnot : ¬ InstallsHeaders pcds guids inst bootMode f) :
    HeadersEndValid pcds guids inst bootMode f ↔ VolumeHeadersValid pcds guids inst f :=
  ⟨fun h => h.kept hnot, fun h => ⟨fun hinstalls => absurd hinstalls hnot, fun _ => h⟩⟩

theorem not_volumeHeadersValid_erased (g g' : NorFlash)
    (herased : ∀ i < 0x40000, g.bytes (storeAddress inst + i) = BitVec.allOnes 8)
    (hsame : g'.bytes = g.bytes) : ¬ VolumeHeadersValid pcds guids inst g' := by
  intro hvalid
  rw [VolumeHeadersValid, validate_erased pcds guids (volumeInstance inst) g' fun i hi => by
    rw [hsame]
    exact herased i hi] at hvalid
  exact nomatch hvalid

theorem volumeHeadersValid_written_iff (hblock : inst.blockSize = QEMU_NOR_BLOCK_SIZE)
    (g : NorFlash) (shadow : Nat → U8)
    (herased : ∀ i < 0x40000, g.bytes (storeAddress inst + i) = BitVec.allOnes 8) :
    VolumeHeadersValid pcds guids inst (fvbWrite inst 0 0 HEADERS_LENGTH
      (fvAndVariableStoreHeaders pcds guids inst) g shadow).flash ↔ FirstLineWritable inst := by
  obtain ⟨hline, -, hbytes⟩ | ⟨hunwritable, -, hsame⟩ := fvbWrite_headers_cases inst hblock
    (fvAndVariableStoreHeaders pcds guids inst) g shadow fun i hi => herased i (by omega)
  · refine iff_of_true ?_ hline
    apply validate_headers
    intro i hi
    rw [hbytes]
    exact Segment.overlay_offset _ _ _ _ i hi
  · exact iff_of_false (not_volumeHeadersValid_erased pcds guids inst g _ herased hsame)
      hunwritable

end Headers

section Clean

variable (pcds : FlashPcds) (guids : FvGuids) (gEfiCallerIdGuid : List U8)

/-- Some step of the creation fails, the allocation of the headers if they are installed. -/
def FlashChildServices.Fails {db : Handles} {events : List PoolRef}
    (services : FlashChildServices db events) (controller : EfiHandle) (installs : Prop) : Prop :=
  services.createNode = false ∨ services.appendNode = false ∨ services.allocateInstance = none ∨
    services.allocateShadow = false ∨ (installs ∧ services.allocateHeaders = false) ∨
    services.install.toBool = false ∨ services.createEvent ≠ .ok () ∨
    services.openChild ≠ .ok () ∨ db.interface (controller, .dtIo) = none

/-- A run leaves nothing behind: what it allocated is freed once, and neither an interface nor
an event refers to an instance that is freed. -/
structure LeavesNothing (run : FlashChildRun) : Prop where
  freed (object : PoolObject) (h : .allocate object ∈ run.calls) :
    run.calls.count (.free object) = 1
  interface (i : PoolRef) (h : .free (.instance_ i) ∈ run.calls)
    (k : EfiHandle × ProtocolGuid) : run.handles.interface k ≠ some (.fvbProtocol i)
  event (i : PoolRef) (h : .free (.instance_ i) ∈ run.calls) : i ∉ run.events

/-- A creation that uses no pointer without a value, fails if a step fails, then leaves nothing
behind, and otherwise leaves a volume with valid headers. -/
structure CreatesCleanly (inst : NorFlashInstance) (fails : Prop) (result : Option FlashChildRun) :
    Prop where
  defined : result ≠ none
  fails (run : FlashChildRun) (hrun : result = some run) (h : fails) : run.status ≠ .ok ()
  clean (run : FlashChildRun) (hrun : result = some run) (h : run.status ≠ .ok ()) :
    LeavesNothing run
  valid (run : FlashChildRun) (hrun : result = some run) (h : run.status = .ok ()) :
    VolumeHeadersValid pcds guids inst run.flash

/-- Room for the headers is there exactly if they are laid out. -/
def HeadersAllocated (inst : NorFlashInstance) (allocated : Bool) (installs : Prop) : Prop :=
  installs → (allocated = true ↔ StoreConfigured pcds inst.blockSize)

/-- The device path is made. After that the allocation of the instance or of its shadow buffer
fails; or the headers, if they are installed, are neither left in the pool nor missing, and then
the installation of the protocols fails, or nothing does and the headers end valid. -/
structure CreationGood {db : Handles} {events : List PoolRef}
    (services : FlashChildServices db events) (bootMode : U32) (f : NorFlash)
    (inst : NorFlashInstance) (controller : EfiHandle) : Prop where
  createNode : services.createNode = true
  appendNode : services.appendNode = true
  rest : (services.allocateInstance = none ∨ services.allocateShadow = false) ∨
    HeadersAllocated pcds inst services.allocateHeaders
        (InstallsHeaders pcds guids inst bootMode f) ∧
      (services.install.toBool = false ∨
        ¬ services.Fails controller (InstallsHeaders pcds guids inst bootMode f) ∧
          HeadersEndValid pcds guids inst bootMode f)

theorem appendDevicePathNode_norFlash (path : DevicePath) (deviceBase index : Uintn) :
    ∃ handlePath, appendDevicePathNode path
      (norFlashPathNode gEfiCallerIdGuid deviceBase index) = some handlePath := by
  have hlength :
      devicePathNodeLength (norFlashPathNode gEfiCallerIdGuid deviceBase index) = 29 := by
    simp [devicePathNodeLength, norFlashPathNode, vendorPathNode, leBytes]
  exact ⟨_, by rw [appendDevicePathNode, hlength]; exact if_neg (by decide)⟩

theorem CreatesCleanly.of_failed {inst : NorFlashInstance} {fails : Prop} {run : FlashChildRun}
    (hstatus : run.status ≠ .ok ()) (h : LeavesNothing run) :
    CreatesCleanly pcds guids inst fails (some run) where
  defined := nofun
  fails _ hrun _ := Option.some.inj hrun ▸ hstatus
  clean _ hrun _ := Option.some.inj hrun ▸ h
  valid _ hrun hok := absurd (Option.some.inj hrun ▸ hok) hstatus

theorem interface_fvb_of_undo (drivers : Handles.StopDrivers) (db : Handles) (status : EfiStatus)
    (handle : EfiHandle) (handlePath : DevicePath) (i : PoolRef)
    (hopens : db.opens (handle, .devicePath) = 0) :
    ((db.installMultiple handle [(.devicePath, .devicePath handlePath),
      (.firmwareVolumeBlock, .fvbProtocol i)]).uninstallMultiple drivers status handle
        [.devicePath]).2.interface (handle, .firmwareVolumeBlock) = some (.fvbProtocol i) := by
  have hinstalled : (db.installMultiple handle [(.devicePath, .devicePath handlePath),
      (.firmwareVolumeBlock, .fvbProtocol i)]).interface (handle, .firmwareVolumeBlock) =
        some (.fvbProtocol i) := by
    simp [Handles.installMultiple]
  have hundriven : (db.installMultiple handle [(.devicePath, .devicePath handlePath),
      (.firmwareVolumeBlock, .fvbProtocol i)]).Undriven (handle, .devicePath) := by
    intro e he
    rw [Handles.opens_installMultiple, hopens] at he
    exact absurd he (Multiset.notMem_zero e)
  have hsingle := Handles.uninstallMultiple_single drivers (db.installMultiple handle
    [(.devicePath, .devicePath handlePath), (.firmwareVolumeBlock, .fvbProtocol i)]) status handle
    .devicePath
  cases hok : ((db.installMultiple handle [(.devicePath, .devicePath handlePath),
      (.firmwareVolumeBlock, .fvbProtocol i)]).uninstallMultiple drivers status handle
        [.devicePath]).1 with
  | ok u =>
      rw [hsingle.eq_uninstall hok hundriven]
      dsimp only
      rw [Database.interface_uninstall, if_neg (by simp)]
      exact hinstalled
  | error e =>
      generalize (db.installMultiple handle [(.devicePath, .devicePath handlePath),
        (.firmwareVolumeBlock, .fvbProtocol i)]).uninstallMultiple drivers status handle
        [.devicePath] = result at hsingle hok ⊢
      cases hsingle with
      | kept e => exact hinstalled
      | closed e => exact hinstalled
      | done stopped h => cases hok

theorem LeavesNothing.of_new {db : Handles} {events : List PoolRef} {i : PoolRef}
    (hnew : NewInstance db events i) {run : FlashChildRun}
    (hfreed : ∀ object, .allocate object ∈ run.calls → run.calls.count (.free object) = 1)
    (hinstance : ∀ j, .free (.instance_ j) ∈ run.calls → j = i)
    (hinterface : ∀ k, run.handles.interface k = some (.fvbProtocol i) →
      db.interface k = some (.fvbProtocol i))
    (hevents : run.events = events) : LeavesNothing run where
  freed := hfreed
  interface j h k hk := by
    rw [hinstance j h] at hk
    exact hnew.interface k (hinterface k hk)
  event j h hmem := by
    rw [hinstance j h, hevents] at hmem
    exact hnew.event hmem

theorem openProtocol_ok_iff (db : Handles) (status : EfiStatus) (handle : EfiHandle)
    (protocol : ProtocolGuid) (entry : OpenEntry) :
    (db.openProtocol status handle protocol entry).1 = .ok () ↔
      status = .ok () ∧ db.interface (handle, protocol) ≠ none := by
  rw [Handles.openProtocol.eq_def]
  split
  · next hnone =>
      refine iff_of_false (fun h => ?_) fun h => h.2 hnone
      cases h
  · next hsome =>
      cases status with
      | error e =>
          refine iff_of_false (fun h => ?_) fun h => ?_
          · cases h
          · cases h.1
      | ok u => exact iff_of_true rfl ⟨rfl, hsome⟩

/-- What comes of the steps from the installation on: they fail there; or at the open, with
the block protocol left installed; or they succeed, with the event or without it. -/
inductive Published {db : Handles} {events : List PoolRef}
    (services : FlashChildServices db events) (db' : Handles) (flash : NorFlash)
    (calls : List PoolCall) (i : PoolRef) (controller : EfiHandle) : FlashChildRun → Prop
  | refused (e : EfiError) (hinstall : services.install.toBool = false) :
      Published services db' flash calls i controller ⟨.error e, db', events, flash,
        calls ++ [.free .shadowBuffer, .free (.instance_ i), .free .handlePath]⟩
  | left (e : EfiError) (after : Handles) (events' : List PoolRef) (handle : EfiHandle)
      (hinstall : services.install.toBool = true)
      (hopen : ¬ (services.openChild = .ok () ∧ db'.interface (controller, .dtIo) ≠ none))
      (hleft : after.interface (handle, .firmwareVolumeBlock) = some (.fvbProtocol i)) :
      Published services db' flash calls i controller ⟨.error e, after, events', flash,
        calls ++ [.free .shadowBuffer, .free (.instance_ i), .free .handlePath]⟩
  | done (after : Handles) (events' : List PoolRef) (hinstall : services.install.toBool = true)
      (hopen : services.openChild = .ok () ∧ db'.interface (controller, .dtIo) ≠ none) :
      Published services db' flash calls i controller ⟨.ok (), after, events', flash, calls⟩

theorem norFlashChildPublish_cases {db : Handles} {events : List PoolRef}
    (services : FlashChildServices db events) (db' : Handles) (hopens : db'.opens = db.opens)
    (flash : NorFlash) (calls : List PoolCall) (i : PoolRef) (handlePath : DevicePath)
    (controller agent : EfiHandle) :
    Published services db' flash calls i controller
      (norFlashChildPublish services db' flash calls i handlePath controller agent) := by
  rw [norFlashChildPublish]
  cases hinstall : services.install with
  | error e => exact .refused e (by rw [hinstall]; rfl)
  | ok new =>
      obtain ⟨handle, hfree⟩ := new
      have hinstalled : services.install.toBool = true := by
        rw [hinstall]
        rfl
      have hunopened : db'.opens (handle, .devicePath) = 0 := by
        rw [hopens, db.closed _ (hfree.bare .devicePath)]
      have hopen := openProtocol_ok_iff (db'.installMultiple handle [(.devicePath,
        .devicePath handlePath), (.firmwareVolumeBlock, .fvbProtocol i)]) services.openChild
        controller .dtIo ⟨agent, handle, .byChildController⟩
      have hkept : (db'.installMultiple handle [(.devicePath, .devicePath handlePath),
          (.firmwareVolumeBlock, .fvbProtocol i)]).interface (controller, .dtIo) =
            db'.interface (controller, .dtIo) := by
        simp [Handles.installMultiple]
      rw [hkept] at hopen
      have hcases := Handles.openProtocol_cases (db'.installMultiple handle [(.devicePath,
        .devicePath handlePath), (.firmwareVolumeBlock, .fvbProtocol i)])
        services.openChild controller .dtIo ⟨agent, handle, .byChildController⟩
      dsimp only
      obtain ⟨e, hfails⟩ | ⟨hopened, -⟩ := hcases
      · rw [hfails] at hopen ⊢
        refine .left e _ _ handle hinstalled (fun h => ?_)
          (interface_fvb_of_undo services.drivers db' services.undo handle handlePath i hunopened)
        cases hopen.mpr h
      · rw [hopened] at hopen ⊢
        exact .done _ _ hinstalled (hopen.mp rfl)

/-- The steps before the initialisation of the volume succeed. -/
structure FlashChildServices.Prepared {db : Handles} {events : List PoolRef}
    (services : FlashChildServices db events) : Prop where
  createNode : services.createNode = true
  appendNode : services.appendNode = true
  allocateInstance : services.allocateInstance ≠ none
  allocateShadow : services.allocateShadow = true

section Prepared

variable {db : Handles} {events : List PoolRef} {services : FlashChildServices db events}

theorem FlashChildServices.Prepared.fails_iff (h : services.Prepared) (controller : EfiHandle)
    (installs : Prop) :
    services.Fails controller installs ↔
      (installs ∧ services.allocateHeaders = false) ∨ services.install.toBool = false ∨
      services.createEvent ≠ .ok () ∨ services.openChild ≠ .ok () ∨
        db.interface (controller, .dtIo) = none := by
  simp [FlashChildServices.Fails, h.createNode, h.appendNode, h.allocateInstance, h.allocateShadow]

theorem FlashChildServices.Prepared.good_iff (h : services.Prepared) (bootMode : U32)
    (f : NorFlash) (inst : NorFlashInstance) (controller : EfiHandle) :
    CreationGood pcds guids services bootMode f inst controller ↔
      HeadersAllocated pcds inst services.allocateHeaders
          (InstallsHeaders pcds guids inst bootMode f) ∧
        (services.install.toBool = false ∨
          ¬ services.Fails controller (InstallsHeaders pcds guids inst bootMode f) ∧
            HeadersEndValid pcds guids inst bootMode f) := by
  constructor
  · intro hgood
    refine hgood.rest.resolve_left fun hrest => ?_
    obtain hnone | hshadow := hrest
    · exact absurd hnone h.allocateInstance
    · exact nomatch hshadow.symm.trans h.allocateShadow
  · intro hrest
    exact ⟨h.createNode, h.appendNode, .inr hrest⟩

/-- The calls of the allocation services up to the installation of the protocols. -/
def preparedCalls (i : PoolRef) (pool : List PoolCall) : List PoolCall :=
  [.allocate .pathNode, .allocate .handlePath, .free .pathNode] ++ [.allocate (.instance_ i)] ++
    [.allocate .shadowBuffer] ++ pool

/-- The steps from the installation on leave things clean if the installation fails, or if no step
fails and the headers are valid. -/
theorem published_clean_iff (h : services.Prepared) (flash : NorFlash) (inst : NorFlashInstance)
    {i : PoolRef} (hnew : NewInstance db events i) (db' : Handles) (controller : EfiHandle)
    (hdtIo : db'.interface (controller, .dtIo) = db.interface (controller, .dtIo))
    (hfvb : ∀ k, db'.interface k = some (.fvbProtocol i) → db.interface k = some (.fvbProtocol i))
    (pool : List PoolCall) (hpool : pool = [] ∨ pool = [.allocate .headers, .free .headers])
    (installs : Prop) (run : FlashChildRun)
    (hrun : Published services db' flash (preparedCalls i pool) i controller run) :
    CreatesCleanly pcds guids inst (services.Fails controller installs) (some run) ↔
      services.install.toBool = false ∨
        ¬ services.Fails controller installs ∧ VolumeHeadersValid pcds guids inst flash := by
  rw [h.fails_iff controller]
  cases hrun with
  | refused e hinstall =>
      refine iff_of_true (.of_failed pcds guids nofun ?_) (.inl hinstall)
      rcases hpool with rfl | rfl
      · refine .of_new hnew (fun object h => ?_) (fun j h => ?_) hfvb rfl
        · simp [preparedCalls] at h
          rcases h with rfl | rfl | rfl | rfl <;> simp [preparedCalls]
        · simpa [preparedCalls] using h
      · refine .of_new hnew (fun object h => ?_) (fun j h => ?_) hfvb rfl
        · simp [preparedCalls] at h
          rcases h with rfl | rfl | rfl | rfl | rfl <;> simp [preparedCalls]
        · simpa [preparedCalls] using h
  | left e after events' handle hinstall hopen hleft =>
      rw [hdtIo] at hopen
      refine iff_of_false (fun h => ?_) fun h => ?_
      · exact (h.clean _ rfl nofun).interface i (by simp) _ hleft
      · obtain hrefused | ⟨hnofail, -⟩ := h
        · exact nomatch hrefused.symm.trans hinstall
        · refine hopen ⟨?_, fun hnone => hnofail (.inr (.inr (.inr (.inr hnone))))⟩
          by_contra hchild
          exact hnofail (.inr (.inr (.inr (.inl hchild))))
  | done after events' hinstall hopen =>
      rw [hdtIo] at hopen
      have hfails : (installs ∧ services.allocateHeaders = false) ∨
          services.install.toBool = false ∨ services.createEvent ≠ .ok () ∨
          services.openChild ≠ .ok () ∨ db.interface (controller, .dtIo) = none ↔
          (installs ∧ services.allocateHeaders = false) ∨ services.createEvent ≠ .ok () := by
        simp [hinstall, hopen]
      have hnot : ¬ services.install.toBool = false := by simp [hinstall]
      rw [hfails, or_iff_right hnot]
      constructor
      · intro h
        exact ⟨fun hfail => h.fails _ rfl hfail rfl, h.valid _ rfl rfl⟩
      · rintro ⟨hnofail, hheaders⟩
        refine ⟨nofun, fun _ _ h => absurd h hnofail, fun run hrun hstatus => ?_,
          fun run hrun _ => ?_⟩
        · cases hrun
          exact absurd rfl hstatus
        · cases hrun
          exact hheaders

/-- With the headers left in the pool and no valid ones in the volume, the creation is not clean
however it goes on. -/
theorem published_leaks (flash : NorFlash) (inst : NorFlashInstance) {i : PoolRef} (db' : Handles)
    (controller : EfiHandle) (hinvalid : ¬ VolumeHeadersValid pcds guids inst flash)
    (fails : Prop) (run : FlashChildRun) (hrun : Published services db' flash
      (preparedCalls i [.allocate .headers]) i controller run) :
    ¬ CreatesCleanly pcds guids inst fails (some run) := by
  intro h
  cases hrun with
  | refused e hinstall =>
      have hfreed := (h.clean _ rfl nofun).freed .headers (by simp [preparedCalls])
      simp [preparedCalls] at hfreed
  | left e after events' handle hinstall hopen hleft =>
      exact (h.clean _ rfl nofun).interface i (by simp) _ hleft
  | done after events' hinstall hopen => exact hinvalid (h.valid _ rfl rfl)

/-- What the steps after the initialisation come to, from any of its ends. -/
def Follows (services : FlashChildServices db events) (i : PoolRef) (controller : EfiHandle)
    (result : FvbInitRun → FlashChildRun) : Prop :=
  ∀ run, ∃ db' : Handles,
    db'.interface (controller, .dtIo) = db.interface (controller, .dtIo) ∧
      (∀ k, db'.interface k = some (.fvbProtocol i) →
        db.interface k = some (.fvbProtocol i)) ∧
      Published services db' run.flash (preparedCalls i run.pool) i controller (result run)

section Follows

variable {i : PoolRef} {controller : EfiHandle} {result : FvbInitRun → FlashChildRun}

theorem Follows.clean_iff (h : Follows services i controller result)
    (hprepared : services.Prepared) (inst : NorFlashInstance) (hnew : NewInstance db events i)
    (installs : Prop) (run : FvbInitRun)
    (hpool : run.pool = [] ∨ run.pool = [.allocate .headers, .free .headers]) :
    CreatesCleanly pcds guids inst (services.Fails controller installs) (some (result run)) ↔
      services.install.toBool = false ∨ ¬ services.Fails controller installs ∧
        VolumeHeadersValid pcds guids inst run.flash := by
  obtain ⟨db', hdtIo, hfvb, hpublished⟩ := h run
  exact published_clean_iff pcds guids hprepared run.flash inst hnew db' controller hdtIo hfvb
    run.pool hpool installs (result run) hpublished

/-- Without headers to install, all depends on those that the volume has. -/
theorem Follows.kept_clean_iff (h : Follows services i controller result)
    (hprepared : services.Prepared) (bootMode : U32) (inst : NorFlashInstance)
    (hnew : NewInstance db events i) (run : FvbInitRun)
    (hnot : ¬ InstallsHeaders pcds guids inst bootMode run.flash) (hpool : run.pool = []) :
    CreatesCleanly pcds guids inst
        (services.Fails controller (InstallsHeaders pcds guids inst bootMode run.flash))
        (some (result run)) ↔
      CreationGood pcds guids services bootMode run.flash inst controller := by
  have hallocated : HeadersAllocated pcds inst services.allocateHeaders
      (InstallsHeaders pcds guids inst bootMode run.flash) :=
    fun hinstalls => absurd hinstalls hnot
  rw [h.clean_iff pcds guids hprepared inst hnew _ run (.inl hpool),
    hprepared.good_iff pcds guids bootMode run.flash inst controller, and_iff_right hallocated,
    headersEndValid_of_not_installs pcds guids inst hnot]

/-- Once the storage is erased, all depends on the headers that are written to it. -/
theorem Follows.erased_clean_iff (h : Follows services i controller result)
    (hprepared : services.Prepared) (bootMode : U32) (f : NorFlash) (inst : NorFlashInstance)
    (hblock : inst.blockSize = QEMU_NOR_BLOCK_SIZE) (hnew : NewInstance db events i)
    (hinstalls : InstallsHeaders pcds guids inst bootMode f) (installed : EfiStatus) {g : NorFlash}
    (herased : ∀ i < 0x40000, g.bytes (storeAddress inst + i) = BitVec.allOnes 8)
    (shadow : Nat → U8) {headers : Option FvbInitRun}
    (hheaders : HeadersInstalled pcds guids inst services.allocateHeaders g shadow headers) :
    CreatesCleanly pcds guids inst
        (services.Fails controller (InstallsHeaders pcds guids inst bootMode f))
        ((headers.map (·.finish installed (storageBlocks pcds inst))).map result) ↔
      CreationGood pcds guids services bootMode f inst controller := by
  rw [hprepared.good_iff pcds guids bootMode f inst controller,
    headersEndValid_of_installs pcds guids inst hinstalls]
  cases hheaders with
  | refused hrefused =>
      have hinvalid := not_volumeHeadersValid_erased pcds guids inst g g herased rfl
      cases hallocated : services.allocateHeaders with
      | true =>
          refine iff_of_false ?_ fun hgood => hrefused ((hgood.1 hinstalls).mp rfl)
          obtain ⟨db', -, -, hpublished⟩ := h (FvbInitRun.finish
            ⟨.error .invalidParameter, g, [], headersAllocation true⟩ installed
            (storageBlocks pcds inst))
          exact published_leaks pcds guids _ inst db' controller hinvalid _ _ hpublished
      | false =>
          have hnone : HeadersAllocated pcds inst false
              (InstallsHeaders pcds guids inst bootMode f) :=
            fun _ => iff_of_false nofun hrefused
          refine (h.clean_iff pcds guids hprepared inst hnew _ _ (.inl rfl)).trans ?_
          rw [and_iff_right hnone]
          refine or_congr_right (and_congr_right fun _ => ?_)
          exact iff_of_false hinvalid fun hend => hrefused hend.1
  | nullUsed hconfigured hallocated =>
      refine iff_of_false (fun hclean => hclean.defined rfl) fun hgood => ?_
      exact nomatch hallocated.symm.trans ((hgood.1 hinstalls).mpr hconfigured)
  | written hconfigured hallocated run hrun =>
      have hroom : HeadersAllocated pcds inst services.allocateHeaders
          (InstallsHeaders pcds guids inst bootMode f) :=
        fun _ => iff_of_true hallocated hconfigured
      refine (h.clean_iff pcds guids hprepared inst hnew _ _ (.inr rfl)).trans ?_
      rw [and_iff_right hroom]
      refine or_congr_right (and_congr_right fun _ => ?_)
      rw [and_iff_right hconfigured, hrun]
      exact volumeHeadersValid_written_iff pcds guids inst hblock _ shadow herased

theorem initialised_clean_iff (h : Follows services i controller result)
    (hprepared : services.Prepared) (bootMode : U32) (f : NorFlash) (inst : NorFlashInstance)
    (hblock : inst.blockSize = QEMU_NOR_BLOCK_SIZE) (hnew : NewInstance db events i)
    (installed : EfiStatus) (shadow : Nat → U8) (init : Option FvbInitRun)
    (hinit : Initialised pcds guids inst bootMode services.allocateHeaders installed f shadow
      init) :
    CreatesCleanly pcds guids inst
        (services.Fails controller (InstallsHeaders pcds guids inst bootMode f))
        (init.map result) ↔
      CreationGood pcds guids services bootMode f inst controller := by
  cases hinit with
  | valid hmode hvalid =>
      exact h.kept_clean_iff pcds guids hprepared bootMode inst hnew ⟨installed, f, [], []⟩
        (fun hinstalls => hinstalls.1.elim hmode fun hneeded => hneeded hvalid) rfl
  | refused e hunerasable =>
      exact h.kept_clean_iff pcds guids hprepared bootMode inst hnew
        ⟨.error e, f, [.eraseBlocks (storageBlocks pcds inst)], []⟩
        (fun hinstalls => hunerasable hinstalls.2) rfl
  | erased hinstalls g herase headers hheaders =>
      refine h.erased_clean_iff pcds guids hprepared bootMode f inst hblock hnew hinstalls
        installed ?_ shadow hheaders
      obtain ⟨numOfLba, hpos, hsame⟩ := fvbEraseBlocks_storage pcds inst hinstalls.2 f
      obtain rfl := (Prod.mk.inj (herase.symm.trans hsame)).2
      exact eraseLbaLoop_first inst hblock numOfLba hpos f

end Follows

end Prepared

end Clean

/-- The controller `1` with the devicetree I/O protocol. -/
def flashController : Handles := Database.empty.install (1, .dtIo) (.dtIo 5)

/-- Everything succeeds but opening the controller for the child. -/
def openDenied : FlashChildServices flashController [] where
  createNode := true
  appendNode := true
  allocateInstance := some ⟨9, fun k => by
    rw [flashController, Database.interface_install]
    split <;> exact nofun, nofun⟩
  allocateShadow := true
  allocateHeaders := true
  installFormatted := .ok ()
  install := .ok ⟨2, ⟨fun _ => rfl, fun _ e he => absurd he (Multiset.notMem_zero e)⟩⟩
  createEvent := .ok ()
  openChild := .error .accessDenied
  undo := .ok ()
  drivers := Handles.yieldingDrivers

def openDeniedRun : Option FlashChildRun :=
  norFlashChildCreate threeBlockPcds edk2Guids [] flashController [] openDenied 0 erasedFlash 0
    0x4040000 0x4040000 0xC0000 QEMU_NOR_BLOCK_SIZE 3 1 7 []

end FdtBusPkg
