import FdtBusPkg.Library.KeyedList
import FdtBusPkg.DtBus.Registry

/-!
What creation, registration and removal do to the registered devices, and what
they keep: handles, paths and device records that are distinct, each device but the
root open by child controller on its parent, and the list of critical devices.
-/
namespace FdtBusPkg

section Identity

/-- Initialisation leaves the identity of a device, its parent and its critical flag
as they are. -/
structure SameIdentity (d d' : DtDevice) : Prop where
  dtIo : d'.info.dtIo = d.info.dtIo
  handle : d'.info.handle = d.info.handle
  fdtNode : d'.info.fdtNode = d.info.fdtNode
  parent : d'.parent? = d.parent?
  critical : d'.info.flags &&& DT_DEVICE_CRITICAL = d.info.flags &&& DT_DEVICE_CRITICAL

theorem SameIdentity.trans {d d' d'' : DtDevice} (h : SameIdentity d d')
    (h' : SameIdentity d' d'') :
    SameIdentity d d'' where
  dtIo := h'.dtIo.trans h.dtIo
  handle := h'.handle.trans h.handle
  fdtNode := h'.fdtNode.trans h.fdtNode
  parent := h'.parent.trans h.parent
  critical := h'.critical.trans h.critical

theorem sameIdentity_setInfo (d : DtDevice) (f : DtDeviceInfo → DtDeviceInfo)
    (hdtIo : (f d.info).dtIo = d.info.dtIo) (hhandle : (f d.info).handle = d.info.handle)
    (hnode : (f d.info).fdtNode = d.info.fdtNode)
    (hflags : (f d.info).flags &&& DT_DEVICE_CRITICAL = d.info.flags &&& DT_DEVICE_CRITICAL) :
    SameIdentity d (d.setInfo f) where
  dtIo := by rw [DtDevice.info_setInfo, hdtIo]
  handle := by rw [DtDevice.info_setInfo, hhandle]
  fdtNode := by rw [DtDevice.info_setInfo, hnode]
  parent := DtDevice.parent?_setInfo d f
  critical := by rw [DtDevice.info_setInfo, hflags]

theorem and_critical_or (flags flag : Uintn) :
    (flags ||| flag) &&& DT_DEVICE_CRITICAL =
      (flags &&& DT_DEVICE_CRITICAL) ||| (flag &&& DT_DEVICE_CRITICAL) := by
  rw [BitVec.and_comm, BitVec.and_or_distrib_left, BitVec.and_comm, BitVec.and_comm _ flag]

theorem critical_dmaRangesLoop (mem : Nat → U8) (d : DtDevice) (fuel : Nat) (p : DtProperty)
    (flags : Uintn) (limit : U64) :
    (dmaRangesLoop mem d fuel p flags limit).2.1 &&& DT_DEVICE_CRITICAL =
      flags &&& DT_DEVICE_CRITICAL := by
  induction fuel generalizing p limit with
  | zero => rfl
  | succ fuel ih =>
      rw [dmaRangesLoop]
      split
      · split
        · rfl
        · split
          · rfl
          · split
            · rfl
            · split
              · dsimp only
                rw [and_critical_or]
                exact BitVec.or_zero
              · exact ih _ _
      · rfl

theorem sameIdentity_dmaInitRanges (mem : Nat → U8) (d : DtDevice) (p : DtProperty) :
    SameIdentity d (dmaInitRanges mem d p).2 := by
  have hflags := critical_dmaRangesLoop mem d (p.cells + 1) p d.info.flags
    d.info.maxCpuDmaAddress
  rw [dmaInitRanges]
  split
  · exact ⟨rfl, rfl, rfl, rfl, rfl⟩
  · split
    · next hloop =>
        rw [hloop] at hflags
        exact sameIdentity_setInfo d _ rfl rfl rfl hflags
    · next hloop =>
        rw [hloop] at hflags
        exact sameIdentity_setInfo d _ rfl rfl rfl hflags

theorem sameIdentity_dtDeviceCreateDmaInit (isCoherent : Bool) (uninit : DtProperty) (fdt : Fdt)
    (d : DtDevice) : SameIdentity d (dtDeviceCreateDmaInit isCoherent uninit fdt d).2 := by
  have hlimit (limit : U64) :
      SameIdentity d (d.setInfo fun i => { i with maxCpuDmaAddress := limit }) :=
    sameIdentity_setInfo d _ rfl rfl rfl rfl
  have hcoherent (d : DtDevice) (b : Bool) :
      SameIdentity d (d.setInfo fun i => { i with isDmaCoherent := b }) :=
    sameIdentity_setInfo d _ rfl rfl rfl rfl
  rw [dtDeviceCreateDmaInit]
  dsimp only
  split
  · split
    · exact (hlimit _).trans (hcoherent _ _)
    · exact ((hlimit _).trans (hcoherent _ _)).trans (sameIdentity_dmaInitRanges _ _ _)
    · exact ((hlimit _).trans (hcoherent _ _)).trans (sameIdentity_dmaInitRanges _ _ _)
  · split
    · exact (hlimit _).trans (hcoherent _ _)
    · exact ((hlimit _).trans (hcoherent _ _)).trans (sameIdentity_dmaInitRanges _ _ _)
    · exact ((hlimit _).trans (hcoherent _ _)).trans (sameIdentity_dmaInitRanges _ _ _)
  · exact hlimit _

/-- Whether a node is marked critical or is of type memory. -/
def fdtIsCriticalNode (fdt : Fdt) (fdtNode : Int) : Bool :=
  fdtIsDeviceCritical fdt fdtNode ||
    match fdtGetDeviceType fdt fdtNode with
    | none => false
    | some buf => asciiStrEq fdt.mem buf "memory".toList

/-- What `DtDeviceCreate` makes of a node. -/
structure Populated (fdt : Fdt) (dtIo : DtIoRef) (fdtNode : Int) (parent : Option DtDevice)
    (c : CreatedDevice) : Prop where
  dtIo_eq : c.device.info.dtIo = dtIo
  node_eq : c.device.info.fdtNode = fdtNode
  parent_eq : c.device.parent? = parent
  critical_eq : c.isCritical = fdtIsCriticalNode fdt fdtNode

theorem parent?_dtDeviceCells (fdt : Fdt) (dtIo : DtIoRef) (fdtNode : Int)
    (parent : Option DtDevice) (parentFlags : Uintn) :
    (dtDeviceCells fdt dtIo fdtNode parent parentFlags).parent? = parent := by
  cases parent <;> rfl

theorem info_dtDeviceCells (fdt : Fdt) (dtIo : DtIoRef) (fdtNode : Int)
    (parent : Option DtDevice) (parentFlags : Uintn) :
    (dtDeviceCells fdt dtIo fdtNode parent parentFlags).info.dtIo = dtIo ∧
      (dtDeviceCells fdt dtIo fdtNode parent parentFlags).info.fdtNode = fdtNode := by
  cases parent <;> exact ⟨rfl, rfl⟩

theorem critical_dtDeviceCells (fdt : Fdt) (dtIo : DtIoRef) (fdtNode : Int)
    (parent : Option DtDevice) (parentFlags : Uintn) :
    (dtDeviceCells fdt dtIo fdtNode parent parentFlags).info.flags &&& DT_DEVICE_CRITICAL = 0 := by
  have hflags : (dtDeviceCells fdt dtIo fdtNode parent parentFlags).info.flags =
      parentFlags &&& DT_DEVICE_INHERITED := by
    cases parent <;> rfl
  rw [hflags, BitVec.and_assoc]
  exact BitVec.and_zero

theorem dtDevicePopulate_populated (isCoherent : Bool) (uninit : DtProperty) (fdt : Fdt)
    (dtIo : DtIoRef) (fdtNode : Int) (parent : Option DtDevice) (parentFlags : Uintn) :
    Populated fdt dtIo fdtNode parent
      (dtDevicePopulate isCoherent uninit fdt dtIo fdtNode parent parentFlags) := by
  have hsame := sameIdentity_dtDeviceCreateDmaInit isCoherent uninit fdt
    (dtDeviceCells fdt dtIo fdtNode parent parentFlags)
  have hinfo := info_dtDeviceCells fdt dtIo fdtNode parent parentFlags
  have hflags := hsame.critical.trans (critical_dtDeviceCells fdt dtIo fdtNode parent parentFlags)
  have hdevice : (dtDevicePopulate isCoherent uninit fdt dtIo fdtNode parent parentFlags).device =
      (dtDeviceCreateDmaInit isCoherent uninit fdt
        (dtDeviceCells fdt dtIo fdtNode parent parentFlags)).2.setInfo fun i =>
          if fdtIsCriticalNode fdt fdtNode then
            { i with flags := i.flags ||| DT_DEVICE_CRITICAL }
          else
            i := rfl
  refine ⟨?_, ?_, ?_, ?_⟩
  · refine Eq.trans ?_ (hsame.dtIo.trans hinfo.1)
    rw [hdevice, DtDevice.info_setInfo]
    split <;> rfl
  · refine Eq.trans ?_ (hsame.fdtNode.trans hinfo.2)
    rw [hdevice, DtDevice.info_setInfo]
    split <;> rfl
  · rw [hdevice, DtDevice.parent?_setInfo, hsame.parent, parent?_dtDeviceCells]
  · rw [CreatedDevice.isCritical, hdevice, DtDevice.info_setInfo]
    cases fdtIsCriticalNode fdt fdtNode with
    | false =>
        rw [if_neg Bool.false_ne_true, hflags]
        rfl
    | true =>
        rw [if_pos rfl]
        dsimp only
        rw [and_critical_or, hflags]
        rfl

end Identity

namespace DtDeviceRecord

variable (r : DtDeviceRecord) (handle : EfiHandle)

@[simp] theorem handle_withHandle : (r.withHandle handle).handle = handle := by
  simp [DtDeviceRecord.handle, device, withHandle]

@[simp] theorem dtIo_withHandle : (r.withHandle handle).dtIo = r.dtIo := by
  simp [dtIo, device, withHandle]

@[simp] theorem fdtNode_withHandle : (r.withHandle handle).fdtNode = r.fdtNode := by
  simp [fdtNode, device, withHandle]

@[simp] theorem parent?_withHandle : (r.withHandle handle).device.parent? = r.device.parent? := by
  simp [device, withHandle]

@[simp] theorem isCritical_withHandle : (r.withHandle handle).isCritical = r.isCritical := by
  simp [isCritical, CreatedDevice.isCritical, device, withHandle]

end DtDeviceRecord

section Lookup

variable (σ : Registry) (path : DevicePath)

/-- Without connecting, the result is the handle whose path is the whole path. -/
theorem dtPathToHandle_noConnect :
    ∃ result, dtPathToHandle none path 1 σ = some (result, σ) ∧
      (∀ handle, result = .ok handle → ∃ d ∈ σ.devices, d.devicePath = path ∧ d.handle = handle) ∧
      (∀ d ∈ σ.devices, d.devicePath = path → ∃ handle, result = .ok handle) := by
  have hrun (result : EfiResult EfiHandle)
      (hbody : dtPathToHandleBody none path (none, σ) = .exit (result, σ)) :
      dtPathToHandle none path 1 σ = some (result, σ) := by
    rw [dtPathToHandle, Loop.run, hbody]
  cases hsearch : LongestPrefix.search (·.devicePath) path σ.devices with
  | none =>
      refine ⟨.error .notFound, hrun _ ?_, fun handle hok => ?_, fun d hd hpath => ?_⟩
      · simp [dtPathToHandleBody, Registry.locateDevicePath, hsearch]
      · cases hok
      · have hmiss := (LongestPrefix.search_none (·.devicePath) path σ.devices).mp hsearch d hd
        exact absurd (hpath ▸ List.prefix_rfl) hmiss
  | some found =>
      have hbest := LongestPrefix.search_some _ _ _ _ hsearch
      by_cases hrest : path.drop found.devicePath.length = []
      · refine ⟨.ok found.handle, hrun _ ?_, fun handle hok => ?_, fun d _ _ => ⟨_, rfl⟩⟩
        · simp [dtPathToHandleBody, Registry.locateDevicePath, hsearch, hrest]
        · cases hok
          refine ⟨found, hbest.mem, ?_, rfl⟩
          exact hbest.isPrefix.eq_of_length_le (List.drop_eq_nil_iff.mp hrest)
      · refine ⟨.error .notFound, hrun _ ?_, fun handle hok => ?_, fun d hd hpath => ?_⟩
        · simp [dtPathToHandleBody, Registry.locateDevicePath, hsearch, hrest]
        · cases hok
        · obtain ⟨best, hbest', -, hkey⟩ :=
            LongestPrefix.exact_found (·.devicePath) path σ.devices d hd hpath
          rw [hsearch] at hbest'
          cases hbest'
          exact absurd (by rw [hkey, List.drop_length]) hrest

end Lookup

namespace Registry

@[simp] theorem handles_insertCritical (σ : Registry) (r : DtDeviceRecord) :
    (σ.insertCritical r).handles = σ.handles := by
  rw [insertCritical]
  split <;> rfl

@[simp] theorem devices_insertCritical (σ : Registry) (r : DtDeviceRecord) :
    (σ.insertCritical r).devices = σ.devices := by
  rw [insertCritical]
  split <;> rfl

@[simp] theorem opens_insertCritical (σ : Registry) (r : DtDeviceRecord) :
    (σ.insertCritical r).opens = σ.opens := by
  rw [insertCritical]
  split <;> rfl

@[simp] theorem handles_install (σ : Registry) (r : DtDeviceRecord) :
    (σ.install r).handles = σ.handles ++ [r.handle] := by
  simp [install, handles]

theorem mem_handles (σ : Registry) (d : DtDeviceRecord) (hd : d ∈ σ.devices) :
    d.handle ∈ σ.handles := List.mem_map_of_mem hd

theorem openProtocol_cases (σ : Registry) (available : EfiStatus) (handle : EfiHandle)
    (entry : OpenEntry) :
    (∃ e, σ.openProtocol available handle entry = (.error e, σ) ∧
        (available = .ok () → handle ∉ σ.handles)) ∨
      σ.openProtocol available handle entry = (.ok (), σ.addOpen handle entry) := by
  by_cases hmem : handle ∈ σ.handles
  · cases available with
    | error e => exact .inl ⟨e, by simp [openProtocol, hmem], nofun⟩
    | ok u => exact .inr (by simp [openProtocol, hmem])
  · exact .inl ⟨_, by rw [openProtocol.eq_def, if_pos hmem], fun _ => hmem⟩

theorem mem_opens_closeTransient (σ : Registry) (handle handle' : EfiHandle) (e : OpenEntry) :
    e ∈ (σ.closeTransient handle).opens handle' ↔
      e ∈ σ.opens handle' ∧ ¬ (handle' = handle ∧ e.IsTransient) := by
  by_cases hsame : handle' = handle
  · subst hsame
    simp [closeTransient]
  · simp [closeTransient, hsame]

theorem drop_closeTransient (σ : Registry) (handle : EfiHandle) :
    (σ.closeTransient handle).drop handle = σ.drop handle := by
  simp [closeTransient, drop]

theorem release_cases (σ : Registry) (handle : EfiHandle) :
    σ.release handle = (.error .invalidParameter, σ.closeTransient handle) ∨
      σ.release handle = (.ok (), σ.drop handle) ∧ ∀ e ∈ σ.opens handle, e.IsTransient := by
  rw [release]
  by_cases hopen : (σ.closeTransient handle).opens handle = []
  · refine .inr ⟨by simp only [hopen, drop_closeTransient, ne_eq, not_true, if_false], ?_⟩
    intro e he
    by_contra hheld
    have hmem := (mem_opens_closeTransient σ handle handle e).mpr ⟨he, fun h => hheld h.2⟩
    rw [hopen] at hmem
    cases hmem
  · exact .inl (by simp only [ne_eq, hopen, not_false_iff, if_true])

theorem release_install (σ : Registry) (r : DtDeviceRecord) (hfresh : r.handle ∉ σ.handles)
    (hclosed : σ.opens r.handle = []) :
    (σ.install r).release r.handle = (.ok (), σ) := by
  have herase : (σ.devices ++ [r]).eraseP (fun d => d.handle = r.handle) = σ.devices := by
    rw [List.eraseP_append_right]
    · simp
    · intro d hd hsame
      exact hfresh (of_decide_eq_true hsame ▸ mem_handles σ d hd)
  have hopens : Function.update (Function.update σ.opens r.handle []) r.handle [] = σ.opens := by
    rw [Function.update_idem, ← hclosed, Function.update_eq_self]
  have hdropped : (σ.install r).drop r.handle = σ := by
    rw [drop, install, herase, hopens]
  simp only [release, drop_closeTransient, hdropped]
  simp [closeTransient, install]

/-- What an uninstall comes to: the protocol stays in a registry that `R` allows, or it is gone
from one in which no open keeps it. -/
inductive UninstallResult (R : Registry → Prop) (handle : EfiHandle) : EfiStatus → Registry → Prop
  | kept (e : EfiError) (σ : Registry) (h : R σ) : UninstallResult R handle (.error e) σ
  | gone (σ : Registry) (h : R σ) (hidle : ∀ e ∈ σ.opens handle, e.IsTransient) :
      UninstallResult R handle (.ok ()) (σ.drop handle)

/-- What the drivers of a handle leave when they are disconnected and connected again. -/
structure DriversKeep (R : Registry → Prop) (drivers : DriverServices) (σ : Registry)
    (handle : EfiHandle) : Prop where
  disconnect : R (drivers.disconnect σ handle).2
  connect (σ' : Registry) (h : R σ') : R (drivers.connect σ' handle)

theorem uninstall_cases {R : Registry → Prop} (σ : Registry) (drivers : DriverServices)
    (status : EfiStatus) (handle : EfiHandle) (hself : R σ)
    (htransient : ∀ σ', R σ' → R (σ'.closeTransient handle))
    (hdrivers : σ.hasDriver handle = true → DriversKeep R drivers σ handle) :
    UninstallResult R handle (σ.uninstall drivers status handle).1
      (σ.uninstall drivers status handle).2 := by
  cases status with
  | error e => exact .kept e σ hself
  | ok u =>
      rw [uninstall]
      cases hdriver : σ.hasDriver handle with
      | false =>
          rw [if_neg Bool.false_ne_true]
          obtain hkept | ⟨hgone, hidle⟩ := σ.release_cases handle
          · rw [hkept]
            exact .kept _ _ (htransient σ hself)
          · rw [hgone]
            exact .gone σ hself hidle
      | true =>
          have hkeep := hdrivers hdriver
          have hdisconnect := hkeep.disconnect
          rw [if_pos rfl]
          generalize drivers.disconnect σ handle = result at hdisconnect
          obtain ⟨stopped, σ₁⟩ := result
          cases stopped with
          | error e => exact .kept _ _ (hkeep.connect σ₁ hdisconnect)
          | ok u =>
              dsimp only
              obtain hkept | ⟨hgone, hidle⟩ := σ₁.release_cases handle
              · rw [hkept]
                exact .kept _ _ (hkeep.connect _ (htransient σ₁ hdisconnect))
              · rw [hgone]
                exact .gone σ₁ hdisconnect hidle

/-- Inserting a device in the critical list and taking it out again leaves no trace. -/
theorem cleanup_insertCritical (σ : Registry) (r r' : DtDeviceRecord)
    (hsame : r'.isCritical = r.isCritical ∧ r'.dtIo = r.dtIo)
    (hfresh : r.dtIo ∉ σ.criticalDevices) :
    dtDeviceCleanup (σ.insertCritical r) r' = σ := by
  rw [dtDeviceCleanup, insertCritical, hsame.1, hsame.2]
  split
  · simp [List.erase_append_right, hfresh]
  · rfl

end Registry

/-- A device as `DtDeviceCreate` returns it. -/
structure NewDevice (bus : DtBusDriver) (σ : Registry) (node : Int) (name : AsciiStr)
    (parent : Option DtDeviceRecord) (r : DtDeviceRecord) : Prop where
  node_eq : r.fdtNode = node
  name_eq : r.name = name
  parent_eq : r.device.parent? = parent.map (·.device)
  path_eq : r.devicePath = pathOfParent parent ++ [dtPathNode name]
  dtIo_fresh : r.dtIo ∉ σ.devices.map (·.dtIo)
  path_fresh (d : DtDeviceRecord) (hd : d ∈ σ.devices) : d.devicePath ≠ r.devicePath
  critical_eq : r.isCritical = fdtIsCriticalNode bus.tree.toFdt node

section Create

variable (bus : DtBusDriver) (services : ScanServices) (σ : Registry)

theorem dtDeviceCreate_cases (node : Int) (name : AsciiStr) (parent : Option DtDeviceRecord)
    (flags : Uintn) :
    (∃ e, dtDeviceCreate bus services σ node name parent flags = (.error e, σ) ∧
        (e = .alreadyStarted →
          ∃ d ∈ σ.devices, d.devicePath = pathOfParent parent ++ [dtPathNode name])) ∨
      ∃ r, dtDeviceCreate bus services σ node name parent flags =
          (.ok r, σ.insertCritical r) ∧ NewDevice bus σ node name parent r := by
  rw [dtDeviceCreate]
  split
  · exact .inl ⟨_, rfl, nofun⟩
  · rw [appendDevicePathNode_create]
    by_cases hshort : (21 + name.length) % 65536 < 4
    · rw [if_pos hshort]
      exact .inl ⟨_, rfl, nofun⟩
    · rw [if_neg hshort]
      dsimp only
      split
      · exact .inl ⟨_, rfl, nofun⟩
      · obtain ⟨result, hlookup, hfound, hmissing⟩ :=
          dtPathToHandle_noConnect σ (pathOfParent parent ++ [dtPathNode name])
        rw [hlookup]
        cases result with
        | ok handle =>
            obtain ⟨d, hd, hdpath, -⟩ := hfound handle rfl
            exact .inl ⟨_, rfl, fun _ => ⟨d, hd, hdpath⟩⟩
        | error e =>
            cases hdevice : services.allocateDevice σ node with
            | none => exact .inl ⟨_, rfl, nofun⟩
            | some dtIo =>
                have hnew := dtDevicePopulate_populated bus.isCoherent bus.uninit bus.tree.toFdt
                  dtIo node (parent.map (·.device)) flags
                refine .inr ⟨_, rfl, ?_⟩
                refine ⟨hnew.node_eq, rfl, hnew.parent_eq, rfl, ?_, ?_, hnew.critical_eq⟩
                · have hfresh := services.device_fresh σ node dtIo hdevice
                  rwa [← hnew.dtIo_eq] at hfresh
                · intro d hd hdpath
                  obtain ⟨handle, hok⟩ := hmissing d hd hdpath
                  exact nomatch hok

/-- Registration fails without a trace, or adds the device as a child of its parent. -/
theorem dtDeviceRegister_cases (r : DtDeviceRecord) (controller agent : EfiHandle)
    (hclosed : ∀ handle, handle ∉ σ.handles → σ.opens handle = []) :
    (∃ e r', dtDeviceRegister services σ r (some controller) agent = (.error e, r', σ) ∧
        r'.isCritical = r.isCritical ∧ r'.dtIo = r.dtIo) ∨
      ∃ handle, handle ∉ σ.handles ∧
        dtDeviceRegister services σ r (some controller) agent =
          (.ok (), r.withHandle handle, (σ.install (r.withHandle handle)).addOpen controller
            ⟨agent, handle, .byChildController⟩) := by
  rw [dtDeviceRegister]
  cases hhandle : services.installHandle σ r.fdtNode with
  | error e => exact .inl ⟨e, r, rfl, rfl, rfl⟩
  | ok handle =>
      have hfresh := services.handle_fresh σ r.fdtNode handle hhandle
      have hundone := σ.release_install (r.withHandle handle)
        (by rwa [DtDeviceRecord.handle_withHandle])
        (by rw [DtDeviceRecord.handle_withHandle, hclosed handle hfresh])
      rw [DtDeviceRecord.handle_withHandle] at hundone
      have hsame := And.intro (r.isCritical_withHandle handle) (r.dtIo_withHandle handle)
      dsimp only
      obtain ⟨e, hopen, -⟩ | hopen := (σ.install (r.withHandle handle)).openProtocol_cases
        (services.openChild (σ.install (r.withHandle handle)) (r.withHandle handle).fdtNode)
        controller ⟨agent, handle, .byChildController⟩
      · exact .inl ⟨e, _, by rw [hopen]; dsimp only; rw [hundone], hsame⟩
      · exact .inr ⟨handle, hfresh, by rw [hopen]⟩

end Create

namespace Registry

/-- The registry once a device is registered as a child of a controller. -/
def attach (σ : Registry) (controller agent : EfiHandle) (d : DtDeviceRecord) : Registry :=
  ((σ.insertCritical d).install d).addOpen controller ⟨agent, d.handle, .byChildController⟩

/-- A child controller has the protocol on a handle open. -/
def HoldsChild (σ : Registry) (handle controller : EfiHandle) : Prop :=
  ∃ e ∈ σ.opens handle, e.controller = controller ∧ e.attributes = .byChildController

end Registry

structure IsChildOf (bus : DtBusDriver) (p d : DtDeviceRecord) : Prop where
  node : d.fdtNode ∈ bus.tree.subnodes p.fdtNode
  name : bus.tree.getName d.fdtNode = some d.name
  path : d.devicePath = p.devicePath ++ [dtPathNode d.name]
  parent : d.device.parent? = some p.device
  critical : d.isCritical = fdtIsCriticalNode bus.tree.toFdt d.fdtNode

theorem IsChildOf.ne {bus : DtBusDriver} {p d : DtDeviceRecord} (h : IsChildOf bus p d) :
    p ≠ d := by
  intro heq
  have hlength := congrArg List.length h.path
  rw [heq, List.length_append] at hlength
  simp at hlength

/-- Every child is held by its parent, but for those that are let go. -/
def Registry.Linked (bus : DtBusDriver) (X : Set EfiHandle) (σ : Registry) : Prop :=
  ∀ p ∈ σ.devices, ∀ d ∈ σ.devices, IsChildOf bus p d → d.handle ∉ X →
    σ.HoldsChild p.handle d.handle

theorem not_isTransient_of_child {e : OpenEntry} (h : e.attributes = .byChildController) :
    ¬ e.IsTransient := by
  simp [OpenEntry.IsTransient, h]

/-- A new device of a subnode is created below the device of its parent. -/
theorem NewDevice.isChildOf {bus : DtBusDriver} {σ : Registry} {node : Int} {name : AsciiStr}
    {p d : DtDeviceRecord} (hnew : NewDevice bus σ node name (some p) d)
    (hnode : node ∈ bus.tree.subnodes p.fdtNode) (hname : bus.tree.getName node = some name) :
    IsChildOf bus p d where
  node := hnew.node_eq ▸ hnode
  name := by rw [hnew.node_eq, hnew.name_eq, hname]
  path := by rw [hnew.path_eq, hnew.name_eq, pathOfParent]
  parent := hnew.parent_eq
  critical := by rw [hnew.critical_eq, hnew.node_eq]

structure IsRoot (bus : DtBusDriver) (root : DtDeviceRecord) : Prop where
  node : root.fdtNode = bus.tree.rootNode
  path : root.devicePath = [dtPathNode root.name]
  parent : root.device.parent? = none
  critical : root.isCritical = fdtIsCriticalNode bus.tree.toFdt root.fdtNode

/-- What holds of the registered devices at all times. -/
structure RegistryInv (bus : DtBusDriver) (root : DtDeviceRecord) (σ : Registry) : Prop where
  isRoot : IsRoot bus root
  root_mem : root ∈ σ.devices
  handles : σ.handles.Nodup
  dtIos : (σ.devices.map (·.dtIo)).Nodup
  paths : (σ.devices.map (·.devicePath)).Nodup
  below (d : DtDeviceRecord) (hd : d ∈ σ.devices) (hne : d ≠ root) :
    ∃ p ∈ σ.devices, IsChildOf bus p d
  entry (handle : EfiHandle) (e : OpenEntry) (he : e ∈ σ.opens handle)
    (hchild : e.attributes = .byChildController) :
    ∃ p ∈ σ.devices, p.handle = handle ∧ ∃ d ∈ σ.devices, d.handle = e.controller ∧
      d ≠ root ∧ IsChildOf bus p d
  agent (handle : EfiHandle) (e e' : OpenEntry) (he : e ∈ σ.opens handle)
    (he' : e' ∈ σ.opens handle) (hchild : e.attributes = .byChildController)
    (hchild' : e'.attributes = .byChildController) (hsame : e.controller = e'.controller) :
    e.agent = e'.agent
  closed (handle : EfiHandle) (hfree : handle ∉ σ.handles) : σ.opens handle = []
  critical : σ.criticalDevices = (σ.devices.filter (·.isCritical)).map (·.dtIo)

namespace RegistryInv

variable {bus : DtBusDriver} {root : DtDeviceRecord} {σ : Registry}

theorem eq_of_handle (h : RegistryInv bus root σ) {d d' : DtDeviceRecord} (hd : d ∈ σ.devices)
    (hd' : d' ∈ σ.devices) (hsame : d.handle = d'.handle) : d = d' :=
  List.inj_on_of_nodup_map h.handles hd hd' hsame

theorem eq_of_path (h : RegistryInv bus root σ) {d d' : DtDeviceRecord} (hd : d ∈ σ.devices)
    (hd' : d' ∈ σ.devices) (hsame : d.devicePath = d'.devicePath) : d = d' :=
  List.inj_on_of_nodup_map h.paths hd hd' hsame

theorem ne_root (h : RegistryInv bus root σ) {p d : DtDeviceRecord} (hchild : IsChildOf bus p d) :
    d ≠ root := by
  intro heq
  have hnone := hchild.parent
  rw [heq, h.isRoot.parent] at hnone
  exact nomatch hnone

theorem eq_of_isChildOf (h : RegistryInv bus root σ) {p p' d : DtDeviceRecord}
    (hp : p ∈ σ.devices) (hp' : p' ∈ σ.devices) (hchild : IsChildOf bus p d)
    (hchild' : IsChildOf bus p' d) : p = p' := by
  have hdevice := hchild.parent.symm.trans hchild'.parent
  exact h.eq_of_handle hp hp' (congrArg (·.info.handle) (Option.some.inj hdevice))

theorem critical_fresh (h : RegistryInv bus root σ) (dtIo : DtIoRef)
    (hfresh : dtIo ∉ σ.devices.map (·.dtIo)) : dtIo ∉ σ.criticalDevices := by
  intro hmem
  rw [h.critical, List.mem_map] at hmem
  obtain ⟨d, hd, hdtIo⟩ := hmem
  exact hfresh (List.mem_map.mpr ⟨d, (List.mem_filter.mp hd).1, hdtIo⟩)

end RegistryInv

namespace Registry

variable (σ : Registry) (handle : EfiHandle) (entry e : OpenEntry)

theorem mem_opens_addOpen (handle' : EfiHandle) :
    e ∈ (σ.addOpen handle entry).opens handle' ↔
      e ∈ σ.opens handle' ∨ (handle' = handle ∧ e = entry) := by
  by_cases hsame : handle' = handle
  · subst hsame
    simp [addOpen]
  · simp [addOpen, hsame]

theorem mem_opens_close (agent controller handle' : EfiHandle) :
    e ∈ (σ.close handle agent controller).opens handle' ↔ e ∈ σ.opens handle' ∧
      ¬ (handle' = handle ∧ e.agent = agent ∧ e.controller = controller) := by
  by_cases hsame : handle' = handle
  · subst hsame
    simp [close, imp_iff_not_or]
  · simp [close, hsame]

variable (d : DtDeviceRecord) (controller agent : EfiHandle)

@[simp] theorem devices_attach : (σ.attach controller agent d).devices = σ.devices ++ [d] := by
  simp [attach, addOpen, install]

@[simp] theorem handles_attach :
    (σ.attach controller agent d).handles = σ.handles ++ [d.handle] := by
  simp [handles]

theorem mem_opens_attach (hclosed : σ.opens d.handle = []) :
    e ∈ (σ.attach controller agent d).opens handle ↔
      e ∈ σ.opens handle ∨
        (handle = controller ∧ e = ⟨agent, d.handle, .byChildController⟩) := by
  have hinstall : ((σ.insertCritical d).install d).opens = σ.opens := by
    rw [install, opens_insertCritical]
    dsimp only
    rw [← hclosed, Function.update_eq_self]
  rw [attach, mem_opens_addOpen, hinstall]

theorem criticalDevices_attach :
    (σ.attach controller agent d).criticalDevices =
      if d.isCritical then σ.criticalDevices ++ [d.dtIo] else σ.criticalDevices := by
  rw [attach, addOpen, install, insertCritical]
  dsimp only
  split <;> rfl

end Registry

namespace RegistryInv

variable {bus : DtBusDriver} {root : DtDeviceRecord} {σ : Registry}

/-- Only the opens by child controllers matter, and they may be closed. -/
theorem of_opens (h : RegistryInv bus root σ) (σ' : Registry) (hdevices : σ'.devices = σ.devices)
    (hcritical : σ'.criticalDevices = σ.criticalDevices)
    (hsame : ∀ handle e, e.attributes = .byChildController → e ∈ σ'.opens handle →
      e ∈ σ.opens handle)
    (hclosed : ∀ handle, handle ∉ σ.handles → σ'.opens handle = []) :
    RegistryInv bus root σ' where
  isRoot := h.isRoot
  root_mem := hdevices ▸ h.root_mem
  handles := by
    rw [Registry.handles, hdevices]
    exact h.handles
  dtIos := hdevices ▸ h.dtIos
  paths := hdevices ▸ h.paths
  below d hd hne := by
    rw [hdevices] at hd ⊢
    exact h.below d hd hne
  entry handle e he hattributes := by
    rw [hdevices]
    exact h.entry handle e (hsame handle e hattributes he) hattributes
  agent handle e e' he he' hchild hchild' hcontroller :=
    h.agent handle e e' (hsame handle e hchild he) (hsame handle e' hchild' he') hchild hchild'
      hcontroller
  closed handle hfree := by
    apply hclosed
    rwa [Registry.handles, hdevices] at hfree
  critical := by rw [hcritical, hdevices, h.critical]

theorem controller_mem (h : RegistryInv bus root σ) {handle : EfiHandle} {e : OpenEntry}
    (he : e ∈ σ.opens handle) (hattributes : e.attributes = .byChildController) :
    e.controller ∈ σ.handles := by
  obtain ⟨-, -, -, d, hd, hcontroller, -, -⟩ := h.entry handle e he hattributes
  exact hcontroller ▸ σ.mem_handles d hd

/-- The controller of the new entry is a new handle, so no older entry names it. -/
theorem agent_attach (h : RegistryInv bus root σ) (d : DtDeviceRecord)
    (parent agent handle : EfiHandle) (hhandle : d.handle ∉ σ.handles) (e e' : OpenEntry)
    (he : e ∈ (σ.attach parent agent d).opens handle)
    (he' : e' ∈ (σ.attach parent agent d).opens handle)
    (hchild : e.attributes = .byChildController) (hchild' : e'.attributes = .byChildController)
    (hsame : e.controller = e'.controller) : e.agent = e'.agent := by
  have hclosed := h.closed d.handle hhandle
  cases (σ.mem_opens_attach handle e d parent agent hclosed).mp he with
  | inl hold =>
      cases (σ.mem_opens_attach handle e' d parent agent hclosed).mp he' with
      | inl hold' => exact h.agent handle e e' hold hold' hchild hchild' hsame
      | inr hadded' =>
          have hmem := h.controller_mem hold hchild
          rw [hsame, hadded'.2] at hmem
          exact absurd hmem hhandle
  | inr hadded =>
      cases (σ.mem_opens_attach handle e' d parent agent hclosed).mp he' with
      | inl hold' =>
          have hmem := h.controller_mem hold' hchild'
          rw [← hsame, hadded.2] at hmem
          exact absurd hmem hhandle
      | inr hadded' => rw [hadded.2, hadded'.2]

/-- A new device with a new handle is attached to a registered parent. -/
theorem attach (h : RegistryInv bus root σ) {p d : DtDeviceRecord} (agent : EfiHandle)
    (node : Int) (name : AsciiStr) (hp : p ∈ σ.devices)
    (hnew : NewDevice bus σ node name (some p) d)
    (hnode : node ∈ bus.tree.subnodes p.fdtNode) (hname : bus.tree.getName node = some name)
    (hhandle : d.handle ∉ σ.handles) : RegistryInv bus root (σ.attach p.handle agent d) := by
  have hclosed := h.closed d.handle hhandle
  have hchild : IsChildOf bus p d := hnew.isChildOf hnode hname
  have hroot : d ≠ root := h.ne_root hchild
  refine ⟨h.isRoot, ?_, ?_, ?_, ?_, ?_, ?_, ?_, ?_, ?_⟩
  · rw [Registry.devices_attach]
    exact List.mem_append_left _ h.root_mem
  · rw [Registry.handles_attach]
    exact h.handles.append (List.nodup_singleton _) (by simpa using hhandle)
  · rw [Registry.devices_attach, List.map_append]
    exact h.dtIos.append (List.nodup_singleton _) (by simpa using hnew.dtIo_fresh)
  · rw [Registry.devices_attach, List.map_append]
    refine h.paths.append (List.nodup_singleton _) ?_
    simpa using hnew.path_fresh
  · intro d' hd' hne
    rw [Registry.devices_attach, List.mem_append, List.mem_singleton] at hd'
    cases hd' with
    | inl hold =>
        obtain ⟨p', hp', hchild'⟩ := h.below d' hold hne
        rw [Registry.devices_attach]
        exact ⟨p', List.mem_append_left _ hp', hchild'⟩
    | inr heq =>
        subst heq
        rw [Registry.devices_attach]
        exact ⟨p, List.mem_append_left _ hp, hchild⟩
  · intro handle e he hattributes
    rw [Registry.devices_attach]
    cases (σ.mem_opens_attach _ e d _ agent hclosed).mp he with
    | inl hold =>
        obtain ⟨p', hp', hhandle', d', hd', hcontroller, hne, hchild'⟩ :=
          h.entry handle e hold hattributes
        exact ⟨p', List.mem_append_left _ hp', hhandle', d', List.mem_append_left _ hd',
          hcontroller, hne, hchild'⟩
    | inr hadded =>
        obtain ⟨rfl, rfl⟩ := hadded
        exact ⟨p, List.mem_append_left _ hp, rfl, d, by simp, rfl, hroot, hchild⟩
  · exact fun handle => h.agent_attach d p.handle agent handle hhandle
  · intro handle hfree
    rw [Registry.handles_attach, List.mem_append, not_or] at hfree
    rw [List.eq_nil_iff_forall_not_mem]
    intro e he
    cases (σ.mem_opens_attach _ e d _ agent hclosed).mp he with
    | inl hold => exact List.not_mem_nil (h.closed handle hfree.1 ▸ hold)
    | inr hadded => exact hfree.1 (hadded.1 ▸ σ.mem_handles p hp)
  · rw [Registry.criticalDevices_attach, Registry.devices_attach, List.filter_append,
      List.map_append, h.critical]
    cases hcritical : d.isCritical with
    | false => simp [hcritical]
    | true => simp [hcritical]

theorem linked_attach (h : RegistryInv bus root σ) {X : Set EfiHandle}
    (hlinked : σ.Linked bus X) {p d : DtDeviceRecord} (agent : EfiHandle)
    (hbelow : IsChildOf bus p d) (hhandle : d.handle ∉ σ.handles) :
    (σ.attach p.handle agent d).Linked bus X := by
  have hclosed := h.closed d.handle hhandle
  have hfresh (q : DtDeviceRecord) (hq : q ∈ σ.devices) : q.device ≠ d.device := by
    intro heq
    have hsame : q.handle = d.handle := congrArg (·.info.handle) heq
    exact hhandle (hsame ▸ σ.mem_handles q hq)
  intro p' hp' d' hd' hchild hX
  rw [Registry.devices_attach, List.mem_append, List.mem_singleton] at hp' hd'
  cases hd' with
  | inl hold =>
      have hparent : p' ∈ σ.devices := by
        refine hp'.resolve_right fun heq => ?_
        obtain ⟨q, hq, hchild'⟩ := h.below d' hold (h.ne_root hchild)
        refine hfresh q hq (Option.some.inj ?_)
        rw [← hchild'.parent, hchild.parent, heq]
      obtain ⟨e, he, hcontroller, hattributes⟩ := hlinked p' hparent d' hold hchild hX
      exact ⟨e, (σ.mem_opens_attach _ e d _ agent hclosed).mpr (.inl he), hcontroller,
        hattributes⟩
  | inr heq =>
      subst heq
      have hparent : p.handle = p'.handle :=
        congrArg (·.info.handle) (Option.some.inj (hbelow.parent.symm.trans hchild.parent))
      exact ⟨_, (σ.mem_opens_attach _ _ d' _ agent hclosed).mpr (.inr ⟨hparent.symm, rfl⟩), rfl,
        rfl⟩

end RegistryInv

inductive NodeScanned (bus : DtBusDriver) (σ : Registry) (agent : EfiHandle)
    (parent : DtDeviceRecord) (remaining : Option DevicePath) (node : Int) :
    ScanOutcome → Registry → Prop
  | unnamed (hname : bus.tree.getName node = none) :
      NodeScanned bus σ agent parent remaining node .unnamed σ
  | skipped (path : DevicePath) (name : AsciiStr) (hname : bus.tree.getName node = some name)
      (hremaining : remaining = some path) (hother : devicePathNodeName path ≠ name) :
      NodeScanned bus σ agent parent remaining node .skipped σ
  | seen (name : AsciiStr) (d : DtDeviceRecord) (hname : bus.tree.getName node = some name)
      (hd : d ∈ σ.devices) (hpath : d.devicePath = parent.devicePath ++ [dtPathNode name]) :
      NodeScanned bus σ agent parent remaining node .seen σ
  | failed (e : EfiError) : NodeScanned bus σ agent parent remaining node (.failed e) σ
  | created (name : AsciiStr) (d : DtDeviceRecord) (hname : bus.tree.getName node = some name)
      (hnew : NewDevice bus σ node name (some parent) d) (hhandle : d.handle ∉ σ.handles) :
      NodeScanned bus σ agent parent remaining node .created (σ.attach parent.handle agent d)

theorem insertCritical_withHandle (σ : Registry) (r : DtDeviceRecord) (handle : EfiHandle) :
    σ.insertCritical (r.withHandle handle) = σ.insertCritical r := by
  rw [Registry.insertCritical, Registry.insertCritical, DtDeviceRecord.isCritical_withHandle,
    DtDeviceRecord.dtIo_withHandle]

theorem NewDevice.withHandle {bus : DtBusDriver} {σ : Registry} {node : Int} {name : AsciiStr}
    {parent : Option DtDeviceRecord} {r : DtDeviceRecord} (h : NewDevice bus σ node name parent r)
    (handle : EfiHandle) : NewDevice bus σ node name parent (r.withHandle handle) where
  node_eq := (r.fdtNode_withHandle handle).trans h.node_eq
  name_eq := h.name_eq
  parent_eq := (r.parent?_withHandle handle).trans h.parent_eq
  path_eq := h.path_eq
  dtIo_fresh := (r.dtIo_withHandle handle).symm ▸ h.dtIo_fresh
  path_fresh := h.path_fresh
  critical_eq := (r.isCritical_withHandle handle).trans h.critical_eq

theorem dtDeviceScanNode_cases {bus : DtBusDriver} {root : DtDeviceRecord} {σ : Registry}
    (h : RegistryInv bus root σ) (services : ScanServices) (agent : EfiHandle)
    (parent : DtDeviceRecord) (remaining : Option DevicePath) (node : Int) :
    NodeScanned bus σ agent parent remaining node
      (dtDeviceScanNode bus services σ agent parent remaining node).1
      (dtDeviceScanNode bus services σ agent parent remaining node).2 := by
  rw [dtDeviceScanNode]
  cases hname : bus.tree.getName node with
  | none => exact .unnamed hname
  | some name =>
      dsimp only
      split
      · next hother =>
          rw [Option.any_eq_true] at hother
          obtain ⟨path, hpath, hne⟩ := hother
          exact .skipped path name hname hpath (of_decide_eq_true hne)
      · obtain ⟨e, hcreate, hstarted⟩ | ⟨r, hcreate, hnew⟩ := dtDeviceCreate_cases bus services σ
          node name (some parent) parent.device.info.flags
        · rw [hcreate]
          dsimp only
          split
          · next heq =>
              obtain ⟨d, hd, hpath⟩ := hstarted heq
              exact .seen name d hname hd hpath
          · exact .failed e
        · rw [hcreate]
          dsimp only
          have hfresh := h.critical_fresh r.dtIo hnew.dtIo_fresh
          obtain ⟨e, r', hregister, hsame⟩ | ⟨handle, hhandle, hregister⟩ :=
            dtDeviceRegister_cases services (σ.insertCritical r) r parent.handle agent
              (by simpa using h.closed)
          · rw [hregister]
            dsimp only
            rw [σ.cleanup_insertCritical r r' hsame hfresh]
            exact .failed e
          · rw [hregister]
            dsimp only
            rw [← insertCritical_withHandle σ r handle]
            have hattached : NodeScanned bus σ agent parent remaining node .created
                (σ.attach parent.handle agent (r.withHandle handle)) :=
              .created name (r.withHandle handle) hname (hnew.withHandle handle)
                (by simpa using hhandle)
            rwa [Registry.attach, DtDeviceRecord.handle_withHandle] at hattached

theorem NodeScanned.inv {bus : DtBusDriver} {root : DtDeviceRecord} {σ σ' : Registry}
    {agent : EfiHandle} {parent : DtDeviceRecord} {remaining : Option DevicePath} {node : Int}
    {o : ScanOutcome} (hscan : NodeScanned bus σ agent parent remaining node o σ')
    (h : RegistryInv bus root σ) (hparent : parent ∈ σ.devices)
    (hnode : node ∈ bus.tree.subnodes parent.fdtNode) : RegistryInv bus root σ' := by
  cases hscan with
  | unnamed hname => exact h
  | skipped path name hname hremaining hother => exact h
  | seen name d hname hd hpath => exact h
  | failed e => exact h
  | created name d hname hnew hhandle =>
      exact h.attach agent node name hparent hnew hnode hname hhandle

theorem NodeScanned.linked {bus : DtBusDriver} {root : DtDeviceRecord} {σ σ' : Registry}
    {agent : EfiHandle} {parent : DtDeviceRecord} {remaining : Option DevicePath} {node : Int}
    {o : ScanOutcome} (hscan : NodeScanned bus σ agent parent remaining node o σ')
    (h : RegistryInv bus root σ) {X : Set EfiHandle} (hlinked : σ.Linked bus X)
    (hnode : node ∈ bus.tree.subnodes parent.fdtNode) : σ'.Linked bus X := by
  cases hscan with
  | unnamed hname => exact hlinked
  | skipped path name hname hremaining hother => exact hlinked
  | seen name d hname hd hpath => exact hlinked
  | failed e => exact hlinked
  | created name d hname hnew hhandle =>
      exact h.linked_attach hlinked agent (hnew.isChildOf hnode hname) hhandle

theorem NodeScanned.undriven {bus : DtBusDriver} {root : DtDeviceRecord} {σ σ' : Registry}
    {agent : EfiHandle} {parent : DtDeviceRecord} {remaining : Option DevicePath} {node : Int}
    {o : ScanOutcome} (hscan : NodeScanned bus σ agent parent remaining node o σ')
    (h : RegistryInv bus root σ)
    (hundriven : ∀ handle, ∀ e ∈ σ.opens handle, e.attributes ≠ .byDriver) (handle : EfiHandle)
    (e : OpenEntry) (he : e ∈ σ'.opens handle) : e.attributes ≠ .byDriver := by
  cases hscan with
  | unnamed hname => exact hundriven handle e he
  | skipped path name hname hremaining hother => exact hundriven handle e he
  | seen name d hname hd hpath => exact hundriven handle e he
  | failed e' => exact hundriven handle e he
  | created name d hname hnew hhandle =>
      cases (σ.mem_opens_attach handle e d _ agent (h.closed _ hhandle)).mp he with
      | inl hold => exact hundriven handle e hold
      | inr hadded =>
          rw [hadded.2]
          exact nofun

theorem NodeScanned.mem {bus : DtBusDriver} {σ σ' : Registry} {agent : EfiHandle}
    {parent : DtDeviceRecord} {remaining : Option DevicePath} {node : Int} {o : ScanOutcome}
    (hscan : NodeScanned bus σ agent parent remaining node o σ') (d : DtDeviceRecord)
    (hd : d ∈ σ.devices) : d ∈ σ'.devices := by
  cases hscan with
  | unnamed hname => exact hd
  | skipped path name hname hremaining hother => exact hd
  | seen name d' hname hd' hpath => exact hd
  | failed e => exact hd
  | created name d' hname hnew hhandle =>
      rw [Registry.devices_attach]
      exact List.mem_append_left _ hd

end FdtBusPkg
