import FdtBusPkg.DtBus.ParseContract
import FdtBusPkg.DtBus.OneDevice

/-!
The cell counts of the devices against those of the tree. A count is read into a byte
before it is compared with `FDT_MAX_NCELLS`, and any failure to find the property counts
as its absence, so a count that comes out small need not be the one in the tree.
-/
namespace FdtBusPkg

def FDT_MAX_NCELLS : Nat := 4

theorem byte_right_iff (cell : U32) {n : CellCount}
    (h : (if h : (cell.setWidth 8).toNat ≤ 4 then
      .ok ⟨(cell.setWidth 8).toNat, Nat.lt_succ_of_le h⟩ else .error .deviceError :
        EfiResult CellCount) = .ok n) :
    some cell.toNat = some n.val ↔
      (cell.toNat % 256 ≤ FDT_MAX_NCELLS → cell.toNat ≤ FDT_MAX_NCELLS) := by
  split at h
  · next hle =>
      have hn : (cell.setWidth 8).toNat = n.val := congrArg Fin.val (Except.ok.inj h)
      rw [BitVec.toNat_setWidth] at hn hle
      rw [Option.some.injEq, FDT_MAX_NCELLS]
      omega
  · exact nomatch h

section Getters

variable (fdt : Fdt) (fdtNode : Int) (name : String) (default : CellCount)

/-- The count that the tree gives: the default without the property, and otherwise the
number in its one cell. -/
def treeCells : Option Nat :=
  match fdt.getprop fdtNode name with
  | .error .notFound => some default.val
  | .error .other => none
  | .ok (buf, len) => if len = 4 then some (fdt32ToCpu (loadCell fdt.mem buf)).toNat else none

def treeAddressCells : Option Nat := treeCells fdt fdtNode "#address-cells" 2
def treeSizeCells : Option Nat := treeCells fdt fdtNode "#size-cells" 1

/-- The property can be looked up, and if it is one cell, then the number in it is small
or does not look small in its low byte. -/
structure CountFits : Prop where
  found : fdt.getprop fdtNode name ≠ .error .other
  cell (buf : Nat) (h : fdt.getprop fdtNode name = .ok (buf, 4))
    (hlow : (fdt32ToCpu (loadCell fdt.mem buf)).toNat % 256 ≤ FDT_MAX_NCELLS) :
    (fdt32ToCpu (loadCell fdt.mem buf)).toNat ≤ FDT_MAX_NCELLS

structure CountsFit : Prop where
  address : CountFits fdt fdtNode "#address-cells"
  size : CountFits fdt fdtNode "#size-cells"

/-- A count that a getter returns is that of the tree exactly when it fits. -/
theorem fdtGetCells_right_iff {n : CellCount} (h : fdtGetCells fdt fdtNode name default = .ok n) :
    treeCells fdt fdtNode name default = some n.val ↔ CountFits fdt fdtNode name := by
  rw [fdtGetCells] at h
  rw [treeCells]
  cases hprop : fdt.getprop fdtNode name with
  | error e =>
      rw [hprop] at h
      cases e with
      | notFound =>
          refine iff_of_true ?_ ⟨?_, fun buf hbuf => ?_⟩
          · rw [Except.ok.inj h]
          · rw [hprop]
            exact nofun
          · rw [hprop] at hbuf
            exact nomatch hbuf
      | other => exact iff_of_false nofun fun hfits => hfits.found hprop
  | ok found =>
      obtain ⟨buf, len⟩ := found
      rw [hprop] at h
      dsimp only at h ⊢
      split at h
      · exact nomatch h
      · next hlen =>
          have hlen : len = 4 := not_not.mp hlen
          subst hlen
          have hfits : CountFits fdt fdtNode name ↔
              ((fdt32ToCpu (loadCell fdt.mem buf)).toNat % 256 ≤ FDT_MAX_NCELLS →
                (fdt32ToCpu (loadCell fdt.mem buf)).toNat ≤ FDT_MAX_NCELLS) := by
            refine ⟨fun hfits => hfits.cell buf hprop, fun hcell => ⟨?_, fun buf' hbuf => ?_⟩⟩
            · rw [hprop]
              exact nofun
            · rw [hprop] at hbuf
              cases hbuf
              exact hcell
          rw [hfits, if_pos rfl]
          exact byte_right_iff _ h

/-- What is expected of a getter: a success returns the count of the tree, and one that
is in bounds. -/
def GetterRight : Prop :=
  ∀ n, fdtGetCells fdt fdtNode name default = .ok n →
    treeCells fdt fdtNode name default = some n.val ∧ n.val ≤ FDT_MAX_NCELLS

theorem getterRight_iff : GetterRight fdt fdtNode name default ↔ CountFits fdt fdtNode name := by
  constructor
  · intro h
    refine ⟨fun hother => ?_, fun buf hbuf hlow => ?_⟩
    · have hok : fdtGetCells fdt fdtNode name default = .ok default := by
        rw [fdtGetCells, hother]
      exact ((fdtGetCells_right_iff fdt fdtNode name default hok).mp (h _ hok).1).found hother
    · have hbyte : ((fdt32ToCpu (loadCell fdt.mem buf)).setWidth 8).toNat ≤ 4 := by
        rw [BitVec.toNat_setWidth]
        exact hlow
      have hok : fdtGetCells fdt fdtNode name default =
          .ok ⟨((fdt32ToCpu (loadCell fdt.mem buf)).setWidth 8).toNat,
            Nat.lt_succ_of_le hbyte⟩ := by
        rw [fdtGetCells, hbuf]
        dsimp only
        rw [if_neg (not_not_intro rfl), dif_pos hbyte]
      exact ((fdtGetCells_right_iff fdt fdtNode name default hok).mp (h _ hok).1).cell buf hbuf
        hlow
  · intro h n hn
    exact ⟨(fdtGetCells_right_iff fdt fdtNode name default hn).mpr h, Nat.le_of_lt_succ n.isLt⟩

end Getters

/-- `FdtGetAddressCells` and `FdtGetSizeCells` at a node. -/
def GettersRight (fdt : Fdt) (fdtNode : Int) : Prop :=
  GetterRight fdt fdtNode "#address-cells" 2 ∧ GetterRight fdt fdtNode "#size-cells" 1

def DtDeviceRecord.Intact (r : DtDeviceRecord) : Prop := r.created.deviceStatus ≠ .broken

/-- The counts of a device that `DtDeviceCreate` has made. -/
structure CellsCreated (fdt : Fdt) (r : DtDeviceRecord) : Prop where
  address : r.device.info.addressCells =
    match r.device.parent? with
    | some parent => parent.info.childAddressCells
    | none => 2
  size : r.device.info.sizeCells =
    match r.device.parent? with
    | some parent => parent.info.childSizeCells
    | none => 1
  childAddress (h : r.Intact) :
    fdtGetAddressCells fdt r.fdtNode = .ok r.device.info.childAddressCells
  childSize (h : r.Intact) : fdtGetSizeCells fdt r.fdtNode = .ok r.device.info.childSizeCells

section Create

/-- Initialisation leaves the counts as they are. -/
structure SameCells (i j : DtDeviceInfo) : Prop where
  address : j.addressCells = i.addressCells
  size : j.sizeCells = i.sizeCells
  childAddress : j.childAddressCells = i.childAddressCells
  childSize : j.childSizeCells = i.childSizeCells

theorem SameCells.trans {i j k : DtDeviceInfo} (h : SameCells i j) (h' : SameCells j k) :
    SameCells i k where
  address := h'.address.trans h.address
  size := h'.size.trans h.size
  childAddress := h'.childAddress.trans h.childAddress
  childSize := h'.childSize.trans h.childSize

theorem sameCells_setInfo (d : DtDevice) (f : DtDeviceInfo → DtDeviceInfo)
    (h : SameCells d.info (f d.info)) : SameCells d.info (d.setInfo f).info := by
  rw [DtDevice.info_setInfo]
  exact h

theorem sameCells_dmaInitRanges (mem : Nat → U8) (d : DtDevice) (p : DtProperty) :
    SameCells d.info (dmaInitRanges mem d p).2.info := by
  rw [dmaInitRanges]
  split
  · exact ⟨rfl, rfl, rfl, rfl⟩
  · split
    · exact sameCells_setInfo d _ ⟨rfl, rfl, rfl, rfl⟩
    · exact sameCells_setInfo d _ ⟨rfl, rfl, rfl, rfl⟩

theorem sameCells_dtDeviceCreateDmaInit (isCoherent : Bool) (uninit : DtProperty) (fdt : Fdt)
    (d : DtDevice) : SameCells d.info (dtDeviceCreateDmaInit isCoherent uninit fdt d).2.info := by
  have hlimit (limit : U64) :
      SameCells d.info (d.setInfo fun i => { i with maxCpuDmaAddress := limit }).info :=
    sameCells_setInfo d _ ⟨rfl, rfl, rfl, rfl⟩
  have hcoherent (d : DtDevice) (b : Bool) :
      SameCells d.info (d.setInfo fun i => { i with isDmaCoherent := b }).info :=
    sameCells_setInfo d _ ⟨rfl, rfl, rfl, rfl⟩
  rw [dtDeviceCreateDmaInit]
  dsimp only
  split
  · split
    · exact (hlimit _).trans (hcoherent _ _)
    · exact ((hlimit _).trans (hcoherent _ _)).trans (sameCells_dmaInitRanges _ _ _)
    · exact ((hlimit _).trans (hcoherent _ _)).trans (sameCells_dmaInitRanges _ _ _)
  · split
    · exact (hlimit _).trans (hcoherent _ _)
    · exact ((hlimit _).trans (hcoherent _ _)).trans (sameCells_dmaInitRanges _ _ _)
    · exact ((hlimit _).trans (hcoherent _ _)).trans (sameCells_dmaInitRanges _ _ _)
  · exact hlimit _

theorem cellsOrZero_of_toBool {r : EfiResult CellCount} (h : r.toBool = true) :
    r = .ok (cellsOrZero r) := by
  cases r with
  | error e => exact nomatch h
  | ok n => rfl

theorem cellsCreated_populate (isCoherent : Bool) (uninit : DtProperty) (fdt : Fdt)
    (dtIo : DtIoRef) (fdtNode : Int) (parent : Option DtDevice) (parentFlags : Uintn)
    (name : AsciiStr) (path : DevicePath) :
    CellsCreated fdt ⟨dtDevicePopulate isCoherent uninit fdt dtIo fdtNode parent parentFlags,
      name, path⟩ := by
  have hpopulated := dtDevicePopulate_populated isCoherent uninit fdt dtIo fdtNode parent
    parentFlags
  have hinit := sameCells_dtDeviceCreateDmaInit isCoherent uninit fdt
    (dtDeviceCells fdt dtIo fdtNode parent parentFlags)
  obtain ⟨critical, hdevice⟩ : ∃ critical : Bool,
      (dtDevicePopulate isCoherent uninit fdt dtIo fdtNode parent parentFlags).device =
        (dtDeviceCreateDmaInit isCoherent uninit fdt
          (dtDeviceCells fdt dtIo fdtNode parent parentFlags)).2.setInfo fun i =>
            if critical then { i with flags := i.flags ||| DT_DEVICE_CRITICAL } else i :=
    ⟨_, rfl⟩
  have hsame := hinit.trans (sameCells_setInfo _ (fun i =>
    if critical then { i with flags := i.flags ||| DT_DEVICE_CRITICAL } else i)
    (by cases critical <;> exact ⟨rfl, rfl, rfl, rfl⟩))
  rw [← hdevice] at hsame
  have hintact (h : (dtDevicePopulate isCoherent uninit fdt dtIo fdtNode parent
      parentFlags).deviceStatus ≠ .broken) :
      (fdtGetAddressCells fdt fdtNode).toBool = true ∧
        (fdtGetSizeCells fdt fdtNode).toBool = true := by
    by_contra hnot
    refine h (if_pos ?_)
    simp only [Bool.or_eq_true, Bool.not_eq_true'] at hnot ⊢
    rcases hcells : (fdtGetAddressCells fdt fdtNode).toBool with _ | _
    · simp
    · rcases hsize : (fdtGetSizeCells fdt fdtNode).toBool with _ | _
      · simp
      · exact absurd ⟨hcells, hsize⟩ hnot
  refine ⟨?_, ?_, fun h => ?_, fun h => ?_⟩
  · refine hsame.address.trans ?_
    rw [DtDeviceRecord.device, hpopulated.parent_eq]
    cases parent <;> rfl
  · refine hsame.size.trans ?_
    rw [DtDeviceRecord.device, hpopulated.parent_eq]
    cases parent <;> rfl
  · rw [DtDeviceRecord.fdtNode, DtDeviceRecord.device, hpopulated.node_eq, hsame.childAddress,
      cellsOrZero_of_toBool (hintact h).1]
    cases parent <;> rfl
  · rw [DtDeviceRecord.fdtNode, DtDeviceRecord.device, hpopulated.node_eq, hsame.childSize,
      cellsOrZero_of_toBool (hintact h).2]
    cases parent <;> rfl

end Create

section Scan

variable (bus : DtBusDriver) (services : ScanServices) (σ : Registry)

theorem CellsCreated.withHandle {fdt : Fdt} {r : DtDeviceRecord} (h : CellsCreated fdt r)
    (handle : EfiHandle) : CellsCreated fdt (r.withHandle handle) := by
  have hinfo : (r.withHandle handle).device.info = { r.device.info with handle } :=
    DtDevice.info_setInfo _ _
  refine ⟨?_, ?_, fun hintact => ?_, fun hintact => ?_⟩
  · rw [hinfo, r.parent?_withHandle]
    exact h.address
  · rw [hinfo, r.parent?_withHandle]
    exact h.size
  · rw [hinfo, r.fdtNode_withHandle]
    exact h.childAddress hintact
  · rw [hinfo, r.fdtNode_withHandle]
    exact h.childSize hintact

/-- A device that `DtDeviceCreate` has made below the parent. -/
structure CreatedBelow (parent : Option DtDeviceRecord) (r : DtDeviceRecord) : Prop where
  cells : CellsCreated bus.tree.toFdt r
  parent : r.device.parent? = parent.map (·.device)

theorem dtDeviceCreate_populate (node : Int) (name : AsciiStr) (parent : Option DtDeviceRecord)
    (flags : Uintn) (r : DtDeviceRecord)
    (h : (dtDeviceCreate bus services σ node name parent flags).1 = .ok r) :
    ∃ dtIo path, r = ⟨dtDevicePopulate bus.isCoherent bus.uninit bus.tree.toFdt dtIo node
      (parent.map (·.device)) flags, name, path⟩ := by
  rw [dtDeviceCreate] at h
  split at h
  · cases h
  · split at h
    · cases h
    · split at h
      · cases h
      · split at h
        · cases h
        · split at h
          · cases h
          · cases h
            exact ⟨_, _, rfl⟩

theorem dtDeviceCreate_createdBelow (node : Int) (name : AsciiStr)
    (parent : Option DtDeviceRecord) (flags : Uintn) :
    (dtDeviceCreate bus services σ node name parent flags).2.devices = σ.devices ∧
      ∀ r, (dtDeviceCreate bus services σ node name parent flags).1 = .ok r →
        CreatedBelow bus parent r := by
  obtain ⟨e, hcreate, -⟩ | ⟨r, hcreate, hnew⟩ := dtDeviceCreate_cases bus services σ node name
    parent flags
  · rw [hcreate]
    exact ⟨rfl, nofun⟩
  · have hcells : CellsCreated bus.tree.toFdt r := by
      obtain ⟨dtIo, path, hr⟩ := dtDeviceCreate_populate bus services σ node name parent flags r
        (congrArg Prod.fst hcreate)
      rw [hr]
      exact cellsCreated_populate _ _ _ _ _ _ _ _ _
    rw [hcreate]
    refine ⟨σ.devices_insertCritical r, fun r' hr' => ?_⟩
    cases hr'
    exact ⟨hcells, hnew.parent_eq⟩

theorem CreatedBelow.withHandle {bus : DtBusDriver} {parent : Option DtDeviceRecord}
    {r : DtDeviceRecord} (h : CreatedBelow bus parent r) (handle : EfiHandle) :
    CreatedBelow bus parent (r.withHandle handle) where
  cells := h.cells.withHandle handle
  parent := (r.parent?_withHandle handle).trans h.parent

/-- Registration adds the device under its handle or leaves the devices as they are. -/
theorem dtDeviceRegister_devices (r : DtDeviceRecord) (controller : Option EfiHandle)
    (agent : EfiHandle) :
    (dtDeviceRegister services σ r controller agent).2.2.devices = σ.devices ∨
      ∃ handle, (dtDeviceRegister services σ r controller agent).2.2.devices =
        σ.devices ++ [r.withHandle handle] := by
  rw [dtDeviceRegister]
  cases hhandle : services.installHandle σ r.fdtNode with
  | error e => exact .inl rfl
  | ok handle =>
      dsimp only
      cases controller with
      | none => exact .inr ⟨handle, rfl⟩
      | some controller =>
          dsimp only
          obtain ⟨e, hopen, -⟩ | hopen := (σ.install (r.withHandle handle)).openProtocol_cases
            (services.openChild (σ.install (r.withHandle handle)) (r.withHandle handle).fdtNode)
            controller ⟨agent, handle, .byChildController⟩
          · rw [hopen]
            dsimp only
            obtain hkept | ⟨hdropped, -⟩ :=
              (σ.install (r.withHandle handle)).release_cases handle
            · rw [hkept]
              exact .inr ⟨handle, rfl⟩
            · rw [hdropped]
              refine .inl ?_
              have hfresh := services.handle_fresh σ r.fdtNode handle hhandle
              rw [Registry.drop, Registry.install]
              dsimp only
              rw [List.eraseP_append_right]
              · simp [r.handle_withHandle]
              · intro d hd hsame
                exact hfresh (of_decide_eq_true hsame ▸ σ.mem_handles d hd)
          · rw [hopen]
            exact .inr ⟨handle, rfl⟩

@[simp] theorem devices_dtDeviceCleanup (r : DtDeviceRecord) :
    (dtDeviceCleanup σ r).devices = σ.devices := by
  rw [dtDeviceCleanup]
  split <;> rfl

/-- The devices with one more below the parent, or as they were. -/
def GrownBelow (parent : Option DtDeviceRecord) (σ σ' : Registry) : Prop :=
  σ'.devices = σ.devices ∨ ∃ r, CreatedBelow bus parent r ∧ σ'.devices = σ.devices ++ [r]

theorem dtDeviceScanNode_grown (agent : EfiHandle) (parent : DtDeviceRecord)
    (remaining : Option DevicePath) (node : Int) :
    GrownBelow bus (some parent) σ
      (dtDeviceScanNode bus services σ agent parent remaining node).2 := by
  rw [dtDeviceScanNode]
  split
  · exact .inl rfl
  · next name hname =>
      split
      · exact .inl rfl
      · obtain ⟨hkept, hcreated⟩ := dtDeviceCreate_createdBelow bus services σ node name
          (some parent) parent.device.info.flags
        generalize dtDeviceCreate bus services σ node name (some parent)
          parent.device.info.flags = result at hkept hcreated ⊢
        obtain ⟨status, σ₁⟩ := result
        cases status with
        | error e => exact .inl hkept
        | ok r =>
            have hbelow := hcreated r rfl
            have hregister := dtDeviceRegister_devices services σ₁ r (some parent.handle) agent
            dsimp only at hkept ⊢
            rw [hkept] at hregister
            generalize dtDeviceRegister services σ₁ r (some parent.handle) agent = result
              at hregister ⊢
            obtain ⟨status, r', σ₂⟩ := result
            have hgrown : GrownBelow bus (some parent) σ σ₂ := by
              refine hregister.imp_right ?_
              rintro ⟨handle, hdevices⟩
              exact ⟨_, hbelow.withHandle handle, hdevices⟩
            cases status with
            | ok u => exact hgrown
            | error e =>
                dsimp only
                rw [GrownBelow, devices_dtDeviceCleanup]
                exact hgrown

end Scan

/-- Every device is created by the driver, below none or below a device that is there. -/
def AllCreated (bus : DtBusDriver) (σ : Registry) : Prop :=
  ∀ d ∈ σ.devices, ∃ parent, CreatedBelow bus parent d ∧ ∀ p ∈ parent, p ∈ σ.devices

section History

variable {bus : DtBusDriver} {σ σ' : Registry}

theorem AllCreated.grown (h : AllCreated bus σ) {parent : Option DtDeviceRecord}
    (hparent : ∀ p ∈ parent, p ∈ σ.devices) (hgrown : GrownBelow bus parent σ σ') :
    AllCreated bus σ' ∧ ∀ d ∈ σ.devices, d ∈ σ'.devices := by
  obtain hsame | ⟨r, hcreated, hadded⟩ := hgrown
  · rw [AllCreated, hsame]
    exact ⟨h, fun d hd => hd⟩
  · have hkept (d : DtDeviceRecord) (hd : d ∈ σ.devices) : d ∈ σ'.devices :=
      hadded ▸ List.mem_append_left _ hd
    refine ⟨fun d hd => ?_, hkept⟩
    rw [hadded, List.mem_append, List.mem_singleton] at hd
    cases hd with
    | inl hold =>
        obtain ⟨q, hq, hin⟩ := h d hold
        exact ⟨q, hq, fun p hp => hkept p (hin p hp)⟩
    | inr hnew => exact ⟨parent, hnew ▸ hcreated, fun p hp => hkept p (hparent p hp)⟩

theorem AllCreated.scanNodes (services : ScanServices) (agent : EfiHandle)
    (parent : DtDeviceRecord) (remaining : Option DevicePath) (nodes : List Int)
    (h : AllCreated bus σ) (hparent : parent ∈ σ.devices) :
    AllCreated bus (dtDeviceScanNodes bus services σ agent parent remaining nodes) := by
  induction nodes generalizing σ with
  | nil => exact h
  | cons node nodes ih =>
      rw [dtDeviceScanNodes_cons]
      obtain ⟨hstep, hkept⟩ := h.grown (fun p hp => Option.some.inj hp ▸ hparent)
        (dtDeviceScanNode_grown bus services σ agent parent remaining node)
      exact ih hstep (hkept parent hparent)

theorem AllCreated.scan (services : ScanServices) (agent : EfiHandle)
    (parent : DtDeviceRecord) (remaining : Option DevicePath) (h : AllCreated bus σ)
    (hparent : parent ∈ σ.devices) :
    AllCreated bus (dtIoScanChildren bus services σ (some parent) agent remaining).2 := by
  have hnodes := h.scanNodes services agent parent remaining
    (bus.tree.subnodes parent.fdtNode) hparent
  rw [dtIoScanChildren, dtDeviceScan]
  split
  · exact h
  · split
    · exact hnodes
    · exact hnodes

theorem allCreated_createRootHandle (services : ScanServices) (rootName : AsciiStr)
    (deviceFlags : Uintn) :
    AllCreated bus
      (createRootHandle bus services ⟨[], fun _ => [], []⟩ rootName deviceFlags).2 := by
  have hempty (σ : Registry) (h : σ.devices = []) : AllCreated bus σ := by
    rw [AllCreated, h]
    intro d hd
    cases hd
  rw [createRootHandle]
  split
  · exact hempty _ rfl
  · obtain ⟨hkept, hcreated⟩ := dtDeviceCreate_createdBelow bus services ⟨[], fun _ => [], []⟩
      bus.tree.rootNode rootName none deviceFlags
    generalize dtDeviceCreate bus services ⟨[], fun _ => [], []⟩ bus.tree.rootNode rootName none
      deviceFlags = result at hkept hcreated ⊢
    obtain ⟨status, σ₁⟩ := result
    cases status with
    | error e => exact hempty _ hkept
    | ok r =>
        have hregister := dtDeviceRegister_devices services σ₁ r none 0
        dsimp only at hkept ⊢
        rw [hkept] at hregister
        generalize dtDeviceRegister services σ₁ r none 0 = result at hregister ⊢
        obtain ⟨status, r', σ₂⟩ := result
        have hgrown : GrownBelow bus none ⟨[], fun _ => [], []⟩ σ₂ := by
          refine hregister.imp_right ?_
          rintro ⟨handle, hdevices⟩
          exact ⟨_, (hcreated r rfl).withHandle handle, hdevices⟩
        have hall : AllCreated bus σ₂ := by
          refine ((hempty _ rfl).grown (fun p hp => ?_) hgrown).1
          cases hp
        cases status with
        | ok u => exact hall
        | error e =>
            dsimp only
            rw [AllCreated, devices_dtDeviceCleanup]
            exact hall

end History

/-- The registries that scans of registered devices reach from the root device. -/
inductive ScanRun (bus : DtBusDriver) : Registry → Prop
  | root (services : ScanServices) (rootName : AsciiStr) (deviceFlags : Uintn) :
      ScanRun bus (createRootHandle bus services ⟨[], fun _ => [], []⟩ rootName deviceFlags).2
  | scan {σ : Registry} (services : ScanServices) (device : DtDeviceRecord) (agent : EfiHandle)
      (remaining : Option DevicePath) (run : ScanRun bus σ) (hdevice : device ∈ σ.devices) :
      ScanRun bus (dtIoScanChildren bus services σ (some device) agent remaining).2

theorem ScanRun.allCreated {bus : DtBusDriver} {σ : Registry} (run : ScanRun bus σ) :
    AllCreated bus σ := by
  induction run with
  | root services rootName deviceFlags =>
      exact allCreated_createRootHandle services rootName deviceFlags
  | scan services device agent remaining run hdevice ih =>
      exact ih.scan services agent device remaining hdevice

/-- The registered device that a device was created below, if any. -/
structure ParentOf (σ : Registry) (d : DtDeviceRecord) (parent : Option DtDeviceRecord) :
    Prop where
  eq : d.device.parent? = parent.map (·.device)
  mem (p : DtDeviceRecord) (hp : p ∈ parent) : p ∈ σ.devices

/-- No address or size of so many cells is wider than what holds it: the element that is
parsed has the value of all its bytes. -/
structure ParsesWhole (cells : CellCount) : Prop where
  le : cells.val ≤ FDT_MAX_NCELLS
  bits : 32 * cells.val ≤ 128
  address (mem : Nat → U8) (p : DtProperty) (index : Nat) :
    ParsedCells mem p cells.val index (parseAddressElem mem cells p index)
  size (mem : Nat → U8) (p : DtProperty) (index : Nat) :
    ParsedCells mem p cells.val index (parseSizeElem mem cells p index)

theorem parsesWhole (cells : CellCount) : ParsesWhole cells where
  le := Nat.le_of_lt_succ cells.isLt
  bits := by omega
  address mem p index := parsedCells_parseAddressElem mem p cells index
  size mem p index := parsedCells_parseSizeElem mem p cells index

/-- The counts of a device are those of the tree, at its parent's node and its own. -/
structure CellsTrustworthy (fdt : Fdt) (d : DtDeviceRecord) (parent : Option DtDeviceRecord) :
    Prop where
  address : (match parent with
    | some p => treeAddressCells fdt p.fdtNode
    | none => some 2) = some d.device.info.addressCells.val
  size : (match parent with
    | some p => treeSizeCells fdt p.fdtNode
    | none => some 1) = some d.device.info.sizeCells.val
  childAddress : treeAddressCells fdt d.fdtNode = some d.device.info.childAddressCells.val
  childSize : treeSizeCells fdt d.fdtNode = some d.device.info.childSizeCells.val
  whole (cells : CellCount) (h : cells ∈ [d.device.info.addressCells, d.device.info.sizeCells,
    d.device.info.childAddressCells, d.device.info.childSizeCells]) : ParsesWhole cells

section Devices

variable {bus : DtBusDriver} {σ : Registry}

theorem CellsCreated.children_iff {fdt : Fdt} {d : DtDeviceRecord} (h : CellsCreated fdt d)
    (hintact : d.Intact) :
    (treeAddressCells fdt d.fdtNode = some d.device.info.childAddressCells.val ∧
      treeSizeCells fdt d.fdtNode = some d.device.info.childSizeCells.val) ↔
        CountsFit fdt d.fdtNode := by
  have haddress := fdtGetCells_right_iff fdt d.fdtNode _ _ (h.childAddress hintact)
  have hsize := fdtGetCells_right_iff fdt d.fdtNode _ _ (h.childSize hintact)
  constructor
  · rintro ⟨ha, hs⟩
    exact ⟨haddress.mp ha, hsize.mp hs⟩
  · rintro ⟨ha, hs⟩
    exact ⟨haddress.mpr ha, hsize.mpr hs⟩

theorem AllCreated.cells (h : AllCreated bus σ) {d : DtDeviceRecord} (hd : d ∈ σ.devices) :
    CellsCreated bus.tree.toFdt d := by
  obtain ⟨parent, hbelow, -⟩ := h d hd
  exact hbelow.cells

theorem AllCreated.cellsTrustworthy_iff (h : AllCreated bus σ) {d : DtDeviceRecord}
    {parent : Option DtDeviceRecord} (hd : d ∈ σ.devices) (hparent : ParentOf σ d parent)
    (hintact : d.Intact) (hparents : ∀ p ∈ parent, p.Intact) :
    CellsTrustworthy bus.tree.toFdt d parent ↔
      CountsFit bus.tree.toFdt d.fdtNode ∧
        ∀ p ∈ parent, CountsFit bus.tree.toFdt p.fdtNode := by
  have hcells := h.cells hd
  have hchildren := hcells.children_iff hintact
  have haddress := hcells.address
  have hsize := hcells.size
  rw [hparent.eq] at haddress hsize
  cases parent with
  | none =>
      constructor
      · intro htrust
        exact ⟨hchildren.mp ⟨htrust.childAddress, htrust.childSize⟩, nofun⟩
      · rintro ⟨hfit, -⟩
        obtain ⟨ha, hs⟩ := hchildren.mpr hfit
        exact ⟨by rw [haddress]; rfl, by rw [hsize]; rfl, ha, hs, fun cells _ => parsesWhole cells⟩
  | some p =>
      have hown := (h.cells (hparent.mem p rfl)).children_iff (hparents p rfl)
      dsimp only [Option.map_some] at haddress hsize
      constructor
      · intro htrust
        have hinherited := hown.mp
          ⟨htrust.address.trans (by rw [haddress]), htrust.size.trans (by rw [hsize])⟩
        exact ⟨hchildren.mp ⟨htrust.childAddress, htrust.childSize⟩,
          fun q hq => Option.some.inj hq ▸ hinherited⟩
      · rintro ⟨hfit, hfits⟩
        obtain ⟨ha, hs⟩ := hchildren.mpr hfit
        obtain ⟨hpa, hps⟩ := hown.mpr (hfits p rfl)
        exact ⟨by rw [haddress]; exact hpa, by rw [hsize]; exact hps, ha, hs,
          fun cells _ => parsesWhole cells⟩

theorem AllCreated.parentOf (h : AllCreated bus σ) {d : DtDeviceRecord} (hd : d ∈ σ.devices) :
    ∃ parent, ParentOf σ d parent := by
  obtain ⟨parent, hbelow, hin⟩ := h d hd
  exact ⟨parent, hbelow.parent, hin⟩

end Devices

/-- Where the counts that a run comes across are those of the tree. -/
structure TrustworthyWhereFit (bus : DtBusDriver) (σ : Registry) : Prop where
  getters (fdtNode : Int) :
    GettersRight bus.tree.toFdt fdtNode ↔ CountsFit bus.tree.toFdt fdtNode
  parent (d : DtDeviceRecord) (hd : d ∈ σ.devices) : ∃ parent, ParentOf σ d parent
  devices (d : DtDeviceRecord) (hd : d ∈ σ.devices) (hintact : d.Intact)
    (parent : Option DtDeviceRecord) (hparent : ParentOf σ d parent)
    (hparents : ∀ p ∈ parent, p.Intact) :
    CellsTrustworthy bus.tree.toFdt d parent ↔
      CountsFit bus.tree.toFdt d.fdtNode ∧
        ∀ p ∈ parent, CountsFit bus.tree.toFdt p.fdtNode

theorem gettersRight_iff (fdt : Fdt) (fdtNode : Int) :
    GettersRight fdt fdtNode ↔ CountsFit fdt fdtNode := by
  rw [GettersRight, getterRight_iff, getterRight_iff]
  exact ⟨fun ⟨ha, hs⟩ => ⟨ha, hs⟩, fun ⟨ha, hs⟩ => ⟨ha, hs⟩⟩

/-- After any scans, the counts that fit are trustworthy and no others. -/
theorem cellCounts_trustworthy_iff (bus : DtBusDriver) (σ : Registry) (run : ScanRun bus σ) :
    TrustworthyWhereFit bus σ where
  getters := gettersRight_iff bus.tree.toFdt
  parent _ hd := run.allCreated.parentOf hd
  devices _ hd hintact _ hparent hparents :=
    run.allCreated.cellsTrustworthy_iff hd hparent hintact hparents

theorem cellCounts_trustworthy_iff_child : TrustworthyWhereFit oneChildDriver scannedOnce :=
  cellCounts_trustworthy_iff oneChildDriver scannedOnce
    (.scan nextServices oneChildBus.root 7 none (.root nextServices [0x44] 0)
      oneChildBus.inv.root_mem)

/-- A root whose cells count 258 in either property. -/
def wideCountTree : DtTree :=
  { oneChildTree with
    mem a := if a = 2 then 1 else if a = 3 then 2 else 0
    getprop _ name :=
      if name = "#address-cells" ∨ name = "#size-cells" then .ok (0, 4) else .error .notFound
    subnodes _ := [] }

def wideCountDriver : DtBusDriver := ⟨wideCountTree, true, DtProperty.ofBuf 0 0⟩

def wideCountRoot : DtDeviceRecord :=
  ⟨⟨.root ⟨1, 1, 0, 2, 1, 2, 2, true, 0, none, MAX_UINT64⟩, none, .okay⟩, [0x44],
    [dtPathNode [0x44]]⟩

/-- The count 258 is taken for 2, and the root device goes without a complaint. -/
theorem wideCount_not_trustworthy :
    ¬ GettersRight wideCountTree.toFdt 0 ∧
      (createRootHandle wideCountDriver nextServices ⟨[], fun _ => [], []⟩ [0x44] 0).1 =
        .ok wideCountRoot ∧ wideCountRoot.Intact ∧
      ¬ CellsTrustworthy wideCountTree.toFdt wideCountRoot none := by
  have hcount : treeAddressCells wideCountTree.toFdt 0 = some 258 := by decide
  refine ⟨fun h => ?_, rfl, nofun, fun h => ?_⟩
  · have hread : fdtGetCells wideCountTree.toFdt 0 "#address-cells" 2 = .ok 2 := rfl
    have hright := (h.1 2 hread).1
    exact nomatch hcount.symm.trans hright
  · exact nomatch hcount.symm.trans h.childAddress

end FdtBusPkg
