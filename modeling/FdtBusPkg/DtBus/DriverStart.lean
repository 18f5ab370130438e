import FdtBusPkg.DtBus.OneDevice

/-!
Starts of the bus driver: what it supports, how a start binds it to a handle and
scans below, and what any number of starts leaves behind. A handle has a driver
bound once a driver has the protocol open by driver for the handle itself.
-/
namespace FdtBusPkg

/-- `FbpHandleHasBoundDriver` without extra attributes. -/
def fbpHandleHasBoundDriver (σ : Registry) (handle : EfiHandle) : Bool :=
  (σ.opens handle).any fun e => e.attributes = .byDriver && e.controller = handle

/-- `OpenProtocol` with `EFI_OPEN_PROTOCOL_BY_DRIVER`. -/
def Registry.openByDriver (σ : Registry) (agent handle : EfiHandle) : EfiStatus × Registry :=
  if (σ.opens handle).any fun e => e.attributes = .byDriver then
    if ⟨agent, handle, .byDriver⟩ ∈ σ.opens handle then
      (.error .alreadyStarted, σ)
    else
      (.error .accessDenied, σ)
  else
    σ.openProtocol (.ok ()) handle ⟨agent, handle, .byDriver⟩

section Driver

variable (bus : DtBusDriver) (σ : Registry) (agent : EfiHandle)

/-- `"cpus"`. -/
def cpusName : AsciiStr := [0x63, 0x70, 0x75, 0x73]

/-- The root, a device container or the CPUs container. -/
def isSupportedDevice (d : DtDeviceRecord) : Bool :=
  match d.device.parent? with
  | none => true
  | some parent =>
    bus.tree.nodeCheckCompatible d.fdtNode "simple-bus" = 0 ||
      (d.name = cpusName && parent.parent? = none)

def driverSupported (controller : EfiHandle) (remaining : Option DevicePath) : EfiStatus :=
  if remaining.any fun path => path ≠ [] && !isDtDevicePathNode path then
    .error .unsupported
  else
    match σ.find controller with
    | none => .error .unsupported
    | some d =>
      match (σ.openByDriver agent controller).1 with
      | .error e => if e = .alreadyStarted then .ok () else .error .unsupported
      | .ok _ => if isSupportedDevice bus d then .ok () else .error .unsupported

def driverStart (services : ScanServices) (d : DtDeviceRecord)
    (remaining : Option DevicePath) : EfiStatus × Registry :=
  match σ.openByDriver agent d.handle with
  | (.error e, σ) =>
    if e = .alreadyStarted then
      (.ok (), (dtDeviceScan bus services σ agent d remaining).2)
    else
      (.error e, σ)
  | (.ok _, σ) => (.ok (), (dtDeviceScan bus services σ agent d remaining).2)

end Driver

/-- `ConnectController` where the bus driver is the only driver for the handles. -/
def startController (bus : DtBusDriver) (services : ScanServices) (agent : EfiHandle) :
    ConnectController := fun σ handle remaining =>
  match σ.find handle with
  | none => (.error .invalidParameter, σ)
  | some d =>
    if driverSupported bus σ agent handle (some remaining) = .ok () then
      driverStart bus σ agent services d (some remaining)
    else
      (.error .notFound, σ)

/-- A node that the bus driver supports below the root. -/
def DtTree.IsBusNode (t : DtTree) (n : Int) : Prop :=
  t.nodeCheckCompatible n "simple-bus" = 0 ∨
    (t.getName n = some cpusName ∧ n ∈ t.subnodes t.rootNode)

/-- The invariant of the registered devices, with the opens by drivers. -/
structure DrivenInv (bus : DtBusDriver) (root : DtDeviceRecord) (σ : Registry) : Prop
    extends RegistryInv bus root σ where
  drivers (handle : EfiHandle) (e : OpenEntry) (he : e ∈ σ.opens handle)
    (hdriver : e.attributes = .byDriver) : e.controller = handle

/-- Every child is held by its parent besides. -/
structure BoundInv (bus : DtBusDriver) (root : DtDeviceRecord) (σ : Registry) : Prop
    extends DrivenInv bus root σ where
  linked : σ.Linked bus ∅

section Supported

variable {bus : DtBusDriver} {root : DtDeviceRecord} {σ : Registry}

theorem RegistryInv.isSupportedDevice_iff (h : RegistryInv bus root σ) (sound : bus.tree.Sound)
    {d : DtDeviceRecord} (hd : d ∈ σ.devices) (hne : d ≠ root) :
    isSupportedDevice bus d = true ↔ bus.tree.IsBusNode d.fdtNode := by
  obtain ⟨p, hp, hchild⟩ := h.below d hd hne
  have hroot : p.device.parent? = none ↔ d.fdtNode ∈ bus.tree.subnodes bus.tree.rootNode := by
    constructor
    · intro hnone
      by_cases heq : p = root
      · rw [← h.isRoot.node, ← heq]
        exact hchild.node
      · obtain ⟨q, -, hchild'⟩ := h.below p hp heq
        rw [hchild'.parent] at hnone
        exact nomatch hnone
    · intro hnode
      have hsame := sound.parent_unique _ _ _ hchild.node hnode
      rw [h.eq_of_node sound hp h.root_mem (hsame.trans h.isRoot.node.symm)]
      exact h.isRoot.parent
  rw [isSupportedDevice, hchild.parent, DtTree.IsBusNode, hchild.name]
  simp [hroot]

theorem RegistryInv.find_handle (h : RegistryInv bus root σ) {d : DtDeviceRecord}
    (hd : d ∈ σ.devices) : σ.find d.handle = some d := by
  cases hfind : σ.find d.handle with
  | none => exact absurd (decide_eq_true rfl) (List.find?_eq_none.mp hfind d hd)
  | some d' =>
      have hmem := List.mem_of_find?_eq_some hfind
      have hhandle : d'.handle = d.handle := by simpa using List.find?_some hfind
      rw [h.eq_of_handle hmem hd hhandle]

theorem DrivenInv.openByDriver_unbound (h : DrivenInv bus root σ) (agent : EfiHandle)
    {d : DtDeviceRecord} (hd : d ∈ σ.devices)
    (hunbound : fbpHandleHasBoundDriver σ d.handle = false) :
    σ.openByDriver agent d.handle =
      (.ok (), σ.addOpen d.handle ⟨agent, d.handle, .byDriver⟩) := by
  have hnone : ((σ.opens d.handle).any fun e => e.attributes = .byDriver) = false := by
    rw [List.any_eq_false]
    intro e he hdriver
    rw [fbpHandleHasBoundDriver, List.any_eq_false] at hunbound
    have hattributes := of_decide_eq_true hdriver
    exact hunbound e he (by simp [hattributes, h.drivers _ e he hattributes])
  rw [Registry.openByDriver, hnone]
  simp [Registry.openProtocol, σ.mem_handles d hd]

theorem openByDriver_bound (σ : Registry) (agent handle : EfiHandle)
    (hbound : fbpHandleHasBoundDriver σ handle = true) :
    ∃ e, σ.openByDriver agent handle = (.error e, σ) := by
  rw [fbpHandleHasBoundDriver, List.any_eq_true] at hbound
  obtain ⟨e, he, hmatch⟩ := hbound
  have hany : ((σ.opens handle).any fun e => e.attributes = .byDriver) = true :=
    List.any_eq_true.mpr ⟨e, he, (Bool.and_eq_true_iff.mp hmatch).1⟩
  rw [Registry.openByDriver, hany, if_pos rfl]
  split
  · exact ⟨_, rfl⟩
  · exact ⟨_, rfl⟩

theorem DrivenInv.driverSupported_unbound (h : DrivenInv bus root σ) (agent : EfiHandle)
    {d : DtDeviceRecord} (hd : d ∈ σ.devices)
    (hunbound : fbpHandleHasBoundDriver σ d.handle = false) :
    driverSupported bus σ agent d.handle none = .ok () ↔ isSupportedDevice bus d = true := by
  rw [driverSupported, h.find_handle hd, h.openByDriver_unbound agent hd hunbound]
  cases hsupported : isSupportedDevice bus d <;> simp [hsupported]

end Supported

/-- What a scan of a device leaves as it was, and what it adds. -/
structure ScanGrown (bus : DtBusDriver) (parent : DtDeviceRecord)
    (remaining : Option DevicePath) (σ σ' : Registry) : Prop where
  kept (d : DtDeviceRecord) (hd : d ∈ σ.devices) : d ∈ σ'.devices
  added (d : DtDeviceRecord) (hd : d ∈ σ'.devices) :
    d ∈ σ.devices ∨ (IsChildOf bus parent d ∧ Selects remaining d.name)
  appended : ∃ more, σ'.criticalDevices = σ.criticalDevices ++ more
  drivers (handle : EfiHandle) (e : OpenEntry) (hdriver : e.attributes = .byDriver) :
    e ∈ σ'.opens handle ↔ e ∈ σ.opens handle
  others (handle : EfiHandle) (e : OpenEntry) (hother : handle ≠ parent.handle) :
    e ∈ σ'.opens handle ↔ e ∈ σ.opens handle

theorem bound_congr (σ σ' : Registry) (handle : EfiHandle)
    (hsame : ∀ e : OpenEntry, e.attributes = .byDriver →
      (e ∈ σ'.opens handle ↔ e ∈ σ.opens handle)) :
    fbpHandleHasBoundDriver σ' handle = fbpHandleHasBoundDriver σ handle := by
  rw [Bool.eq_iff_iff, fbpHandleHasBoundDriver, fbpHandleHasBoundDriver, List.any_eq_true,
    List.any_eq_true]
  refine exists_congr fun e => and_congr_left fun hmatch => ?_
  exact hsame e (of_decide_eq_true (Bool.and_eq_true_iff.mp hmatch).1)

namespace ScanGrown

variable {bus : DtBusDriver} {parent : DtDeviceRecord} {remaining : Option DevicePath}
  {σ σ' σ'' : Registry}

theorem refl (σ : Registry) : ScanGrown bus parent remaining σ σ :=
  ⟨fun _ hd => hd, fun _ hd => .inl hd, ⟨[], by simp⟩, fun _ _ _ => Iff.rfl, fun _ _ _ => Iff.rfl⟩

theorem trans (h : ScanGrown bus parent remaining σ σ')
    (h' : ScanGrown bus parent remaining σ' σ'') : ScanGrown bus parent remaining σ σ'' where
  kept d hd := h'.kept d (h.kept d hd)
  added d hd := by
    cases h'.added d hd with
    | inl hold => exact h.added d hold
    | inr hnew => exact .inr hnew
  appended := by
    obtain ⟨more, hmore⟩ := h.appended
    obtain ⟨more', hmore'⟩ := h'.appended
    exact ⟨more ++ more', by rw [hmore', hmore, List.append_assoc]⟩
  drivers handle e hdriver := (h'.drivers handle e hdriver).trans (h.drivers handle e hdriver)
  others handle e hother := (h'.others handle e hother).trans (h.others handle e hother)

theorem bound (h : ScanGrown bus parent remaining σ σ') (handle : EfiHandle) :
    fbpHandleHasBoundDriver σ' handle = fbpHandleHasBoundDriver σ handle :=
  bound_congr σ σ' handle (h.drivers handle)

end ScanGrown

section Scan

variable {bus : DtBusDriver} {root : DtDeviceRecord} {σ σ' : Registry}

theorem NodeScanned.grown {agent : EfiHandle} {parent : DtDeviceRecord}
    {remaining : Option DevicePath} {node : Int} {o : ScanOutcome}
    (h : RegistryInv bus root σ) (hnode : node ∈ bus.tree.subnodes parent.fdtNode)
    (hselects : ∀ name, bus.tree.getName node = some name → o = .created →
      Selects remaining name)
    (hscan : NodeScanned bus σ agent parent remaining node o σ') :
    ScanGrown bus parent remaining σ σ' := by
  cases hscan with
  | unnamed hname => exact .refl σ
  | skipped path name hname hremaining hother => exact .refl σ
  | seen name d hname hd hpath => exact .refl σ
  | failed e => exact .refl σ
  | created name d hname hnew hhandle =>
      have hchild : IsChildOf bus parent d := hnew.isChildOf hnode hname
      refine ⟨fun d' hd' => ?_, fun d' hd' => ?_, ?_, fun handle e hdriver => ?_,
        fun handle e hother => ?_⟩
      · rw [Registry.devices_attach]
        exact List.mem_append_left _ hd'
      · rw [Registry.devices_attach, List.mem_append, List.mem_singleton] at hd'
        cases hd' with
        | inl hold => exact .inl hold
        | inr heq =>
            rw [heq]
            exact .inr ⟨hchild, hnew.name_eq ▸ hselects name hname rfl⟩
      · rw [Registry.criticalDevices_attach]
        split
        · exact ⟨_, rfl⟩
        · exact ⟨[], by simp⟩
      · rw [Registry.mem_opens_attach σ _ e d _ agent (h.closed d.handle hhandle)]
        refine or_iff_left fun hadded => ?_
        rw [hadded.2] at hdriver
        exact nomatch hdriver
      · rw [Registry.mem_opens_attach σ _ e d _ agent (h.closed d.handle hhandle)]
        exact or_iff_left fun hadded => hother hadded.1

theorem selects_of_created (services : ScanServices) (σ : Registry) (agent : EfiHandle)
    (parent : DtDeviceRecord) (remaining : Option DevicePath) (node : Int) (name : AsciiStr)
    (hname : bus.tree.getName node = some name)
    (hcreated : (dtDeviceScanNode bus services σ agent parent remaining node).1 = .created) :
    Selects remaining name := by
  intro path hremaining
  by_contra hne
  rw [dtDeviceScanNode, hname, hremaining] at hcreated
  simp [hne] at hcreated

/-- A scan adds children of the scanned device that its remaining path selects. -/
theorem dtDeviceScanNodes_grown (services : ScanServices) (agent : EfiHandle)
    (parent : DtDeviceRecord) (remaining : Option DevicePath) (nodes : List Int)
    (h : RegistryInv bus root σ) (hparent : parent ∈ σ.devices)
    (hnodes : ∀ n ∈ nodes, n ∈ bus.tree.subnodes parent.fdtNode) :
    ScanGrown bus parent remaining σ
      (dtDeviceScanNodes bus services σ agent parent remaining nodes) := by
  induction nodes generalizing σ with
  | nil => exact .refl σ
  | cons node nodes ih =>
      have hscan := dtDeviceScanNode_cases h services agent parent remaining node
      have hnode := hnodes node List.mem_cons_self
      have hgrown := hscan.grown h hnode fun name hname hcreated =>
        selects_of_created services σ agent parent remaining node name hname hcreated
      rw [dtDeviceScanNodes_cons]
      exact hgrown.trans (ih (hscan.inv h hparent hnode) (hscan.mem parent hparent)
        (fun n hn => hnodes n (List.mem_cons_of_mem node hn)))

theorem dtDeviceScan_eq (sound : bus.tree.Sound) (services : ScanServices) (σ : Registry)
    (agent : EfiHandle) (parent : DtDeviceRecord) (remaining : Option DevicePath)
    (hdt : ∀ path, remaining = some path → isDtDevicePathNode path = true) :
    dtDeviceScan bus services σ agent parent remaining =
      (.ok (), dtDeviceScanNodes bus services σ agent parent remaining
        (bus.tree.subnodes parent.fdtNode)) := by
  have hany : (remaining.any fun path => !isDtDevicePathNode path) = false := by
    rw [Option.any_eq_false_iff_get]
    intro hsome
    simp [hdt _ (Option.some_get hsome).symm]
  rw [dtDeviceScan, hany]
  simp [sound.ended]

theorem dtDeviceScan_grown (sound : bus.tree.Sound) (services : ScanServices)
    (agent : EfiHandle) (parent : DtDeviceRecord) (remaining : Option DevicePath)
    (h : RegistryInv bus root σ) (hparent : parent ∈ σ.devices) :
    ScanGrown bus parent remaining σ
      (dtDeviceScan bus services σ agent parent remaining).2 := by
  by_cases hdt : ∀ path, remaining = some path → isDtDevicePathNode path = true
  · rw [dtDeviceScan_eq sound services σ agent parent remaining hdt]
    exact dtDeviceScanNodes_grown services agent parent remaining _ h hparent (fun n hn => hn)
  · push Not at hdt
    obtain ⟨path, hremaining, hother⟩ := hdt
    rw [dtDeviceScan, hremaining]
    simp only [Option.any_some, hother, Bool.not_false, if_true]
    exact .refl σ

end Scan

/-- Memory, handles and opens are there when they are asked for. -/
structure ScanServices.Reliable (services : ScanServices) : Prop where
  node (σ : Registry) (n : Int) : services.allocateNode σ n = true
  path (σ : Registry) (n : Int) : services.allocatePath σ n = true
  device (σ : Registry) (n : Int) : ∃ dtIo, services.allocateDevice σ n = some dtIo
  handle (σ : Registry) (n : Int) : ∃ handle, services.installHandle σ n = .ok handle
  child (σ : Registry) (n : Int) : services.openChild σ n = .ok ()

/-- Every path node holds at least its header, and those of siblings are distinct. -/
structure DtTree.PathNodesFit (t : DtTree) : Prop where
  apart : t.PathNodesApart
  header (m : Int) (name : AsciiStr) (h : t.getName m = some name) :
    ¬ (21 + name.length) % 65536 < 4

theorem pathNodesFit_of_short (t : DtTree) (sound : t.Sound)
    (hshort : ∀ m name, t.getName m = some name → ShortName name) : t.PathNodesFit where
  apart := pathNodesApart_of_short t sound hshort
  header m name h := by
    have hlength : name.length < 65515 := hshort m name h
    omega

section Reliable

variable {bus : DtBusDriver} {root : DtDeviceRecord} {σ : Registry} {services : ScanServices}

theorem dtDeviceCreate_reliable (hreliable : services.Reliable) (node : Int) (name : AsciiStr)
    (parent : Option DtDeviceRecord) (flags : Uintn) (e : EfiError)
    (hheader : ¬ (21 + name.length) % 65536 < 4)
    (hfails : (dtDeviceCreate bus services σ node name parent flags).1 = .error e) :
    e = .alreadyStarted := by
  obtain ⟨dtIo, hdevice⟩ := hreliable.device σ node
  obtain ⟨result, hlookup, -, -⟩ :=
    dtPathToHandle_noConnect σ (pathOfParent parent ++ [dtPathNode name])
  rw [dtDeviceCreate, hreliable.node, appendDevicePathNode_create, if_neg hheader,
    hreliable.path] at hfails
  dsimp only at hfails
  rw [hlookup] at hfails
  cases result with
  | ok handle => exact (Except.error.inj hfails).symm
  | error e' =>
      rw [hdevice] at hfails
      cases hfails

theorem dtDeviceRegister_reliable (hreliable : services.Reliable) (r : DtDeviceRecord)
    (controller agent : EfiHandle) (hcontroller : controller ∈ σ.handles) :
    (dtDeviceRegister services σ r (some controller) agent).1 = .ok () := by
  obtain ⟨handle, hhandle⟩ := hreliable.handle σ r.fdtNode
  rw [dtDeviceRegister, hhandle]
  simp [Registry.openProtocol, hcontroller, hreliable.child]

theorem dtDeviceScanNode_reliable (hreliable : services.Reliable)
    (hfit : bus.tree.PathNodesFit) (agent : EfiHandle) (parent : DtDeviceRecord)
    (hparent : parent ∈ σ.devices) (remaining : Option DevicePath) (node : Int) (e : EfiError) :
    (dtDeviceScanNode bus services σ agent parent remaining node).1 ≠ .failed e := by
  intro hfails
  rw [dtDeviceScanNode] at hfails
  cases hname : bus.tree.getName node with
  | none =>
      rw [hname] at hfails
      cases hfails
  | some name =>
      rw [hname] at hfails
      dsimp only at hfails
      split at hfails
      · cases hfails
      · have hcreated (e' : EfiError)
            (h : (dtDeviceCreate bus services σ node name (some parent)
              parent.device.info.flags).1 = .error e') : e' = .alreadyStarted :=
          dtDeviceCreate_reliable hreliable node name _ _ e' (hfit.header node name hname) h
        obtain ⟨e', hcreate, -⟩ | ⟨r, hcreate, -⟩ := dtDeviceCreate_cases bus services σ node name
          (some parent) parent.device.info.flags
        · rw [hcreate] at hfails hcreated
          dsimp only at hfails
          rw [if_pos (hcreated e' rfl)] at hfails
          cases hfails
        · rw [hcreate] at hfails
          dsimp only at hfails
          have hregister : (dtDeviceRegister services (σ.insertCritical r) r
              (some parent.handle) agent).1 = .ok () :=
            dtDeviceRegister_reliable hreliable r parent.handle agent
              (by simpa using σ.mem_handles parent hparent)
          generalize dtDeviceRegister services (σ.insertCritical r) r (some parent.handle) agent =
            result at hfails hregister
          obtain ⟨status, r', σ'⟩ := result
          cases hregister
          cases hfails

theorem scanSucceeds_of_reliable (hreliable : services.Reliable) (hfit : bus.tree.PathNodesFit)
    (agent : EfiHandle) (parent : DtDeviceRecord) (remaining : Option DevicePath)
    (nodes : List Int) (h : RegistryInv bus root σ) (hparent : parent ∈ σ.devices)
    (hnodes : ∀ n ∈ nodes, n ∈ bus.tree.subnodes parent.fdtNode) :
    ScanSucceeds services agent parent remaining bus σ nodes := by
  induction nodes generalizing σ with
  | nil => exact fun e he => nomatch he
  | cons node nodes ih =>
      have hscan := dtDeviceScanNode_cases h services agent parent remaining node
      have hnode := hnodes node List.mem_cons_self
      have hrest := ih (hscan.inv h hparent hnode) (hscan.mem parent hparent)
        (fun n hn => hnodes n (List.mem_cons_of_mem node hn))
      intro e he
      cases List.mem_cons.mp he with
      | inl hfirst =>
          exact dtDeviceScanNode_reliable hreliable hfit agent parent hparent remaining node e
            hfirst.symm
      | inr hlater => exact hrest e hlater

end Reliable

/-- A handle with the driver bound, and nothing else changed. -/
structure DriverOpened (σ : Registry) (handle : EfiHandle) (σ' : Registry) : Prop where
  devices : σ'.devices = σ.devices
  critical : σ'.criticalDevices = σ.criticalDevices
  bound (handle' : EfiHandle) : fbpHandleHasBoundDriver σ' handle' = true ↔
    fbpHandleHasBoundDriver σ handle' = true ∨ handle' = handle

section Open

variable {bus : DtBusDriver} {root : DtDeviceRecord} {σ : Registry}

theorem bound_addOpen (σ : Registry) (agent handle handle' : EfiHandle) :
    fbpHandleHasBoundDriver (σ.addOpen handle ⟨agent, handle, .byDriver⟩) handle' = true ↔
      fbpHandleHasBoundDriver σ handle' = true ∨ handle' = handle := by
  by_cases hsame : handle' = handle
  · subst hsame
    simp [fbpHandleHasBoundDriver, Registry.addOpen]
  · simp [fbpHandleHasBoundDriver, Registry.addOpen, hsame]

theorem DrivenInv.addDriver (h : DrivenInv bus root σ) (agent : EfiHandle) {d : DtDeviceRecord}
    (hd : d ∈ σ.devices) :
    DrivenInv bus root (σ.addOpen d.handle ⟨agent, d.handle, .byDriver⟩) where
  toRegistryInv := by
    refine h.of_opens _ rfl rfl (fun handle e hchild he => ?_) (fun handle hfree => ?_)
    · refine ((σ.mem_opens_addOpen _ _ e handle).mp he).resolve_right fun hadded => ?_
      rw [hadded.2] at hchild
      exact nomatch hchild
    · have hne : handle ≠ d.handle := fun heq => hfree (heq ▸ σ.mem_handles d hd)
      rw [Registry.addOpen]
      dsimp only
      rw [Function.update_of_ne hne, h.closed handle hfree]
  drivers handle e he hdriver := by
    cases (σ.mem_opens_addOpen _ _ e handle).mp he with
    | inl hold => exact h.drivers handle e hold hdriver
    | inr hadded => rw [hadded.1, hadded.2]

theorem Registry.Linked.addOpen {X : Set EfiHandle} (h : σ.Linked bus X) (handle : EfiHandle)
    (entry : OpenEntry) : (σ.addOpen handle entry).Linked bus X := by
  intro p hp d hd hchild hX
  obtain ⟨e, he, hcontroller⟩ := h p hp d hd hchild hX
  exact ⟨e, (σ.mem_opens_addOpen _ _ e _).mpr (.inl he), hcontroller⟩

theorem DrivenInv.openByDriver (h : DrivenInv bus root σ) (agent : EfiHandle)
    {d : DtDeviceRecord} (hd : d ∈ σ.devices) :
    DrivenInv bus root (σ.openByDriver agent d.handle).2 ∧
      DriverOpened σ d.handle (σ.openByDriver agent d.handle).2 := by
  cases hbound : fbpHandleHasBoundDriver σ d.handle with
  | true =>
      obtain ⟨e, hopen⟩ := openByDriver_bound σ agent d.handle hbound
      rw [hopen]
      refine ⟨h, rfl, rfl, fun handle' => (or_iff_left_of_imp fun heq => ?_).symm⟩
      rw [heq, hbound]
  | false =>
      rw [h.openByDriver_unbound agent hd hbound]
      exact ⟨h.addDriver agent hd, rfl, rfl, bound_addOpen σ agent d.handle⟩

theorem DrivenInv.linked_openByDriver (h : DrivenInv bus root σ) (agent : EfiHandle)
    {d : DtDeviceRecord} (hd : d ∈ σ.devices) {X : Set EfiHandle} (hlinked : σ.Linked bus X) :
    (σ.openByDriver agent d.handle).2.Linked bus X := by
  cases hbound : fbpHandleHasBoundDriver σ d.handle with
  | true =>
      obtain ⟨e, hopen⟩ := openByDriver_bound σ agent d.handle hbound
      rwa [hopen]
  | false =>
      rw [h.openByDriver_unbound agent hd hbound]
      exact hlinked.addOpen _ _

theorem BoundInv.openByDriver (h : BoundInv bus root σ) (agent : EfiHandle)
    {d : DtDeviceRecord} (hd : d ∈ σ.devices) :
    BoundInv bus root (σ.openByDriver agent d.handle).2 ∧
      DriverOpened σ d.handle (σ.openByDriver agent d.handle).2 :=
  have hopened := h.toDrivenInv.openByDriver agent hd
  ⟨⟨hopened.1, h.linked_openByDriver agent hd h.linked⟩, hopened.2⟩

/-- A start that is supported opens the device by driver and scans below it. -/
theorem driverStart_supported (services : ScanServices) (σ : Registry) (agent : EfiHandle)
    (d : DtDeviceRecord) (remaining : Option DevicePath)
    (hsupported : driverSupported bus σ agent d.handle remaining = .ok ()) :
    driverStart bus σ agent services d remaining =
      (.ok (), (dtDeviceScan bus services (σ.openByDriver agent d.handle).2 agent d
        remaining).2) := by
  rw [driverSupported] at hsupported
  split at hsupported
  · exact nomatch hsupported
  · cases hfind : σ.find d.handle with
    | none =>
        rw [hfind] at hsupported
        exact nomatch hsupported
    | some d' =>
        rw [hfind] at hsupported
        rw [driverStart]
        generalize σ.openByDriver agent d.handle = result at hsupported ⊢
        obtain ⟨status, σ'⟩ := result
        cases status with
        | error e =>
            dsimp only at hsupported ⊢
            split at hsupported
            · next heq => rw [if_pos heq]
            · exact nomatch hsupported
        | ok u => rfl

theorem ScanGrown.drivenInv {parent : DtDeviceRecord} {remaining : Option DevicePath}
    {σ' : Registry} (hgrown : ScanGrown bus parent remaining σ σ') (h : DrivenInv bus root σ)
    (hinv : RegistryInv bus root σ') : DrivenInv bus root σ' where
  toRegistryInv := hinv
  drivers handle e he hdriver :=
    h.drivers handle e ((hgrown.drivers handle e hdriver).mp he) hdriver

theorem BoundInv.scan (h : BoundInv bus root σ) (sound : bus.tree.Sound)
    (services : ScanServices) (agent : EfiHandle) {d : DtDeviceRecord} (hd : d ∈ σ.devices)
    (remaining : Option DevicePath) :
    BoundInv bus root (dtDeviceScan bus services σ agent d remaining).2 where
  toDrivenInv := (dtDeviceScan_grown sound services agent d remaining h.toRegistryInv hd).drivenInv
    h.toDrivenInv (dtDeviceScan_inv h.toRegistryInv services agent d remaining hd)
  linked := dtDeviceScan_linked h.toRegistryInv h.linked services agent d remaining hd

theorem driverStart_inv (h : BoundInv bus root σ) (sound : bus.tree.Sound)
    (services : ScanServices) (agent : EfiHandle) {d : DtDeviceRecord} (hd : d ∈ σ.devices)
    (remaining : Option DevicePath)
    (hsupported : driverSupported bus σ agent d.handle remaining = .ok ()) :
    BoundInv bus root (driverStart bus σ agent services d remaining).2 ∧
      ∀ e ∈ σ.devices, e ∈ (driverStart bus σ agent services d remaining).2.devices := by
  rw [driverStart_supported services σ agent d remaining hsupported]
  obtain ⟨hopened, hopen⟩ := h.openByDriver agent hd
  have hparent := hopen.devices.symm ▸ hd
  have hgrown := dtDeviceScan_grown sound services agent d remaining hopened.toRegistryInv hparent
  exact ⟨hopened.scan sound services agent hparent remaining,
    fun e he => hgrown.kept e (hopen.devices.symm ▸ he)⟩

theorem startController_inv (h : BoundInv bus root σ) (sound : bus.tree.Sound)
    (services : ScanServices) (agent handle : EfiHandle) (remaining : DevicePath) :
    BoundInv bus root (startController bus services agent σ handle remaining).2 ∧
      ∀ d ∈ σ.devices, d ∈ (startController bus services agent σ handle remaining).2.devices := by
  rw [startController]
  cases hfind : σ.find handle with
  | none => exact ⟨h, fun d hd => hd⟩
  | some d =>
      have hd : d ∈ σ.devices := List.mem_of_find?_eq_some hfind
      have hhandle : d.handle = handle := by simpa using List.find?_some hfind
      dsimp only
      split
      · next hsupported =>
          exact driverStart_inv h sound services agent hd (some remaining) (hhandle ▸ hsupported)
      · exact ⟨h, fun d hd => hd⟩

end Open

theorem RootedBus.boundInv (b : RootedBus) : BoundInv b.bus b.root b.initial := by
  refine ⟨⟨b.inv, fun handle e he => ?_⟩, b.linked⟩
  rw [b.initialState.opens] at he
  cases he

end FdtBusPkg
