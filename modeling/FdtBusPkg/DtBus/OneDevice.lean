import FdtBusPkg.DtBus.Removal

/-!
One device per node, over every order of scans and removals. The parents of a device
lead up to the root, so devices of one node have one path. A removal finds its child
by what `CloseProtocol` closes, which is the open of a child controller unless the
device was asked to remove itself, or the parent was opened to be removed before.
-/
namespace FdtBusPkg

/-- A finite devicetree of distinct siblings: every node but the root has a name and
one parent. -/
structure DtTree.Sound (t : DtTree) where
  nodes : List Int
  root_mem : t.rootNode ∈ nodes
  subnode_mem (n m : Int) (h : m ∈ t.subnodes n) : m ∈ nodes
  depth : Int → Nat
  maxDepth : Nat
  depth_le (n : Int) : depth n ≤ maxDepth
  depth_root : depth t.rootNode = 0
  depth_subnode (n m : Int) (h : m ∈ t.subnodes n) : depth m = depth n + 1
  parent_unique (n n' m : Int) (h : m ∈ t.subnodes n) (h' : m ∈ t.subnodes n') : n = n'
  named (n m : Int) (h : m ∈ t.subnodes n) : ∃ name, t.getName m = some name
  distinct (n m m' : Int) (h : m ∈ t.subnodes n) (h' : m' ∈ t.subnodes n)
    (hname : t.getName m = t.getName m') : m = m'
  terminated (m : Int) (name : AsciiStr) (h : t.getName m = some name) : 0 ∉ name
  ended (n : Int) : t.subnodesEnd n = -FDT_ERR_NOTFOUND

/-- Siblings have distinct path nodes, as they do when their names are short. -/
def DtTree.PathNodesApart (t : DtTree) : Prop :=
  ∀ n, ∀ m ∈ t.subnodes n, ∀ m' ∈ t.subnodes n, ∀ name name', t.getName m = some name →
    t.getName m' = some name' → dtPathNode name = dtPathNode name' → m = m'

theorem pathNodesApart_of_short (t : DtTree) (sound : t.Sound)
    (hshort : ∀ m name, t.getName m = some name → ShortName name) : t.PathNodesApart := by
  intro n m hm m' hm' name name' hname hname' hnode
  have hsame := eq_of_dtPathNode_eq name name' (hshort m name hname)
    (sound.terminated m' name' hname') hnode
  exact sound.distinct n m m' hm hm' (by rw [hname, hname', hsame])

section Unique

variable {bus : DtBusDriver} {root : DtDeviceRecord} {σ : Registry}

theorem IsChildOf.depth {p d : DtDeviceRecord} (h : IsChildOf bus p d) (sound : bus.tree.Sound) :
    sound.depth d.fdtNode = sound.depth p.fdtNode + 1 :=
  sound.depth_subnode _ _ h.node

/-- Devices of one node, by induction on the depth of the node. -/
theorem RegistryInv.eq_of_node (h : RegistryInv bus root σ) (sound : bus.tree.Sound)
    {d d' : DtDeviceRecord} (hd : d ∈ σ.devices) (hd' : d' ∈ σ.devices)
    (hnode : d.fdtNode = d'.fdtNode) : d = d' := by
  induction hdepth : sound.depth d.fdtNode generalizing d d' with
  | zero =>
      have hroot (e : DtDeviceRecord) (he : e ∈ σ.devices)
          (hzero : sound.depth e.fdtNode = 0) : e = root := by
        by_contra hne
        obtain ⟨p, -, hchild⟩ := h.below e he hne
        rw [hchild.depth sound] at hzero
        exact nomatch hzero
      rw [hroot d hd hdepth, hroot d' hd' (hnode ▸ hdepth)]
  | succ k ih =>
      have hroot (e : DtDeviceRecord) (hsucc : sound.depth e.fdtNode = k + 1) : e ≠ root := by
        intro heq
        rw [heq, h.isRoot.node, sound.depth_root] at hsucc
        exact nomatch hsucc
      have hdepth' : sound.depth d'.fdtNode = k + 1 := hnode ▸ hdepth
      obtain ⟨p, hp, hchild⟩ := h.below d hd (hroot d hdepth)
      obtain ⟨p', hp', hchild'⟩ := h.below d' hd' (hroot d' hdepth')
      have hparents : p.fdtNode = p'.fdtNode :=
        sound.parent_unique _ _ _ hchild.node (hnode ▸ hchild'.node)
      have hsame : p = p' := by
        refine ih hp hp' hparents ?_
        have hd := hchild.depth sound
        omega
      have hname : d.name = d'.name := by
        have hname := hchild'.name
        rw [← hnode, hchild.name] at hname
        exact Option.some.inj hname
      exact h.eq_of_path hd hd' (by rw [hchild.path, hchild'.path, hsame, hname])

theorem RegistryInv.node_of_path (h : RegistryInv bus root σ)
    (hapart : bus.tree.PathNodesApart) {p d : DtDeviceRecord} (hp : p ∈ σ.devices)
    (hd : d ∈ σ.devices) (node : Int) (name : AsciiStr)
    (hnode : node ∈ bus.tree.subnodes p.fdtNode) (hname : bus.tree.getName node = some name)
    (hpath : d.devicePath = p.devicePath ++ [dtPathNode name]) : d.fdtNode = node := by
  have hempty (e : DtDeviceRecord) (he : e ∈ σ.devices) : e.devicePath ≠ [] := by
    intro hnil
    by_cases hroot : e = root
    · rw [hroot, h.isRoot.path] at hnil
      exact nomatch hnil
    · obtain ⟨q, -, hchild⟩ := h.below e he hroot
      rw [hchild.path] at hnil
      exact List.append_ne_nil_of_right_ne_nil _ (List.cons_ne_nil _ _) hnil
  have hroot : d ≠ root := by
    intro heq
    rw [heq, h.isRoot.path] at hpath
    have hlength := congrArg List.length hpath
    rw [List.length_append] at hlength
    exact hempty p hp (List.length_eq_zero_iff.mp (by simpa using hlength))
  obtain ⟨q, hq, hchild⟩ := h.below d hd hroot
  obtain ⟨hpaths, hnodes⟩ := List.append_inj' (hchild.path.symm.trans hpath) rfl
  have hsame : q = p := h.eq_of_path hq hp hpaths
  exact hapart p.fdtNode _ (hsame ▸ hchild.node) _ hnode _ _ hchild.name hname
    (List.singleton_inj.mp hnodes)

/-- The device of a node below a registered device is created below it. -/
theorem RegistryInv.isChildOf_of_node (h : RegistryInv bus root σ) (sound : bus.tree.Sound)
    {p d : DtDeviceRecord} (hp : p ∈ σ.devices) (hd : d ∈ σ.devices)
    (hnode : d.fdtNode ∈ bus.tree.subnodes p.fdtNode) : IsChildOf bus p d := by
  have hroot : d ≠ root := by
    intro heq
    have hdepth := sound.depth_subnode _ _ hnode
    rw [heq, h.isRoot.node, sound.depth_root] at hdepth
    exact nomatch hdepth
  obtain ⟨q, hq, hchild⟩ := h.below d hd hroot
  exact h.eq_of_node sound hq hp (sound.parent_unique _ _ _ hchild.node hnode) ▸ hchild

theorem RegistryInv.path_of_node (h : RegistryInv bus root σ) (sound : bus.tree.Sound)
    {p d : DtDeviceRecord} (hp : p ∈ σ.devices) (hd : d ∈ σ.devices) (name : AsciiStr)
    (hnode : d.fdtNode ∈ bus.tree.subnodes p.fdtNode)
    (hname : bus.tree.getName d.fdtNode = some name) :
    d.devicePath = p.devicePath ++ [dtPathNode name] := by
  have hchild := h.isChildOf_of_node sound hp hd hnode
  rw [hchild.path, Option.some.inj (hchild.name.symm.trans hname)]

end Unique

section Scan

variable {bus : DtBusDriver} {root : DtDeviceRecord} {σ : Registry} (services : ScanServices)
  (agent : EfiHandle) (parent : DtDeviceRecord) (remaining : Option DevicePath)

def dtDeviceScanOutcomes (bus : DtBusDriver) : List Int → Registry → List ScanOutcome
  | [], _ => []
  | node :: rest, σ =>
    (dtDeviceScanNode bus services σ agent parent remaining node).1 ::
      dtDeviceScanOutcomes bus rest
        (dtDeviceScanNode bus services σ agent parent remaining node).2

/-- No creation and no registration of a scan fails. -/
def ScanSucceeds (bus : DtBusDriver) (σ : Registry) (nodes : List Int) : Prop :=
  ∀ e, .failed e ∉ dtDeviceScanOutcomes services agent parent remaining bus nodes σ

theorem dtDeviceScanNodes_cons (bus : DtBusDriver) (σ : Registry) (node : Int)
    (nodes : List Int) :
    dtDeviceScanNodes bus services σ agent parent remaining (node :: nodes) =
      dtDeviceScanNodes bus services
        (dtDeviceScanNode bus services σ agent parent remaining node).2 agent parent remaining
        nodes := rfl

theorem dtDeviceScanNodes_inv (nodes : List Int) (h : RegistryInv bus root σ)
    (hparent : parent ∈ σ.devices) (hnodes : ∀ n ∈ nodes, n ∈ bus.tree.subnodes parent.fdtNode) :
    RegistryInv bus root (dtDeviceScanNodes bus services σ agent parent remaining nodes) ∧
      ∀ d ∈ σ.devices,
        d ∈ (dtDeviceScanNodes bus services σ agent parent remaining nodes).devices := by
  induction nodes generalizing σ with
  | nil => exact ⟨h, fun d hd => hd⟩
  | cons node nodes ih =>
      have hscan := dtDeviceScanNode_cases h services agent parent remaining node
      have hinv := hscan.inv h hparent (hnodes node List.mem_cons_self)
      rw [dtDeviceScanNodes_cons]
      have hrest := ih hinv (hscan.mem parent hparent)
        (fun n hn => hnodes n (List.mem_cons_of_mem node hn))
      exact ⟨hrest.1, fun d hd => hrest.2 d (hscan.mem d hd)⟩

/-- The remaining path, if there is one, starts with the name. -/
def Selects (name : AsciiStr) : Prop :=
  ∀ path, remaining = some path → devicePathNodeName path = name

/-- A scan in which nothing fails leaves a device for every node it selects. -/
theorem dtDeviceScanNodes_complete (hapart : bus.tree.PathNodesApart)
    (nodes : List Int) (h : RegistryInv bus root σ) (hparent : parent ∈ σ.devices)
    (hnodes : ∀ n ∈ nodes, n ∈ bus.tree.subnodes parent.fdtNode)
    (hsucceeds : ScanSucceeds services agent parent remaining bus σ nodes)
    (node : Int) (hnode : node ∈ nodes) (name : AsciiStr)
    (hname : bus.tree.getName node = some name) (hselects : Selects remaining name) :
    ∃ d ∈ (dtDeviceScanNodes bus services σ agent parent remaining nodes).devices,
      d.fdtNode = node := by
  induction nodes generalizing σ with
  | nil => exact nomatch hnode
  | cons first nodes ih =>
      have hscan := dtDeviceScanNode_cases h services agent parent remaining first
      have hinv := hscan.inv h hparent (hnodes first List.mem_cons_self)
      have hrest : ∀ n ∈ nodes, n ∈ bus.tree.subnodes parent.fdtNode :=
        fun n hn => hnodes n (List.mem_cons_of_mem first hn)
      have hsucceeds' : ScanSucceeds services agent parent remaining bus
          (dtDeviceScanNode bus services σ agent parent remaining first).2 nodes :=
        fun e he => hsucceeds e (List.mem_cons_of_mem _ he)
      rw [dtDeviceScanNodes_cons]
      by_cases hlater : node ∈ nodes
      · exact ih hinv (hscan.mem parent hparent) hrest hsucceeds' hlater
      · have hfirst : node = first := (List.mem_cons.mp hnode).resolve_right hlater
        subst hfirst
        have hkept := (dtDeviceScanNodes_inv services agent parent remaining nodes hinv
          (hscan.mem parent hparent) hrest).2
        have hfails (e : EfiError) :
            (dtDeviceScanNode bus services σ agent parent remaining node).1 ≠ .failed e :=
          fun heq => hsucceeds e (heq ▸ List.mem_cons_self)
        generalize hresult : dtDeviceScanNode bus services σ agent parent remaining node = result
          at hscan hkept hfails ⊢
        obtain ⟨outcome, σ'⟩ := result
        dsimp only at hscan hkept hfails ⊢
        cases hscan with
        | unnamed hnone => exact nomatch hname.symm.trans hnone
        | skipped path name' hname' hremaining hother =>
            have hsame := Option.some.inj (hname.symm.trans hname')
            exact absurd (hsame ▸ hselects path hremaining) hother
        | seen name' d hname' hd hpath =>
            have hsame := Option.some.inj (hname.symm.trans hname')
            refine ⟨d, hkept d hd, ?_⟩
            exact h.node_of_path hapart hparent hd node name'
              (hnodes node List.mem_cons_self) hname' hpath
        | failed e => exact absurd rfl (hfails e)
        | created name' d hname' hnew hhandle =>
            refine ⟨d, hkept d ?_, hnew.node_eq⟩
            rw [Registry.devices_attach]
            exact List.mem_append_right _ (List.mem_singleton_self d)

theorem dtDeviceScanNodes_again (sound : bus.tree.Sound) (nodes : List Int)
    (h : RegistryInv bus root σ) (hparent : parent ∈ σ.devices)
    (hnodes : ∀ n ∈ nodes, n ∈ bus.tree.subnodes parent.fdtNode)
    (hall : ∀ n ∈ nodes, ∃ d ∈ σ.devices, d.fdtNode = n) :
    dtDeviceScanNodes bus services σ agent parent remaining nodes = σ := by
  induction nodes with
  | nil => rfl
  | cons node nodes ih =>
      have hscan := dtDeviceScanNode_cases h services agent parent remaining node
      have hsame : (dtDeviceScanNode bus services σ agent parent remaining node).2 = σ := by
        generalize dtDeviceScanNode bus services σ agent parent remaining node = result at hscan ⊢
        obtain ⟨outcome, σ'⟩ := result
        dsimp only at hscan ⊢
        cases hscan with
        | unnamed hname => rfl
        | skipped path name hname hremaining hother => rfl
        | seen name d hname hd hpath => rfl
        | failed e => rfl
        | created name d hname hnew hhandle =>
            obtain ⟨d', hd', hnode⟩ := hall node List.mem_cons_self
            have hpath := h.path_of_node sound hparent hd' name
              (hnode ▸ hnodes node List.mem_cons_self) (hnode ▸ hname)
            exact absurd (hpath.trans hnew.path_eq.symm) (hnew.path_fresh d' hd')
      rw [dtDeviceScanNodes_cons, hsame]
      exact ih (fun n hn => hnodes n (List.mem_cons_of_mem node hn))
        (fun n hn => hall n (List.mem_cons_of_mem node hn))

end Scan

/-- What holds in every run of scans and removals: no driver has a device open. -/
structure HistoryInv (bus : DtBusDriver) (root : DtDeviceRecord) (σ : Registry) : Prop
    extends RegistryInv bus root σ where
  linked : σ.Linked bus ∅
  undriven (handle : EfiHandle) (e : OpenEntry) (he : e ∈ σ.opens handle) :
    e.attributes ≠ .byDriver

section Remove

variable {bus : DtBusDriver} {root : DtDeviceRecord} {σ σ' : Registry}
  {services : RemoveServices} {child agent : EfiHandle}

theorem SameHeld.undriven (hsame : SameHeld σ σ')
    (h : ∀ handle, ∀ e ∈ σ.opens handle, e.attributes ≠ .byDriver) (handle : EfiHandle)
    (e : OpenEntry) (he : e ∈ σ'.opens handle) : e.attributes ≠ .byDriver := by
  intro hdriver
  have hheld : ¬ e.IsTransient := by simp [OpenEntry.IsTransient, hdriver]
  exact h handle e ((hsame.held handle e hheld).mp he) hdriver

theorem HistoryInv.sameHeld (h : HistoryInv bus root σ) (hsame : SameHeld σ σ') :
    HistoryInv bus root σ' :=
  ⟨hsame.registryInv h.toRegistryInv, hsame.linked h.linked, hsame.undriven h.undriven⟩

/-- Without drivers, an uninstall that fails has closed opens that did not keep the protocol. -/
theorem HistoryInv.removeHandle_cases (h : HistoryInv bus root σ) (services : RemoveServices)
    (child parent agent : EfiHandle) :
    RemoveResult services σ child parent agent (SameHeld (σ.closing child parent agent))
      (dtDeviceRemoveHandle services σ child parent agent).1
      (dtDeviceRemoveHandle services σ child parent agent).2 := by
  refine dtDeviceRemoveHandle_cases _ fun hclosing => Registry.uninstall_cases _ _ _ _ (.refl _)
    (fun σ' hσ' => hσ'.trans (.closeTransient σ' child)) fun hdriver => ?_
  obtain ⟨e, he, hattributes⟩ := List.any_eq_true.mp hdriver
  have hopened := (Registry.mem_opens_close _ _ _ _ _ _).mp he
  exact absurd (of_decide_eq_true hattributes)
    ((sameHeld_opened _ _ hclosing.mem).undriven h.undriven child e hopened.1)

/-- A registered child of a device that has no children itself. -/
structure RemovableChild (bus : DtBusDriver) (σ : Registry) (p d : DtDeviceRecord)
    (agent : EfiHandle) : Prop where
  mem : d ∈ σ.devices
  isChildOf : IsChildOf bus p d
  listed : ⟨agent, d.handle, .byChildController⟩ ∈ σ.opens p.handle
  leaf (e : OpenEntry) (he : e ∈ σ.opens d.handle) : e.attributes ≠ .byChildController

theorem RemoveResult.removed_child (h : HistoryInv bus root σ) {p : DtDeviceRecord}
    (hp : p ∈ σ.devices) (hchecked : ClosesOnlyChild services σ child p.handle agent)
    (hresult : RemoveResult services σ child p.handle agent
      (SameHeld (σ.closing child p.handle agent)) (.ok ()) σ') :
    ∃ d σ₁, d.handle = child ∧ RemovableChild bus σ p d agent ∧
      SameHeld (σ.closing child p.handle agent) σ₁ ∧ σ' = σ₁.removed d := by
  cases hresult with
  | removed d σ₁ hd hhandle hclosing hsame hidle =>
      subst hhandle
      have hlisted := hclosing.listed hchecked
      have hbelow := h.child_of_listed hp hd hlisted
      refine ⟨d, σ₁, rfl, ⟨hd, hbelow, hlisted, fun e he hchild => ?_⟩, hsame, rfl⟩
      have hheld := not_isTransient_of_child hchild
      refine hheld (hidle e ((hsame.held _ e hheld).mpr ?_))
      refine (mem_opens_closing _ _ _ e _ hheld).mpr ⟨he, fun hmatch => hbelow.ne ?_⟩
      exact h.eq_of_handle hp hd hmatch.1.symm

theorem RemoveResult.inv {status : EfiStatus} (h : HistoryInv bus root σ) {p : DtDeviceRecord}
    (hp : p ∈ σ.devices) (hchecked : ClosesOnlyChild services σ child p.handle agent)
    (hreopen : services.reopen = .ok ())
    (hresult : RemoveResult services σ child p.handle agent
      (SameHeld (σ.closing child p.handle agent)) status σ') :
    HistoryInv bus root σ' := by
  have hundriven {σ₁ : Registry} (hchild : child ∈ σ.handles)
      (hsame : SameHeld (σ.closing child p.handle agent) σ₁) :=
    hsame.undriven fun handle e he => (sameHeld_opened _ _ hchild).undriven h.undriven handle e
      ((Registry.mem_opens_close _ _ _ _ _ _).mp he).1
  have hletGo (d : DtDeviceRecord) (hd : d ∈ σ.devices) (hhandle : d.handle = child)
      (hclosing : Closing services σ child p.handle agent) {σ₁ : Registry}
      (hsame : SameHeld (σ.closing child p.handle agent) σ₁) : LetGo bus root ∅ p d σ₁ := by
    subst hhandle
    exact (h.toRegistryInv.letGo h.linked hp hd (hclosing.listed hchecked)
      fun _ _ _ => Set.notMem_empty _).sameHeld hsame
  cases hresult with
  | unknown hunknown => exact h
  | refused e hchild => exact h.sameHeld (sameHeld_opened _ _ hchild)
  | kept e σ₁ hclosing hsame =>
      obtain ⟨d, hd, rfl⟩ := List.mem_map.mp hclosing.mem
      obtain ⟨hinv, hlinked⟩ := (hletGo d hd rfl hclosing hsame).relinked agent
      refine ⟨hinv, hlinked, fun handle e he => ?_⟩
      cases (σ₁.mem_opens_addOpen _ _ e handle).mp he with
      | inl hold => exact hundriven hclosing.mem hsame handle e hold
      | inr hadded =>
          rw [hadded.2]
          exact nofun
  | lost e σ₁ hclosing hsame hfails =>
      exact absurd (hsame.handles ▸ σ.mem_handles p hp) (hfails hreopen)
  | removed d σ₁ hd hhandle hclosing hsame hidle =>
      obtain ⟨hinv, hlinked⟩ := (hletGo d hd hhandle hclosing hsame).removed (hhandle ▸ hidle)
      exact ⟨hinv, hlinked, fun handle e he => hundriven hclosing.mem hsame handle e
        ((σ₁.mem_opens_removed d e handle).mp he).2⟩

end Remove

/-- The bus driver with its root device, as its entry point leaves it. -/
structure RootedBus where
  bus : DtBusDriver
  sound : bus.tree.Sound
  services : ScanServices
  rootName : AsciiStr
  root : DtDeviceRecord
  initial : Registry
  created : createRootHandle bus services ⟨[], fun _ => [], []⟩ rootName 0 = (.ok root, initial)

theorem dtDeviceRegister_root (services : ScanServices) (σ σ' : Registry)
    (r r' : DtDeviceRecord) (h : dtDeviceRegister services σ r none 0 = (.ok (), r', σ')) :
    ∃ handle, r' = r.withHandle handle ∧ σ' = σ.install r' := by
  rw [dtDeviceRegister] at h
  cases hhandle : services.installHandle σ r.fdtNode with
  | error e =>
      rw [hhandle] at h
      cases congrArg Prod.fst h
  | ok handle =>
      rw [hhandle] at h
      cases h
      exact ⟨handle, rfl, rfl⟩

/-- The registry holds the root device alone to begin with. -/
structure RootedBus.InitialState (b : RootedBus) : Prop where
  isRoot : IsRoot b.bus b.root
  devices : b.initial.devices = [b.root]
  opens (handle : EfiHandle) : b.initial.opens handle = []
  critical : b.initial.criticalDevices = ([b.root].filter (·.isCritical)).map (·.dtIo)

theorem RootedBus.initialState (b : RootedBus) : b.InitialState := by
  have hcreated := b.created
  rw [createRootHandle] at hcreated
  split at hcreated
  · exact nomatch congrArg Prod.fst hcreated
  · obtain ⟨e, hcreate, -⟩ | ⟨r, hcreate, hnew⟩ := dtDeviceCreate_cases b.bus b.services
      ⟨[], fun _ => [], []⟩ b.bus.tree.rootNode b.rootName none 0
    · rw [hcreate] at hcreated
      exact nomatch congrArg Prod.fst hcreated
    · rw [hcreate] at hcreated
      dsimp only at hcreated
      generalize hregister : dtDeviceRegister b.services
        (Registry.insertCritical ⟨[], fun _ => [], []⟩ r) r none 0 = result at hcreated
      obtain ⟨status, r', σ⟩ := result
      cases status with
      | error e => exact nomatch congrArg Prod.fst hcreated
      | ok u =>
          obtain ⟨hroot, hinitial⟩ := Prod.mk.inj hcreated
          cases Except.ok.inj hroot
          obtain ⟨handle, hr', hσ⟩ := dtDeviceRegister_root _ _ _ _ _ hregister
          have hnew' := hr' ▸ hnew.withHandle handle
          have hcritical := hr' ▸ insertCritical_withHandle ⟨[], fun _ => [], []⟩ r handle
          refine ⟨⟨hnew'.node_eq, ?_, hnew'.parent_eq,
            hnew'.node_eq.symm ▸ hnew'.critical_eq⟩, ?_, fun handle' => ?_, ?_⟩
          · rw [hnew'.path_eq, hnew'.name_eq, pathOfParent, List.nil_append]
          · simp [← hinitial, hσ, Registry.install]
          · simp [← hinitial, hσ, Registry.install]
          · rw [← hinitial, hσ, ← hcritical, Registry.install, Registry.insertCritical]
            cases hroot : b.root.isCritical with
            | false => simp [hroot]
            | true => simp [hroot]

theorem RootedBus.inv (b : RootedBus) : RegistryInv b.bus b.root b.initial := by
  have h := b.initialState
  have hhandles : b.initial.handles = [b.root.handle] := by
    rw [Registry.handles, h.devices, List.map_singleton]
  refine ⟨h.isRoot, ?_, ?_, ?_, ?_, ?_, ?_, ?_, fun handle _ => h.opens handle, ?_⟩
  · rw [h.devices]
    exact List.mem_singleton_self b.root
  · rw [hhandles]
    exact List.nodup_singleton _
  · rw [h.devices]
    exact List.nodup_singleton _
  · rw [h.devices]
    exact List.nodup_singleton _
  · intro d hd hne
    rw [h.devices] at hd
    exact absurd (List.mem_singleton.mp hd) hne
  · intro handle e he
    rw [h.opens] at he
    cases he
  · intro handle e e' he
    rw [h.opens] at he
    cases he
  · rw [h.devices, h.critical]

theorem RootedBus.linked (b : RootedBus) : b.initial.Linked b.bus ∅ := by
  intro p hp d hd hchild
  rw [b.initialState.devices, List.mem_singleton] at hp hd
  exact absurd (hp.trans hd.symm) hchild.ne

inductive ChildrenCall
  | scan (device : DtDeviceRecord) (agent : EfiHandle) (remaining : Option DevicePath)
      (services : ScanServices)
  | remove (device : DtDeviceRecord) (child agent : EfiHandle) (services : RemoveServices)

namespace ChildrenCall

def device : ChildrenCall → DtDeviceRecord
  | .scan device _ _ _ => device
  | .remove device _ _ _ => device

def apply (bus : DtBusDriver) (σ : Registry) : ChildrenCall → EfiStatus × Registry
  | .scan device agent remaining services =>
    dtIoScanChildren bus services σ (some device) agent remaining
  | .remove device child agent services => dtIoRemoveChild services σ device child agent

/-- A removal closes an open by child controller only, and the parent can be opened
again when the uninstall is refused. -/
def Checked (σ : Registry) : ChildrenCall → Prop
  | .scan _ _ _ _ => True
  | .remove device child agent services =>
    ClosesOnlyChild services σ child device.handle agent ∧ services.reopen = .ok ()

end ChildrenCall

/-- The registries that scans and removals reach, all of them allowed by `P`. -/
inductive ChildrenRun (b : RootedBus) (P : Registry → ChildrenCall → Prop) : Registry → Prop
  | start : ChildrenRun b P b.initial
  | call {σ : Registry} (c : ChildrenCall) (run : ChildrenRun b P σ)
      (hdevice : c.device ∈ σ.devices) (hcall : P σ c) :
      ChildrenRun b P (c.apply b.bus σ).2

/-- A removal takes away the named child of its parent and nothing else. -/
structure RemovesExactly (bus : DtBusDriver) (σ : Registry) (p : DtDeviceRecord)
    (child : EfiHandle) (σ' : Registry) : Prop where
  named : ∃ d ∈ σ.devices, d.handle = child ∧ IsChildOf bus p d ∧
    σ.HoldsChild p.handle child ∧ σ'.devices = σ.devices.erase d
  others (handle controller : EfiHandle) (hne : controller ≠ child) :
    σ'.HoldsChild handle controller ↔ σ.HoldsChild handle controller

/-- A full scan has left one device for every child node. -/
structure ScanComplete (bus : DtBusDriver) (p : DtDeviceRecord) (σ : Registry) : Prop where
  children (n : Int) (hn : n ∈ bus.tree.subnodes p.fdtNode) :
    ∃ d ∈ σ.devices, d.fdtNode = n ∧ ∀ d' ∈ σ.devices, d'.fdtNode = n → d' = d
  again (services : ScanServices) (agent : EfiHandle) :
    dtIoScanChildren bus services σ (some p) agent none = (.ok (), σ)

/-- Registered devices and nodes correspond, and the calls that `P` allows keep to it. -/
structure OneDevicePerNode (bus : DtBusDriver) (root : DtDeviceRecord)
    (P : Registry → ChildrenCall → Prop) (σ : Registry) : Prop where
  unique (d d' : DtDeviceRecord) (hd : d ∈ σ.devices) (hd' : d' ∈ σ.devices)
    (hnode : d.fdtNode = d'.fdtNode) : d = d'
  parent (d : DtDeviceRecord) (hd : d ∈ σ.devices) (hne : d ≠ root) :
    ∃ p ∈ σ.devices, d.fdtNode ∈ bus.tree.subnodes p.fdtNode ∧
      d.device.parent? = some p.device ∧ σ.HoldsChild p.handle d.handle
  removal (p : DtDeviceRecord) (child agent : EfiHandle) (services : RemoveServices)
    (hp : p ∈ σ.devices) (hcall : P σ (.remove p child agent services))
    (hok : (dtIoRemoveChild services σ p child agent).1 = .ok ()) :
    RemovesExactly bus σ p child (dtIoRemoveChild services σ p child agent).2
  complete (p : DtDeviceRecord) (agent : EfiHandle) (services : ScanServices)
    (hp : p ∈ σ.devices) (hcall : P σ (.scan p agent none services))
    (hsucceeds : ScanSucceeds services agent p none bus σ (bus.tree.subnodes p.fdtNode)) :
    ScanComplete bus p (dtIoScanChildren bus services σ (some p) agent none).2

section History

variable {bus : DtBusDriver} {root : DtDeviceRecord} {σ : Registry}

theorem dtDeviceScan_inv (h : RegistryInv bus root σ) (services : ScanServices)
    (agent : EfiHandle) (p : DtDeviceRecord) (remaining : Option DevicePath)
    (hp : p ∈ σ.devices) :
    RegistryInv bus root (dtDeviceScan bus services σ agent p remaining).2 := by
  have hnodes := (dtDeviceScanNodes_inv services agent p remaining _ h hp (fun n hn => hn)).1
  rw [dtDeviceScan]
  split
  · exact h
  · split
    · exact hnodes
    · exact hnodes

theorem dtDeviceScan_induct (h : RegistryInv bus root σ) (services : ScanServices)
    (agent : EfiHandle) (p : DtDeviceRecord) (remaining : Option DevicePath) (hp : p ∈ σ.devices)
    {P : Registry → Prop} (hself : P σ)
    (hstep : ∀ σ node o σ', RegistryInv bus root σ → node ∈ bus.tree.subnodes p.fdtNode → P σ →
      NodeScanned bus σ agent p remaining node o σ' → P σ') :
    P (dtDeviceScan bus services σ agent p remaining).2 := by
  have hnodes (nodes : List Int) (hnodes : ∀ n ∈ nodes, n ∈ bus.tree.subnodes p.fdtNode) :
      P (dtDeviceScanNodes bus services σ agent p remaining nodes) := by
    induction nodes generalizing σ with
    | nil => exact hself
    | cons node nodes ih =>
        have hscan := dtDeviceScanNode_cases h services agent p remaining node
        have hnode := hnodes node List.mem_cons_self
        exact ih (hscan.inv h hp hnode) (hscan.mem p hp) (hstep σ node _ _ h hnode hself hscan)
          fun n hn => hnodes n (List.mem_cons_of_mem node hn)
  have hall := hnodes (bus.tree.subnodes p.fdtNode) fun n hn => hn
  rw [dtDeviceScan]
  split
  · exact hself
  · split
    · exact hall
    · exact hall

theorem dtDeviceScan_linked (h : RegistryInv bus root σ) {X : Set EfiHandle}
    (hlinked : σ.Linked bus X) (services : ScanServices) (agent : EfiHandle) (p : DtDeviceRecord)
    (remaining : Option DevicePath) (hp : p ∈ σ.devices) :
    (dtDeviceScan bus services σ agent p remaining).2.Linked bus X :=
  dtDeviceScan_induct h services agent p remaining hp (P := Registry.Linked bus X) hlinked
    fun _ _ _ _ h hnode hlinked hscan => hscan.linked h hlinked hnode

theorem HistoryInv.scan (h : HistoryInv bus root σ) (services : ScanServices) (agent : EfiHandle)
    (p : DtDeviceRecord) (remaining : Option DevicePath) (hp : p ∈ σ.devices) :
    HistoryInv bus root (dtDeviceScan bus services σ agent p remaining).2 where
  toRegistryInv := dtDeviceScan_inv h.toRegistryInv services agent p remaining hp
  linked := dtDeviceScan_linked h.toRegistryInv h.linked services agent p remaining hp
  undriven := dtDeviceScan_induct h.toRegistryInv services agent p remaining hp h.undriven
    fun _ _ _ _ h _ hundriven hscan => hscan.undriven h hundriven

theorem ChildrenRun.inv {b : RootedBus} (run : ChildrenRun b ChildrenCall.Checked σ) :
    HistoryInv b.bus b.root σ := by
  induction run with
  | start =>
      refine ⟨b.inv, b.linked, fun handle e he => ?_⟩
      rw [b.initialState.opens] at he
      cases he
  | @call σ c run hdevice hcall ih =>
      cases c with
      | scan device agent remaining services =>
          have hd : device ∈ σ.devices := hdevice
          exact ih.scan services agent device remaining hd
      | remove device child agent services =>
          exact (ih.removeHandle_cases services child device.handle agent).inv ih hdevice hcall.1
            hcall.2

theorem HistoryInv.removesExactly (h : HistoryInv bus root σ) (services : RemoveServices)
    {p : DtDeviceRecord} (child agent : EfiHandle) (hp : p ∈ σ.devices)
    (hchecked : ClosesOnlyChild services σ child p.handle agent)
    (hok : (dtIoRemoveChild services σ p child agent).1 = .ok ()) :
    RemovesExactly bus σ p child (dtIoRemoveChild services σ p child agent).2 := by
  have hresult := h.removeHandle_cases services child p.handle agent
  rw [dtIoRemoveChild] at hok ⊢
  rw [hok] at hresult
  obtain ⟨d, σ₁, rfl, hremovable, hsame, hstate⟩ := hresult.removed_child h hp hchecked
  rw [hstate]
  have hhandles : σ₁.handles.Nodup := hsame.handles ▸ h.handles
  have hdevices := (σ₁.devices_removed d hhandles (hsame.devices ▸ hremovable.mem)).trans
    (congrArg (·.erase d) hsame.devices)
  refine ⟨⟨d, hremovable.mem, rfl, hremovable.isChildOf, ⟨_, hremovable.listed, rfl, rfl⟩,
    hdevices⟩, ?_⟩
  intro handle controller hne
  refine exists_congr fun e => and_congr_left fun hchild => ?_
  have hheld := not_isTransient_of_child hchild.2
  rw [Registry.mem_opens_removed, hsame.held handle e hheld,
    mem_opens_closing _ _ _ e handle hheld]
  constructor
  · exact fun hold => hold.2.1
  · intro hold
    refine ⟨fun heq => ?_, hold, fun hmatch => hne (hchild.1 ▸ hmatch.2.2)⟩
    exact hremovable.leaf e (heq ▸ hold) hchild.2

theorem dtIoScanChildren_full (sound : bus.tree.Sound) (services : ScanServices)
    (agent : EfiHandle) (p : DtDeviceRecord) :
    dtIoScanChildren bus services σ (some p) agent none =
      (.ok (), dtDeviceScanNodes bus services σ agent p none (bus.tree.subnodes p.fdtNode)) := by
  simp [dtIoScanChildren, dtDeviceScan, sound.ended]

theorem RegistryInv.scanComplete (h : RegistryInv bus root σ) (sound : bus.tree.Sound)
    (hapart : bus.tree.PathNodesApart) (services : ScanServices) (agent : EfiHandle)
    {p : DtDeviceRecord} (hp : p ∈ σ.devices)
    (hsucceeds : ScanSucceeds services agent p none bus σ (bus.tree.subnodes p.fdtNode)) :
    ScanComplete bus p (dtIoScanChildren bus services σ (some p) agent none).2 := by
  rw [dtIoScanChildren_full sound]
  dsimp only
  obtain ⟨hinv, hkept⟩ := dtDeviceScanNodes_inv services agent p none
    (bus.tree.subnodes p.fdtNode) h hp (fun n hn => hn)
  have hdevice (n : Int) (hn : n ∈ bus.tree.subnodes p.fdtNode) :
      ∃ d ∈ (dtDeviceScanNodes bus services σ agent p none
        (bus.tree.subnodes p.fdtNode)).devices, d.fdtNode = n := by
    obtain ⟨name, hname⟩ := sound.named _ _ hn
    exact dtDeviceScanNodes_complete services agent p none hapart _ h hp (fun n hn => hn)
      hsucceeds n hn name hname nofun
  refine ⟨fun n hn => ?_, fun services' agent' => ?_⟩
  · obtain ⟨d, hd, hnode⟩ := hdevice n hn
    exact ⟨d, hd, hnode, fun d' hd' hnode' =>
      hinv.eq_of_node sound hd' hd (hnode'.trans hnode.symm)⟩
  · rw [dtIoScanChildren_full sound, dtDeviceScanNodes_again services' agent' p none sound _ hinv
      (hkept p hp) (fun n hn => hn) hdevice]

end History

/-- A run of checked calls over a tree whose siblings have distinct path nodes. -/
structure CheckedHistory where
  rooted : RootedBus
  apart : rooted.bus.tree.PathNodesApart
  registry : Registry
  run : ChildrenRun rooted ChildrenCall.Checked registry

theorem oneDevicePerNode (h : CheckedHistory) :
    OneDevicePerNode h.rooted.bus h.rooted.root ChildrenCall.Checked h.registry where
  unique d d' hd hd' hnode := h.run.inv.eq_of_node h.rooted.sound hd hd' hnode
  parent d hd hne := by
    obtain ⟨p, hp, hchild⟩ := h.run.inv.below d hd hne
    exact ⟨p, hp, hchild.node, hchild.parent,
      h.run.inv.linked p hp d hd hchild (Set.notMem_empty _)⟩
  removal p child agent services hp hcall hok :=
    h.run.inv.removesExactly services child agent hp hcall.1 hok
  complete p agent services hp _ hsucceeds :=
    h.run.inv.toRegistryInv.scanComplete h.rooted.sound h.apart services agent hp hsucceeds

/-- A root with the one child `a`. -/
def oneChildTree : DtTree where
  mem _ := 0
  getprop _ _ := .error .notFound
  rootNode := 0
  subnodes n := if n = 0 then [1] else []
  subnodesEnd _ := -FDT_ERR_NOTFOUND
  getName n := if n = 1 then some [0x61] else none
  nodeCheckCompatible _ _ := 1
  getAlias _ := none

theorem oneChildTree_subnodes (n m : Int) (h : m ∈ oneChildTree.subnodes n) : n = 0 ∧ m = 1 := by
  rw [oneChildTree] at h
  dsimp only at h
  split at h
  · next hn => exact ⟨hn, List.mem_singleton.mp h⟩
  · exact nomatch h

def oneChildTree_sound : oneChildTree.Sound where
  nodes := [0, 1]
  root_mem := by decide
  subnode_mem n m h := by
    rw [(oneChildTree_subnodes n m h).2]
    decide
  depth n := if n = 0 then 0 else 1
  maxDepth := 1
  depth_le n := by split <;> decide
  depth_root := rfl
  depth_subnode n m h := by
    obtain ⟨rfl, rfl⟩ := oneChildTree_subnodes n m h
    rfl
  parent_unique n n' m h h' :=
    (oneChildTree_subnodes n m h).1.trans (oneChildTree_subnodes n' m h').1.symm
  named n m h := ⟨[0x61], by rw [(oneChildTree_subnodes n m h).2]; rfl⟩
  distinct n m m' h h' _ :=
    (oneChildTree_subnodes n m h).2.trans (oneChildTree_subnodes n m' h').2.symm
  terminated m name h := by
    rw [oneChildTree] at h
    dsimp only at h
    split at h
    · cases h
      decide
    · exact nomatch h
  ended n := rfl

def oneChildDriver : DtBusDriver := ⟨oneChildTree, true, DtProperty.ofBuf 0 0⟩

def oneChildBus : RootedBus where
  bus := oneChildDriver
  sound := oneChildTree_sound
  services := nextServices
  rootName := [0x44]
  root := ⟨⟨.root ⟨1, 1, 0, 2, 1, 2, 1, true, 0, none, MAX_UINT64⟩, none, .okay⟩, [0x44],
    [dtPathNode [0x44]]⟩
  initial := (createRootHandle oneChildDriver nextServices ⟨[], fun _ => [], []⟩ [0x44] 0).2
  created := Prod.ext rfl rfl

/-- The registry once the root is scanned, and the device of the child. -/
def scannedOnce : Registry :=
  (dtIoScanChildren oneChildDriver nextServices oneChildBus.initial (some oneChildBus.root) 7
    none).2

def onlyChild : DtDeviceRecord := scannedOnce.devices.getD 1 oneChildBus.root

def idleDrivers : DriverServices := ⟨fun σ _ => (.ok (), σ), fun σ _ => σ⟩

/-- The child takes its own handle for that of a child and removes itself. -/
theorem child_removes_itself :
    ¬ ∀ (b : RootedBus) (σ : Registry), ChildrenRun b (fun _ _ => True) σ →
      OneDevicePerNode b.bus b.root (fun _ _ => True) σ := by
  intro hclaim
  have run : ChildrenRun oneChildBus (fun _ _ => True) scannedOnce :=
    .call (.scan oneChildBus.root 7 none nextServices) .start oneChildBus.inv.root_mem trivial
  have hchild : onlyChild ∈ scannedOnce.devices := List.mem_of_getElem? (i := 1) rfl
  have hremoved : (dtIoRemoveChild ⟨true, idleDrivers, .ok (), .ok ()⟩ scannedOnce onlyChild
      onlyChild.handle 7).1 = .ok () := rfl
  obtain ⟨d, hd, hhandle, hbelow, -⟩ :=
    ((hclaim oneChildBus scannedOnce run).removal onlyChild onlyChild.handle 7
      ⟨true, idleDrivers, .ok (), .ok ()⟩ hchild trivial hremoved).named
  have hsame : d = onlyChild := by
    have hinv : RegistryInv oneChildDriver oneChildBus.root scannedOnce :=
      dtDeviceScan_inv oneChildBus.inv nextServices 7 oneChildBus.root none
        oneChildBus.inv.root_mem
    exact hinv.eq_of_handle hd hchild hhandle
  exact hbelow.ne hsame.symm

end FdtBusPkg
