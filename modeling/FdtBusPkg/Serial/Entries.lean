import FdtBusPkg.Serial.Accounts

/-!
Which UARTs of a PCI controller get a child, and from which entry of the table. A path reaches the
first of several UARTs only, though a start with a path to another one succeeds as well.
-/
namespace FdtBusPkg

open SerialController

section Children

variable {d : SerialPlatform} {c c' : SerialController} {status : EfiStatus}

theorem children_finishStart (s : SerialStartServices) (hadChildren : Bool) (p : Option Nat)
    (made : EfiStatus) (c : SerialController) :
    (finishStart s hadChildren p made c).2.children = c.children := by
  have hrestore (p : Nat) (info : PciDeviceInfo) :
      (c.restore p info s.setAttributes).closed.children = c.children := by
    cases s.setAttributes with
    | error e => rfl
    | ok _ => rfl
  simp only [finishStart]
  repeat' split
  all_goals first | rfl | exact hrestore _ _

variable {s : SerialStartServices} {remaining : RemainingPath} {child : SerialChild}

/-- A child of a PCI controller after a call: one of the children before, but for its port, or one
that the call has created. -/
inductive Descends (d : SerialPlatform) (call : BindingCall) (children : List SerialChild)
    (child : SerialChild) : Prop
  | old (child' : SerialChild) (port : SerialPort) (hchild : child' ∈ children)
      (h : child = { child' with port })
  | new (s : SerialStartServices) (remaining : RemainingPath) (path : Option SerialPath)
      (p : Option Nat) (added : List SerialChild) (hcall : call = .start s remaining)
      (hpath : path = none → remaining = .null) (hadded : PciChildrenCreated d s path p added)
      (hchild : child ∈ added)

theorem StartCreated.descends {path : Option SerialPath}
    {result : EfiStatus × SerialController} (hpci : d.parent = .pci)
    (hpath : path = none → remaining = .null) (h : StartCreated d s path c result)
    (child : SerialChild) (hchild : child ∈ result.2.children) :
    Descends d (.start s remaining) c.children child := by
  cases h with
  | failed e _ =>
      rw [children_finishStart] at hchild
      exact .old child child.port hchild rfl
  | pci added made _ hadded hmade =>
      rw [children_finishStart, children_addChildren, (children_shareDeviceInfo s c).1,
        List.mem_append] at hchild
      cases hchild with
      | inl hold => exact .old child child.port hold rfl
      | inr hnew => exact .new s remaining path _ added rfl hpath hadded hnew
  | single child' hparent => exact absurd hpci hparent

theorem serialStart_descends (hpci : d.parent = .pci)
    (h : serialStart d s remaining c = some (status, c')) (hchild : child ∈ c'.children) :
    Descends d (.start s remaining) c.children child := by
  cases serialStart_started h with
  | refused e _ => exact .old child child.port hchild rfl
  | opened => exact .old child child.port hchild rfl
  | updated node status i child' port _ hchild' _ =>
      cases List.mem_or_eq_of_mem_set hchild with
      | inl hold => exact .old child child.port hold rfl
      | inr hnew => exact .old child' port (List.mem_of_getElem? hchild') hnew
  | created path status c' hnull hnew hcreate =>
      have hcreated := startCreate_created hcreate
      exact hcreated.descends hpci (fun hpath => (hnull hpath).1) child hchild

theorem stopSerialChild_subset (s : SerialStopServices) (t : Bool × Option Nat × SerialController)
    (handle : EfiHandle) : (stopSerialChild s t handle).2.2.children ⊆ t.2.2.children := by
  obtain ⟨allStopped, p, c⟩ := t
  cases hfound : c.children.find? (·.handle = handle) with
  | none =>
      simp only [stopSerialChild, hfound]
      exact List.Subset.refl _
  | some child =>
      simp only [stopSerialChild, hfound]
      cases s.uninstall handle with
      | error e => exact (KeyedList.eraseP_append_perm hfound).subset
      | ok _ =>
          dsimp only
          rw [children_recount]
          exact List.eraseP_sublist.subset

theorem serialStop_subset (s : SerialStopServices) (handles : List EfiHandle)
    (c : SerialController) : (serialStop s handles c).2.children ⊆ c.children := by
  have hloop (t : Bool × Option Nat × SerialController) :
      (handles.foldl (stopSerialChild s) t).2.2.children ⊆ t.2.2.children := by
    induction handles generalizing t with
    | nil => exact List.Subset.refl _
    | cons handle handles ih =>
        exact List.Subset.trans (ih (stopSerialChild s t handle))
          (stopSerialChild_subset s t handle)
  have hrestore (c : SerialController) (p : Nat) (info : PciDeviceInfo) :
      (c.restore p info s.setAttributes).children = c.children := by
    cases s.setAttributes with
    | error e => rfl
    | ok _ => rfl
  simp only [serialStop]
  repeat' split
  · exact List.Subset.refl _
  · exact hloop (true, none, c)
  · rw [hrestore]
    exact hloop (true, none, c)
  · exact hloop (true, none, c)
  · exact hloop (true, none, c)

theorem call_descends {call : BindingCall} (hpci : d.parent = .pci)
    (hcall : c.call d call = some (status, c')) (hchild : child ∈ c'.children) :
    Descends d call c.children child := by
  cases call with
  | start s remaining => exact serialStart_descends hpci hcall hchild
  | stop s handles =>
      have hsubset := serialStop_subset s handles c
      rw [Option.some.inj hcall] at hsubset
      exact .old child child.port (hsubset hchild) rfl

end Children

/-- In every run of a PCI controller, each child was made by one of the starts, from the entry for
its UART, with its registers where that entry puts them in the resources of that start. The only
UART of a controller is made from the first entry of the table, whichever controller that is for. -/
theorem bindingRun_entries (d : SerialPlatform) (hpci : d.parent = .pci) (c c' : SerialController)
    (calls : List BindingCall) (hnone : c.children = [])
    (hrun : Session.Trace (fun call c answer c' => c.call d call = some (answer, c')) c calls c')
    (child : SerialChild) (hchild : child ∈ c'.children) :
    ∃ s remaining, .start s remaining ∈ calls ∧ ∃ parameter, d.MadeFrom s parameter child := by
  have horigin := hrun.origin
    (fun c => ∃ port, { child with port } ∈ c.children)
    (fun call => ∃ s remaining, call = .start s remaining ∧
      ∃ parameter, d.MadeFrom s parameter child)
    (fun call c answer c' hcall hafter => ?_) ⟨child.port, hchild⟩
  · rcases horigin with ⟨port, hold⟩ | ⟨call, hmem, s, remaining, rfl, hmade⟩
    · rw [hnone] at hold
      exact absurd hold List.not_mem_nil
    · exact ⟨s, remaining, hmem, hmade⟩
  · obtain ⟨port, hafter⟩ := hafter
    cases call_descends hpci hcall hafter with
    | old child' port' hold hsame =>
        refine .inl ⟨child'.port, ?_⟩
        have hchild' : { child with port := child'.port } = child' := by
          cases child'
          cases hsame
          rfl
        rwa [hchild']
    | new s remaining path p added hcall' _ hadded hmem =>
        obtain ⟨parameter, hmade⟩ := hadded.entry _ hmem
        exact .inr ⟨s, remaining, hcall', parameter, hmade.entry, hmade.handle, hmade.registers,
          hmade.stride⟩

def otherEntries : List PciSerialParameter :=
  [⟨0x1415, 0x9501, 0, 0x40, 0, 4, 0, 0⟩, ⟨0x1415, 0x9505, 0, 8, 0, 0, 0, 0⟩]

theorem otherEntries_length : otherEntries.length < 2 ^ 32 := by decide

/-- The second entry of the table is for this controller, the first is for another one. -/
def oneUart : SerialPlatform :=
  { twoUarts with
    pciSerialParameters := otherEntries
    pciSerialParameters_length := otherEntries_length }

/-- The registers of the UART are where the entry of the other controller has them. -/
theorem bindingRun_entries_other : ∃ child,
    (child.baseAddress, child.registerStride) = (0x2040, 4) ∧
      ∃ s remaining, .start s remaining ∈ [BindingCall.start freshServices .null] ∧
        ∃ parameter, oneUart.MadeFrom s parameter child := by
  have hrun : (serialStart oneUart freshServices .null idleController).map (fun x =>
      x.2.children.map fun child => (child.baseAddress, child.registerStride)) =
        some [(0x2040, 4)] := by
    decide
  obtain ⟨⟨started, c⟩, hstart, hchildren⟩ := Option.map_eq_some_iff.mp hrun
  have hmem : (0x2040, 4) ∈ c.children.map fun child =>
      (child.baseAddress, child.registerStride) := by
    rw [hchildren]
    exact List.mem_cons_self
  obtain ⟨child, hchild, hregisters⟩ := List.mem_map.mp hmem
  exact ⟨child, hregisters, bindingRun_entries oneUart rfl idleController c
    [.start freshServices .null] rfl (.cons started hstart (.nil c)) child hchild⟩

def BindingCall.ByPath : BindingCall → Prop
  | .start _ .null => False
  | _ => True

/-- In a run without starts for the whole controller, a PCI controller with several UARTs has one
child at most, and that for the first of them. -/
theorem pathRun_first (d : SerialPlatform) (hpci : d.parent = .pci)
    (hseveral : 1 < d.listed.length) (original : U64) (c c' : SerialController)
    (calls : List BindingCall) (hidle : c.Idle original)
    (hrun : Session.Trace (fun call c answer c' => call.ByPath ∧ Serves d call c answer c')
      c calls c') :
    c'.children.length ≤ 1 ∧ ∀ child ∈ c'.children, child.uart = some 0 := by
  have hall := hrun.invariant
    (fun c => c.Accounted d original ∧ ∀ child ∈ c.children, child.uart = some 0)
    (fun call c answer c' h hcall => ⟨BindingCall.accounted h.1 hcall.2, ?_⟩)
    ⟨hidle.accounted, by simp [hidle.children]⟩
  · refine ⟨?_, hall.2⟩
    have huarts := hall.1.uarts
    have hsame : c'.children.map (·.uart) = List.replicate c'.children.length (some 0) := by
      rw [List.eq_replicate_iff]
      simpa using hall.2
    rw [hsame, List.nodup_replicate] at huarts
    exact huarts
  · obtain ⟨hpath, -, hcall⟩ := hcall
    intro child hchild
    cases call_descends hpci hcall hchild with
    | old child' port hold hsame =>
        rw [hsame]
        exact h.2 child' hold
    | new s remaining path p added hstart hnull hadded hmem =>
        cases path with
        | none =>
            rw [hstart, hnull rfl] at hpath
            exact absurd hpath id
        | some node => exact hadded.first node rfl hseveral child hmem

def uartPath (number : U32) : RemainingPath := .node ⟨some number, ⟨115200, 8, 1, 1⟩, none⟩

/-- Of the starts for the second UART and for the first, the second one creates a child. -/
theorem pathRun_first_both : ∃ c',
    Session.Trace (fun call c answer c' => call.ByPath ∧ Serves twoUarts call c answer c')
      idleController [.start freshServices (uartPath 1), .start freshServices (uartPath 0)] c' ∧
    c'.children.length = 1 ∧ ∀ child ∈ c'.children, child.uart = some 0 := by
  have hrun : ((serialStart twoUarts freshServices (uartPath 1) idleController).bind fun x =>
      (serialStart twoUarts freshServices (uartPath 0) x.2).map fun y =>
        (x.2.pool 0, x.2.children.map (·.handle), y.2.children.length)) = some (none, [], 1) := by
    decide
  obtain ⟨⟨later, c⟩, hlater, hrun⟩ := Option.bind_eq_some_iff.mp hrun
  obtain ⟨⟨first, c'⟩, hfirst, hrun⟩ := Option.map_eq_some_iff.mp hrun
  simp only [Prod.mk.injEq, List.map_eq_nil_iff] at hrun
  obtain ⟨hpool, hnone, hone⟩ := hrun
  have hproper : freshServices.Proper c :=
    ⟨hpool, rfl, rfl, by simp [hnone], freshServices_proper.distinct⟩
  have htrace : Session.Trace
      (fun call c answer c' => call.ByPath ∧ Serves twoUarts call c answer c') idleController
      [.start freshServices (uartPath 1), .start freshServices (uartPath 0)] c' :=
    .cons later ⟨trivial, freshServices_proper, hlater⟩
      (.cons first ⟨trivial, hproper, hfirst⟩ (.nil c'))
  have hseveral : 1 < twoUarts.listed.length := by decide
  exact ⟨c', htrace, hone, (pathRun_first twoUarts rfl hseveral 0x4 idleController c' _
    ⟨rfl, fun _ => rfl, rfl⟩ htrace).2⟩

section Answers

variable {d : SerialPlatform} {s : SerialStartServices} {c : SerialController} {original : U64}

/-- With a block, the end of a start drops the status: the children that are there make it a
success, and when there are none it is the status of the attributes. -/
theorem finishStart_answers {hadChildren : Bool} {p : Nat} {made : EfiStatus}
    (hcounted : c.Counted p original) (hdistinct : c.Distinct) (hset : s.setAttributes = .ok ())
    (hhad : hadChildren = true → c.children ≠ []) :
    (finishStart s hadChildren (some p) made c).1 = .ok () := by
  simp only [finishStart, Option.bind_some, hcounted.count]
  split
  · rfl
  · next hzero =>
    cases made with
    | ok _ => rfl
    | error e =>
        cases hadChildren with
        | false => exact hset
        | true => exact absurd (hdistinct.count_eq_zero.mp (not_not.mp hzero)) (hhad rfl)

theorem StartCreated.answers {path : Option SerialPath} {result : EfiStatus × SerialController}
    (h : StartCreated d s path c result) (haccounted : c.Accounted d original)
    (hproper : s.Proper c) (hpci : d.parent = .pci) (hread : s.pciRead = .ok ())
    (hnull : path = none → c.children = [])
    (hnew : ∀ node, path = some node → ∀ child ∈ c.children,
      child.uart ≠ node.controllerNumber) : result.1 = .ok () := by
  cases h with
  | failed e herror =>
      have hfailed := herror hpci
      rw [hread] at hfailed
      cases hfailed
  | pci added made _ hadded hmade =>
      obtain ⟨hq, hheld⟩ := shareDeviceInfo_held haccounted hpci hproper
      have hchildren : ((shareDeviceInfo s c).2.addChildren added).children =
          c.children ++ added := by
        rw [children_addChildren, (children_shareDeviceInfo s c).1]
      have hdistinct := hadded.distinct hproper haccounted.toDistinct hnull hnew hchildren
      have hcounted := hheld.addChildren added fun child hchild =>
        (hadded.created child hchild).pciDeviceInfo
      obtain ⟨p, hp⟩ := Option.isSome_iff_exists.mp (hq.mpr hpci)
      rw [hp] at hcounted ⊢
      exact finishStart_answers hcounted hdistinct hproper.setAttributes
        (children_ne_nil hchildren)
  | single child hparent => exact absurd hpci hparent

end Answers

/-- At any point of a run, a start of a PCI controller that is not for a child that exists
succeeds, whatever came of the children it was to create. -/
theorem pciStart_succeeds (d : SerialPlatform) (hpci : d.parent = .pci) (original : U64)
    (c₀ c c' : SerialController) (calls : List BindingCall) (hidle : c₀.Idle original)
    (hrun : Session.Trace (Serves d) c₀ calls c) (s : SerialStartServices) (hproper : s.Proper c)
    (hopen : s.openDevicePath = .ok ()) (hread : s.pciRead = .ok ()) (remaining : RemainingPath)
    (hnew : ∀ node, remaining = .node node → ∀ child ∈ c.children, ¬ node.Names child)
    (status : EfiStatus) (hstart : serialStart d s remaining c = some (status, c')) :
    status = .ok () := by
  have haccounted := (hidle.accounted.run hrun).opened
  cases serialStart_started hstart with
  | refused e hrefused =>
      rw [hopen] at hrefused
      cases hrefused
  | opened => rfl
  | updated node status i child port hremaining hchild hnames =>
      exact absurd hnames (hnew node hremaining child (List.mem_of_getElem? hchild))
  | created path status c' hnull hpath hcreate =>
      exact (startCreate_created hcreate).answers haccounted hproper.opened hpci hread
        (fun hpath => (hnull hpath).2) hpath

def absentServices : SerialStartServices :=
  { freshServices with
    create := fun number => { freshServices.create number with serialPresent := false } }

/-- The start succeeds without a child. -/
theorem pciStart_succeeds_absent : ∃ c',
    serialStart twoUarts absentServices .null idleController = some (.ok (), c') ∧
      c'.children = [] := by
  have hrun : (serialStart twoUarts absentServices .null idleController).map (fun x =>
      x.2.children.map (·.handle)) = some [] := by
    decide
  obtain ⟨⟨status, c'⟩, hstart, hnone⟩ := Option.map_eq_some_iff.mp hrun
  have hproper : absentServices.Proper idleController :=
    ⟨rfl, rfl, rfl, freshServices_proper.fresh, freshServices_proper.distinct⟩
  have hok := pciStart_succeeds twoUarts rfl 0x4 idleController idleController c' []
    ⟨rfl, fun _ => rfl, rfl⟩ (.nil _) absentServices hproper rfl rfl .null (by simp) status hstart
  rw [hok] at hstart
  exact ⟨c', hstart, List.map_eq_nil_iff.mp hnone⟩

end FdtBusPkg
