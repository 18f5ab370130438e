import FdtBusPkg.Library.KeyedList
import FdtBusPkg.Serial.Driver

/-!
The children of a controller over any sequence of starts and stops. On PCI they are counted, and
the attributes that decoding was enabled over come back with the last of them.
-/
namespace FdtBusPkg

section Created

variable {d : SerialPlatform} {path : Option SerialPath} {createControllerNode : Bool}
  {instanceNumber : U32} {parameter : Option PciSerialParameter} {pciDeviceInfo : Option Nat}
  {s : CreateServices} {child : SerialChild}

/-- The UART of a child: the one of its controller, or one with a number. -/
def SerialChild.uart (child : SerialChild) : Option U32 :=
  if child.containsControllerNode then some child.instanceNumber else none

theorem names_iff (path : SerialPath) (child : SerialChild) :
    path.Names child ↔ child.uart = path.controllerNumber := by
  rw [SerialPath.Names, SerialChild.uart]
  cases child.containsControllerNode with
  | false => simp [eq_comm]
  | true => simp [eq_comm]

/-- What identifies a child that was created. -/
structure ChildCreated (s : CreateServices) (createControllerNode : Bool) (instanceNumber : U32)
    (pciDeviceInfo : Option Nat) (child : SerialChild) : Prop where
  handle : s.installProtocols = .ok child.handle
  containsControllerNode : child.containsControllerNode = createControllerNode
  instanceNumber : child.instanceNumber = instanceNumber
  pciDeviceInfo : child.pciDeviceInfo = pciDeviceInfo

theorem createSerialDevice_eq
    (h : createSerialDevice d path createControllerNode instanceNumber parameter pciDeviceInfo s =
      some (.ok child)) :
    ∃ handle baseAddress mmioAccess port, s.installProtocols = .ok handle ∧
      serialRegisters d parameter s = .ok (baseAddress, mmioAccess) ∧
      child =
        { handle, port, baseAddress, mmioAccess, instanceNumber, pciDeviceInfo
          registerStride := parameter.elim 1 (·.stride)
          containsControllerNode := createControllerNode } := by
  simp only [createSerialDevice, Option.bind_eq_bind, Option.bind_eq_some_iff] at h
  obtain ⟨verdict, -, h⟩ := h
  split at h
  · simp at h
  · split at h
    · simp at h
    · next baseAddress mmioAccess hregisters =>
      split at h
      · simp at h
      · rw [Option.bind_eq_some_iff] at h
        obtain ⟨⟨status, port⟩, -, h⟩ := h
        cases status with
        | error e => simp at h
        | ok _ =>
            dsimp only at h
            split at h
            · simp at h
            · simp at h
            · next handle _ hinstall hopen =>
              simp only [Option.some.injEq, Except.ok.injEq] at h
              exact ⟨handle, baseAddress, mmioAccess, _, hinstall, hregisters, h.symm⟩

theorem createSerialDevice_created
    (h : createSerialDevice d path createControllerNode instanceNumber parameter pciDeviceInfo s =
      some (.ok child)) :
    ChildCreated s createControllerNode instanceNumber pciDeviceInfo child := by
  obtain ⟨handle, baseAddress, mmioAccess, port, hinstall, -, rfl⟩ := createSerialDevice_eq h
  exact ⟨hinstall, rfl, rfl, rfl⟩

end Created

section Updated

variable {d : SerialPlatform} {s : SerialStartServices} {path : SerialPath}
  {child child' : SerialChild} {status : EfiStatus}

theorem updateChild_port (h : updateChild d s path child = some (status, child')) :
    ∃ port, child' = { child with port } := by
  simp only [updateChild, Option.bind_eq_bind, Option.bind_eq_some_iff] at h
  obtain ⟨verdict, -, ⟨attributes, -⟩, -, ⟨flow, port⟩, -, h⟩ := h
  simp only [Option.some.injEq, Prod.mk.injEq] at h
  exact ⟨_, h.2.symm⟩

end Updated

namespace SerialController

variable {c : SerialController}

/-- No handle and no UART has two children. -/
structure Distinct (c : SerialController) : Prop where
  handles : (c.children.map (·.handle)).Nodup
  uarts : (c.children.map (·.uart)).Nodup

theorem Distinct.length_lt (h : c.Distinct) : c.children.length < 2 ^ 64 := by
  have hsubset : c.children.map (·.uart) ⊆
      none :: (List.range (2 ^ 32)).map fun n => some (BitVec.ofNat 32 n) := by
    intro uart _
    cases uart with
    | none => exact List.mem_cons_self
    | some number =>
        apply List.mem_cons_of_mem
        rw [List.mem_map]
        exact ⟨number.toNat, List.mem_range.mpr number.isLt, by rw [BitVec.ofNat_toNat]; simp⟩
  have hlength := (h.uarts.subperm hsubset).length_le
  rw [List.length_map, List.length_cons, List.length_map, List.length_range] at hlength
  omega

/-- The children share a block of the pool, the only one, which has their number and the
attributes that were there before them. -/
structure Counted (c : SerialController) (p : Nat) (original : U64) : Prop where
  shared : ∀ child ∈ c.children, child.pciDeviceInfo = some p
  count : c.pool p = some ⟨BitVec.ofNat 64 c.children.length, original⟩
  only : ∀ q, q ≠ p → c.pool q = none

/-- Without children nothing is left in the pool, and the attributes are the original ones. -/
structure Idle (c : SerialController) (original : U64) : Prop where
  children : c.children = []
  pool : ∀ p, c.pool p = none
  attributes : c.pciAttributes = original

section Grown

variable (c) (child : SerialChild) (p : Option Nat) (f : Uintn → Uintn)

theorem recount_eq : c.recount p f = { c with pool := (c.recount p f).pool } := by
  cases p with
  | none => rfl
  | some p =>
      rw [recount]
      split <;> rfl

@[simp] theorem children_recount : (c.recount p f).children = c.children := by rw [recount_eq]

@[simp] theorem children_addChild : (c.addChild child).children = c.children ++ [child] := by
  rw [addChild, children_recount]

/-- The controller with children added one after the other. -/
def addChildren (c : SerialController) (added : List SerialChild) : SerialController :=
  added.foldl addChild c

theorem children_addChildren (added : List SerialChild) :
    (c.addChildren added).children = c.children ++ added := by
  rw [addChildren]
  induction added generalizing c with
  | nil => rw [List.foldl_nil, List.append_nil]
  | cons child added ih =>
      rw [List.foldl_cons, ih, children_addChild, List.append_assoc, List.singleton_append]

theorem opens_addChildren (added : List SerialChild) :
    (c.addChildren added).devicePathOpen = c.devicePathOpen ∧
      (c.addChildren added).parentIoOpen = c.parentIoOpen := by
  rw [addChildren]
  induction added generalizing c with
  | nil => exact ⟨rfl, rfl⟩
  | cons child added ih =>
      obtain ⟨hpath, hio⟩ := ih (c.addChild child)
      have hsame : (c.addChild child).devicePathOpen = c.devicePathOpen ∧
          (c.addChild child).parentIoOpen = c.parentIoOpen := by
        rw [addChild, recount_eq]
        exact ⟨rfl, rfl⟩
      exact ⟨hpath.trans hsame.1, hio.trans hsame.2⟩

end Grown

section Counting

variable {p : Nat} {original : U64}

theorem Counted.recount (h : c.Counted p original) (children : List SerialChild)
    (hshared : ∀ child ∈ children, child.pciDeviceInfo = some p) (f : Uintn → Uintn)
    (hf : f (BitVec.ofNat 64 c.children.length) = BitVec.ofNat 64 children.length) :
    ({ c with children }.recount (some p) f).Counted p original := by
  have hnext : { c with children }.recount (some p) f =
      { c with children }.putInfo p (some ⟨BitVec.ofNat 64 children.length, original⟩) := by
    rw [SerialController.recount]
    dsimp only
    rw [h.count, ← hf]
  rw [hnext]
  refine ⟨hshared, ?_, fun q hq => ?_⟩
  · exact Function.update_self ..
  · exact (Function.update_of_ne hq _ _).trans (h.only q hq)

end Counting

end SerialController

section Create

variable (d : SerialPlatform) (s : SerialStartServices)

/-- The entry of the table that a start creates a child of a PCI controller from. With several
UARTs it is the one for the UART; a single UART gets the first entry of the table, whichever
controller that is for. -/
def SerialPlatform.EntryOf (uart : Option U32) (parameter : PciSerialParameter) : Prop :=
  match uart with
  | some number => d.listed[number.toNat]? = some parameter
  | none =>
    if d.listed.length = 0 then parameter = defaultPciSerialParameter d s
    else d.listed.length = 1 ∧ d.pciSerialParameters.head? = some parameter

/-- The start installed the protocols of the child, and its registers are where the entry for its
UART puts them in the resources that the start was given, and as far apart. -/
structure SerialPlatform.MadeFrom (parameter : PciSerialParameter) (child : SerialChild) :
    Prop where
  entry : d.EntryOf s child.uart parameter
  handle : (s.create child.instanceNumber).installProtocols = .ok child.handle
  registers : serialRegisters d (some parameter) (s.create child.instanceNumber) =
    .ok (child.baseAddress, child.mmioAccess)
  stride : child.registerStride = parameter.stride

variable {d s} in
theorem createSerialDevice_madeFrom {path : Option SerialPath} {createControllerNode : Bool}
    {instanceNumber : U32} {parameter : PciSerialParameter} {pciDeviceInfo : Option Nat}
    {child : SerialChild}
    (h : createSerialDevice d path createControllerNode instanceNumber (some parameter)
      pciDeviceInfo (s.create instanceNumber) = some (.ok child))
    (hentry : d.EntryOf s child.uart parameter) : d.MadeFrom s parameter child := by
  obtain ⟨handle, baseAddress, mmioAccess, port, hhandle, hregisters, rfl⟩ :=
    createSerialDevice_eq h
  exact ⟨hentry, hhandle, hregisters, rfl⟩

structure ChildrenCreated (path : Option SerialPath) (p : Option Nat)
    (added : List SerialChild) : Prop where
  created : ∀ child ∈ added, ChildCreated (s.create child.instanceNumber)
    child.containsControllerNode child.instanceNumber p child
  numbers : (added.map (·.instanceNumber)).Nodup
  uarts : (added.map (·.uart)).Nodup
  named : ∀ node, path = some node → ∀ child ∈ added, child.uart = node.controllerNumber

theorem ChildrenCreated.nil (path : Option SerialPath) (p : Option Nat) :
    ChildrenCreated s path p [] :=
  ⟨by simp, List.nodup_nil, List.nodup_nil, by simp⟩

theorem ChildrenCreated.single {path : Option SerialPath} {p : Option Nat} {child : SerialChild}
    (h : ChildCreated (s.create child.instanceNumber) child.containsControllerNode
      child.instanceNumber p child)
    (hnamed : ∀ node, path = some node → child.uart = node.controllerNumber) :
    ChildrenCreated s path p [child] :=
  ⟨by simpa using h, List.nodup_singleton _, List.nodup_singleton _, by simpa using hnamed⟩

theorem createUart_added {path : Option SerialPath} {number : U32}
    {parameter : Option PciSerialParameter} {p : Option Nat} {c c' : SerialController}
    {status : EfiStatus} (h : createUart d s path number parameter p c = some (status, c')) :
    (∃ e, status = .error e ∧ c' = c) ∨
      ∃ child, status = .ok () ∧ c' = c.addChild child ∧ child.containsControllerNode = false ∧
        ChildrenCreated s path p [child] ∧
        createSerialDevice d path false number parameter p (s.create number) =
          some (.ok child) := by
  rw [createUart] at h
  split at h
  · simp only [Option.some.injEq, Prod.mk.injEq] at h
    exact .inl ⟨_, h.1.symm, h.2.symm⟩
  · next hnode =>
    simp only [Option.bind_eq_bind, Option.bind_eq_some_iff] at h
    obtain ⟨result, hcreate, h⟩ := h
    cases result with
    | error e =>
        simp only [Option.some.injEq, Prod.mk.injEq] at h
        exact .inl ⟨e, h.1.symm, h.2.symm⟩
    | ok child =>
        simp only [Option.some.injEq, Prod.mk.injEq] at h
        have hcreated := createSerialDevice_created hcreate
        have hnumber := hcreated.instanceNumber
        have hcontains := hcreated.containsControllerNode
        refine .inr ⟨child, h.1.symm, h.2.symm, hcontains, ?_, hcreate⟩
        apply ChildrenCreated.single
        · rw [hnumber, hcontains]
          exact hcreated
        · intro node hpath
          rw [hpath, Option.bind_some, Option.not_isSome_iff_eq_none] at hnode
          rw [hnode, SerialChild.uart, hcontains]
          rfl

/-- What the loop adds when there is no path: the children of consecutive entries, some of which
are left out. -/
structure Consecutive (p : Option Nat) (parameters : List PciSerialParameter) (first : Nat)
    (added : List SerialChild) : Prop where
  controllerNode : ∀ child ∈ added, child.containsControllerNode = true
  entry : ∀ child ∈ added, ∃ i parameter,
    (parameters.filter fun q => d.Lists q)[i]? = some parameter ∧
      child.instanceNumber.toNat = first + i ∧
      createSerialDevice d none true child.instanceNumber (some parameter) p
        (s.create child.instanceNumber) = some (.ok child)
  increasing : (added.map (·.instanceNumber.toNat)).Pairwise (· < ·)

variable {d s} in
theorem Consecutive.first_le {p : Option Nat} {parameters : List PciSerialParameter} {first : Nat}
    {added : List SerialChild} (h : Consecutive d s p parameters first added)
    (child : SerialChild) (hchild : child ∈ added) : first ≤ child.instanceNumber.toNat := by
  obtain ⟨i, _, _, hnumber, _⟩ := h.entry child hchild
  omega

variable {d s} in
theorem Consecutive.skip {p : Option Nat} {parameters : List PciSerialParameter} {first : Nat}
    {added : List SerialChild} {parameter : PciSerialParameter} (hother : ¬ d.Lists parameter)
    (h : Consecutive d s p parameters first added) :
    Consecutive d s p (parameter :: parameters) first added where
  controllerNode := h.controllerNode
  entry := by
    rw [List.filter_cons_of_neg (by simpa using hother)]
    exact h.entry
  increasing := h.increasing

variable {d s} in
theorem Consecutive.fail {p : Option Nat} {parameters : List PciSerialParameter} {first : Nat}
    {added : List SerialChild} {parameter : PciSerialParameter} (hlists : d.Lists parameter)
    (h : Consecutive d s p parameters (first + 1) added) :
    Consecutive d s p (parameter :: parameters) first added where
  controllerNode := h.controllerNode
  entry child hchild := by
    obtain ⟨i, q, hentry, hnumber, hcreate⟩ := h.entry child hchild
    refine ⟨i + 1, q, ?_, by omega, hcreate⟩
    rw [List.filter_cons_of_pos (by simpa using hlists), List.getElem?_cons_succ, hentry]
  increasing := h.increasing

variable {d s} in
theorem Consecutive.cons {p : Option Nat} {parameters : List PciSerialParameter} {first : Nat}
    {added : List SerialChild} {parameter : PciSerialParameter} {child : SerialChild}
    (hlists : d.Lists parameter) (hnumber : child.instanceNumber.toNat = first)
    (hcreate : createSerialDevice d none true child.instanceNumber (some parameter) p
      (s.create child.instanceNumber) = some (.ok child))
    (h : Consecutive d s p parameters (first + 1) added) :
    Consecutive d s p (parameter :: parameters) first (child :: added) where
  controllerNode child' hmem := by
    cases hmem with
    | head => exact (createSerialDevice_created hcreate).containsControllerNode
    | tail _ hmem => exact h.controllerNode child' hmem
  entry child' hmem := by
    cases hmem with
    | head =>
        refine ⟨0, parameter, ?_, hnumber, hcreate⟩
        rw [List.filter_cons_of_pos (by simpa using hlists), List.getElem?_cons_zero]
    | tail _ hmem => exact (h.fail hlists).entry child' hmem
  increasing := by
    rw [List.map_cons, List.pairwise_cons]
    refine ⟨fun number hmem => ?_, h.increasing⟩
    obtain ⟨child', hchild', rfl⟩ := List.mem_map.mp hmem
    have hnext := h.first_le child' hchild'
    omega

theorem createUarts_null {p : Option Nat} {parameters : List PciSerialParameter} {count : U32}
    {status status' : EfiStatus} {c c' : SerialController}
    (hcount : count.toNat + parameters.length < 2 ^ 32)
    (h : createUarts d s none p parameters count status c = some (status', c')) :
    ∃ added, c' = c.addChildren added ∧ Consecutive d s p parameters count.toNat added ∧
      (status' = .ok () → added ≠ [] ∨ status = .ok ()) := by
  induction parameters generalizing count status c with
  | nil =>
      simp only [createUarts, Option.some.injEq, Prod.mk.injEq] at h
      exact ⟨[], h.2.symm, ⟨by simp, by simp, List.Pairwise.nil⟩, fun hok => .inr (h.1.trans hok)⟩
  | cons parameter parameters ih =>
      rw [List.length_cons] at hcount
      have hnext : (count + 1).toNat = count.toNat + 1 := by
        have hone : (1 : U32).toNat = 1 := rfl
        rw [BitVec.toNat_add, hone]
        omega
      rw [createUarts] at h
      split at h
      · next htaken =>
        simp only [Option.bind_eq_bind, Option.bind_eq_some_iff] at h
        obtain ⟨result, hcreate, h⟩ := h
        cases result with
        | error e =>
            obtain ⟨added, hadded, hchildren, hok⟩ := ih (by omega) h
            rw [hnext] at hchildren
            exact ⟨added, hadded, hchildren.fail htaken.1,
              fun hstatus => .inl ((hok hstatus).resolve_right (by simp))⟩
        | ok child =>
            obtain ⟨added, hadded, hchildren, -⟩ := ih (by omega) h
            rw [hnext] at hchildren
            have hnumber := (createSerialDevice_created hcreate).instanceNumber
            refine ⟨child :: added, hadded, hchildren.cons htaken.1 (by rw [hnumber]) ?_,
              fun _ => .inl (List.cons_ne_nil _ _)⟩
            rw [hnumber]
            exact hcreate
      · next hpassed =>
        obtain ⟨added, hadded, hchildren, hok⟩ := ih (by omega) h
        exact ⟨added, hadded, hchildren.skip fun hlists => hpassed ⟨hlists, .inl rfl⟩, hok⟩

/-- What came of one attempt to create a child. -/
inductive Attempted (attempt : Option (EfiResult SerialChild)) (c : SerialController) :
    EfiStatus → SerialController → Prop
  | error (e : EfiError) (h : attempt = some (.error e)) : Attempted attempt c (.error e) c
  | ok (child : SerialChild) (h : attempt = some (.ok child)) :
      Attempted attempt c (.ok ()) (c.addChild child)

section Node

variable {node : SerialPath} {p : Option Nat} {parameters : List PciSerialParameter} {count : U32}
  {status status' : EfiStatus} {c c' : SerialController}

theorem createUarts_behind (hnode : node.controllerNumber ≠ some count) :
    createUarts d s (some node) p parameters count status c = some (status, c) := by
  induction parameters with
  | nil => rfl
  | cons parameter parameters ih =>
      rw [createUarts, if_neg, ih]
      rintro ⟨-, hnull | hnumber⟩
      · simp at hnull
      · exact hnode hnumber

/-- The first entry for the controller is taken for the number that the count is at. -/
theorem createUarts_reached (hnode : node.controllerNumber = some count)
    (h : createUarts d s (some node) p parameters count status c = some (status', c')) :
    ((parameters.filter fun q => d.Lists q) = [] ∧ status' = status ∧ c' = c) ∨
      ∃ parameter, (parameters.filter fun q => d.Lists q).head? = some parameter ∧
        Attempted (createSerialDevice d (some node) true count (some parameter) p
          (s.create count)) c status' c' := by
  induction parameters with
  | nil =>
      simp only [createUarts, Option.some.injEq, Prod.mk.injEq] at h
      exact .inl ⟨rfl, h.1.symm, h.2.symm⟩
  | cons parameter parameters ih =>
      by_cases hlists : d.Lists parameter
      · have hpast : node.controllerNumber ≠ some (count + 1) := by
          rw [hnode]
          intro hsame
          have hvalue := congrArg BitVec.toNat (Option.some.inj hsame)
          have hone : (1 : U32).toNat = 1 := rfl
          have hlt := count.isLt
          rw [BitVec.toNat_add, hone] at hvalue
          omega
        rw [createUarts, if_pos ⟨hlists, .inr hnode⟩] at h
        simp only [Option.bind_eq_bind, Option.bind_eq_some_iff] at h
        obtain ⟨result, hcreate, h⟩ := h
        refine .inr ⟨parameter, ?_, ?_⟩
        · rw [List.filter_cons_of_pos (by simpa using hlists), List.head?_cons]
        · cases result with
          | error e =>
              dsimp only at h
              rw [createUarts_behind d s hpast, Option.some.injEq, Prod.mk.injEq] at h
              rw [← h.1, ← h.2]
              exact .error e hcreate
          | ok child =>
              dsimp only at h
              rw [createUarts_behind d s hpast, Option.some.injEq, Prod.mk.injEq] at h
              rw [← h.1, ← h.2]
              exact .ok child hcreate
      · rw [createUarts, if_neg fun htaken => hlists htaken.1] at h
        rw [List.filter_cons_of_neg (by simpa using hlists)]
        exact ih h

end Node

/-- The children that a start adds to a PCI controller, with the entries they are created from. -/
structure PciChildrenCreated (path : Option SerialPath) (p : Option Nat)
    (added : List SerialChild) : Prop extends ChildrenCreated s path p added where
  entry : ∀ child ∈ added, ∃ parameter, d.MadeFrom s parameter child
  first : ∀ node, path = some node → 1 < d.listed.length → ∀ child ∈ added, child.uart = some 0

variable {d s} in
theorem PciChildrenCreated.nil (path : Option SerialPath) (p : Option Nat) :
    PciChildrenCreated d s path p [] :=
  ⟨ChildrenCreated.nil s path p, by simp, by simp⟩

variable {d s} in
theorem Consecutive.created {p : Option Nat} {added : List SerialChild}
    (h : Consecutive d s p d.pciSerialParameters 0 added) :
    PciChildrenCreated d s none p added := by
  have hnumbers : (added.map (·.instanceNumber)).Nodup := by
    rw [List.nodup_iff_pairwise_ne, List.pairwise_map]
    have hincreasing := h.increasing
    rw [List.pairwise_map] at hincreasing
    exact hincreasing.imp fun hlt heq => Nat.ne_of_lt hlt (congrArg BitVec.toNat heq)
  have huart (child : SerialChild) (hchild : child ∈ added) :
      child.uart = some child.instanceNumber := by
    rw [SerialChild.uart, if_pos (h.controllerNode child hchild)]
  have huarts : added.map (·.uart) = (added.map (·.instanceNumber)).map some := by
    rw [List.map_map]
    exact List.map_congr_left huart
  refine ⟨⟨?_, hnumbers, ?_, by simp⟩, ?_, by simp⟩
  · intro child hchild
    obtain ⟨i, parameter, -, -, hcreate⟩ := h.entry child hchild
    rw [h.controllerNode child hchild]
    exact createSerialDevice_created hcreate
  · rw [huarts]
    exact hnumbers.map fun _ _ heq => Option.some.inj heq
  · intro child hchild
    obtain ⟨i, parameter, hentry, hnumber, hcreate⟩ := h.entry child hchild
    rw [Nat.zero_add] at hnumber
    refine ⟨parameter, createSerialDevice_madeFrom hcreate ?_⟩
    rw [huart child hchild]
    show d.listed[child.instanceNumber.toNat]? = some parameter
    rw [hnumber]
    exact hentry

variable {d s} in
theorem PciChildrenCreated.single {path : Option SerialPath} {p : Option Nat}
    {child : SerialChild} {controllerNode : Bool} {number : U32} {parameter : PciSerialParameter}
    (hcreate : createSerialDevice d path controllerNode number (some parameter) p
      (s.create number) = some (.ok child))
    (hnamed : ∀ node, path = some node → child.uart = node.controllerNumber)
    (hentry : d.EntryOf s child.uart parameter)
    (hfirst : ∀ node, path = some node → 1 < d.listed.length → child.uart = some 0) :
    PciChildrenCreated d s path p [child] := by
  have hcreated := createSerialDevice_created hcreate
  have hnumber := hcreated.instanceNumber
  have hcontains := hcreated.containsControllerNode
  refine ⟨ChildrenCreated.single s ?_ hnamed, fun child' hmem => ?_, fun node hpath hseveral => ?_⟩
  · rw [hnumber, hcontains]
    exact hcreated
  · obtain rfl := List.mem_singleton.mp hmem
    exact ⟨parameter, createSerialDevice_madeFrom hcreate hentry⟩
  · simpa using hfirst node hpath hseveral

variable {d} in
theorem singleEntry (hsingle : d.listed.length ≤ 1) :
    ∃ parameter, (if d.listed.length = 0 then some (defaultPciSerialParameter d s)
      else d.pciSerialParameters.head?) = some parameter ∧ d.EntryOf s none parameter := by
  simp only [SerialPlatform.EntryOf]
  by_cases hnone : d.listed.length = 0
  · simp only [if_pos hnone]
    exact ⟨_, rfl, rfl⟩
  · simp only [if_neg hnone]
    cases htable : d.pciSerialParameters with
    | nil => simp [SerialPlatform.listed, htable] at hnone
    | cons parameter parameters => exact ⟨parameter, rfl, by omega, rfl⟩

variable {d s} in
theorem createPciUarts_added {path : Option SerialPath} {p : Option Nat}
    {c c' : SerialController} {status : EfiStatus}
    (h : createPciUarts d s path p c = some (status, c')) :
    ∃ added, c' = c.addChildren added ∧ PciChildrenCreated d s path p added ∧
      (status = .ok () → added ≠ []) := by
  rw [createPciUarts] at h
  split at h
  · next hsingle =>
    obtain ⟨parameter, hparameter, hentry⟩ := singleEntry s hsingle
    rw [hparameter] at h
    obtain ⟨e, rfl, rfl⟩ | ⟨child, rfl, rfl, hcontains, hchildren, hcreate⟩ :=
      createUart_added d s h
    · exact ⟨[], rfl, .nil path p, by simp⟩
    · have huart : child.uart = none := by
        rw [SerialChild.uart, hcontains]
        rfl
      refine ⟨[child], rfl, .single hcreate ?_ (huart ▸ hentry) ?_, fun _ => List.cons_ne_nil _ _⟩
      · exact fun node hpath => hchildren.named node hpath child List.mem_cons_self
      · exact fun _ _ hseveral => absurd hsingle (Nat.not_le_of_lt hseveral)
  · next hseveral =>
    split at h
    · next hpath =>
      cases path with
      | none =>
          obtain ⟨added, hadded, hchildren, hok⟩ := createUarts_null d s
            (by simpa using d.pciSerialParameters_length) h
          exact ⟨added, hadded, hchildren.created, fun hstatus =>
            (hok hstatus).resolve_right (by simp)⟩
      | some node =>
          by_cases hzero : node.controllerNumber = some 0
          · obtain ⟨hempty, rfl, rfl⟩ | ⟨parameter, hhead, hattempt⟩ :=
              createUarts_reached d s hzero h
            · exact ⟨[], rfl, .nil _ p, by simp⟩
            · cases hattempt with
              | error e _ => exact ⟨[], rfl, .nil _ p, by simp⟩
              | ok child hcreate =>
                  have huart : child.uart = some 0 := by
                    have hcreated := createSerialDevice_created hcreate
                    rw [SerialChild.uart, hcreated.containsControllerNode,
                      hcreated.instanceNumber]
                    rfl
                  refine ⟨[child], rfl, .single hcreate ?_ ?_ fun _ _ _ => huart,
                    fun _ => List.cons_ne_nil _ _⟩
                  · intro node' hnode'
                    rw [← Option.some.inj hnode', huart, hzero]
                  · rw [huart]
                    exact List.head?_eq_getElem?.symm.trans hhead
          · rw [createUarts_behind d s hzero, Option.some.injEq, Prod.mk.injEq] at h
            exact ⟨[], h.2.symm, .nil _ p, by simp [← h.1]⟩
    · simp only [Option.some.injEq, Prod.mk.injEq] at h
      exact ⟨[], h.2.symm, .nil path p, by simp [← h.1]⟩

end Create

end FdtBusPkg
