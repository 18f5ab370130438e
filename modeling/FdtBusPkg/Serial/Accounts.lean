import FdtBusPkg.Library.Session
import FdtBusPkg.Serial.Children
import FdtBusPkg.Serial.ControlBits

/-!
What a controller holds for its children. Over any sequence of starts and stops each handle and
each UART has one child at most, both protocols are held for as long as there is a child, and with
the last child of a PCI controller its attributes are what they were before the first.
-/
namespace FdtBusPkg

namespace SerialController

variable {c : SerialController} {original : U64} {q : Option Nat}

/-- What is behind the children: the block they share, or, where there is none, nothing. -/
def Held (c : SerialController) (original : U64) : Option Nat → Prop
  | some p => c.Counted p original
  | none =>
    (∀ child ∈ c.children, child.pciDeviceInfo = none) ∧ (∀ p, c.pool p = none) ∧
      c.pciAttributes = original

theorem Held.shared (h : c.Held original q) (child : SerialChild) (hchild : child ∈ c.children) :
    child.pciDeviceInfo = q := by
  cases q with
  | none => exact h.1 child hchild
  | some p => exact Counted.shared h child hchild

theorem Held.recount (h : c.Held original q) (children : List SerialChild)
    (hshared : ∀ child ∈ children, child.pciDeviceInfo = q) (f : Uintn → Uintn)
    (hf : f (BitVec.ofNat 64 c.children.length) = BitVec.ofNat 64 children.length) :
    ({ c with children }.recount q f).Held original q := by
  cases q with
  | none => exact ⟨hshared, h.2⟩
  | some p => exact Counted.recount h children hshared f hf

/-- Opening, closing and new settings of the children do not change what is behind them. -/
theorem Held.of_same {c' : SerialController} (h : c.Held original q)
    (hshared : ∀ child ∈ c'.children, child.pciDeviceInfo = q)
    (hlength : c'.children.length = c.children.length) (hpool : c'.pool = c.pool)
    (hattributes : c'.pciAttributes = c.pciAttributes) : c'.Held original q := by
  cases q with
  | none => exact ⟨hshared, hpool ▸ h.2.1, hattributes ▸ h.2.2⟩
  | some p =>
      have hcounted : c.Counted p original := h
      exact ⟨hshared, by rw [hpool, hlength, hcounted.count], hpool ▸ hcounted.only⟩

theorem Held.addChildren (h : c.Held original q) (added : List SerialChild)
    (hadded : ∀ child ∈ added, child.pciDeviceInfo = q) :
    (c.addChildren added).Held original q := by
  rw [SerialController.addChildren]
  induction added generalizing c with
  | nil => exact h
  | cons child added ih =>
      refine ih ?_ fun child' hmem => hadded child' (List.mem_cons_of_mem _ hmem)
      have hchild := hadded child List.mem_cons_self
      rw [addChild, hchild]
      refine h.recount _ (fun child' hmem => ?_) _ ?_
      · rw [List.mem_append, List.mem_singleton] at hmem
        cases hmem with
        | inl hold => exact h.shared child' hold
        | inr hnew => exact hnew ▸ hchild
      · rw [List.length_append, List.length_singleton, BitVec.ofNat_add]
        rfl

/-- Children that are distinct from each other and from those that are there. -/
theorem Distinct.append (h : c.Distinct) {added : List SerialChild} {c' : SerialController}
    (hchildren : c'.children = c.children ++ added)
    (hhandles : (added.map (·.handle)).Nodup) (huarts : (added.map (·.uart)).Nodup)
    (hhandle : ∀ child ∈ c.children, ∀ child' ∈ added, child.handle ≠ child'.handle)
    (huart : ∀ child ∈ c.children, ∀ child' ∈ added, child.uart ≠ child'.uart) :
    c'.Distinct := by
  constructor
  · rw [hchildren, List.map_append]
    refine List.Nodup.append h.handles hhandles fun handle hold hnew => ?_
    obtain ⟨child, hchild, rfl⟩ := List.mem_map.mp hold
    obtain ⟨child', hchild', hsame⟩ := List.mem_map.mp hnew
    exact hhandle child hchild child' hchild' hsame.symm
  · rw [hchildren, List.map_append]
    refine List.Nodup.append h.uarts huarts fun uart hold hnew => ?_
    obtain ⟨child, hchild, rfl⟩ := List.mem_map.mp hold
    obtain ⟨child', hchild', hsame⟩ := List.mem_map.mp hnew
    exact huart child hchild child' hchild' hsame.symm

theorem Distinct.count_eq_zero (h : c.Distinct) :
    BitVec.ofNat 64 c.children.length = 0 ↔ c.children = [] := by
  constructor
  · intro hzero
    have hlength := congrArg BitVec.toNat hzero
    rw [BitVec.toNat_ofNat, Nat.mod_eq_of_lt h.length_lt] at hlength
    exact List.length_eq_zero_iff.mp hlength
  · intro hnone
    rw [hnone]
    rfl

theorem Counted.restored {p : Nat} {info : PciDeviceInfo} (h : c.Counted p original)
    (hnone : c.children = []) (hinfo : info.pciAttributes = original) :
    (c.restore p info (.ok ())).Idle original := by
  refine ⟨hnone, fun q => ?_, hinfo⟩
  by_cases hq : q = p
  · rw [hq]
    exact Function.update_self ..
  · exact (Function.update_of_ne hq _ _).trans (h.only q hq)

theorem Idle.closed (h : c.Idle original) : c.closed.Idle original :=
  ⟨h.children, h.pool, h.attributes⟩

/-- The controller with both protocols open. -/
def opened (c : SerialController) : SerialController :=
  { c with devicePathOpen := true, parentIoOpen := true }

structure Accounted (d : SerialPlatform) (original : U64) (c : SerialController) : Prop
    extends c.Distinct where
  opens : c.children ≠ [] → c.devicePathOpen = true ∧ c.parentIoOpen = true
  single : d.parent ≠ .pci → ∀ child ∈ c.children, child.uart = none
  idle : c.children = [] → c.Idle original
  held : c.children ≠ [] → ∃ q : Option Nat, (q.isSome ↔ d.parent = .pci) ∧ c.Held original q

end SerialController

section Calls

/-- A start or a stop of the driver, with what the environment contributes. -/
inductive BindingCall
  | start (services : SerialStartServices) (remaining : RemainingPath)
  | stop (services : SerialStopServices) (children : List EfiHandle)

variable (d : SerialPlatform)

def SerialController.call (c : SerialController) :
    BindingCall → Option (EfiStatus × SerialController)
  | .start s remaining => serialStart d s remaining c
  | .stop s children => some (serialStop s children c)

/-- Allocation and installation give what nobody has, and the attributes can be read and set. -/
structure SerialStartServices.Proper (s : SerialStartServices) (c : SerialController) : Prop where
  pool : c.pool s.pciDeviceInfo = none
  getAttributes : s.getAttributes = .ok ()
  setAttributes : s.setAttributes = .ok ()
  fresh (number : U32) (handle : EfiHandle) :
    (s.create number).installProtocols = .ok handle → ∀ child ∈ c.children, child.handle ≠ handle
  distinct (number number' : U32) (handle : EfiHandle) :
    (s.create number).installProtocols = .ok handle →
      (s.create number').installProtocols = .ok handle → number = number'

theorem SerialStartServices.Proper.opened {s : SerialStartServices} {c : SerialController}
    (h : s.Proper c) : s.Proper c.opened :=
  ⟨h.pool, h.getAttributes, h.setAttributes, h.fresh, h.distinct⟩

/-- A stop names children of the controller, once each, and none only when there are none. -/
structure SerialStopServices.Proper (s : SerialStopServices) (handles : List EfiHandle)
    (c : SerialController) : Prop where
  setAttributes : s.setAttributes = .ok ()
  nodup : handles.Nodup
  children : ∀ handle ∈ handles, ∃ child ∈ c.children, child.handle = handle
  last : handles = [] → c.children = []

def BindingCall.Proper : BindingCall → SerialController → Prop
  | .start s _, c => s.Proper c
  | .stop s handles, c => s.Proper handles c

def SerialController.Serves (call : BindingCall) (c : SerialController) (answer : EfiStatus)
    (c' : SerialController) : Prop :=
  call.Proper c ∧ c.call d call = some (answer, c')

end Calls

section Start

variable {d : SerialPlatform} {s : SerialStartServices} {path : Option SerialPath}
  {remaining : RemainingPath} {c c' : SerialController} {status : EfiStatus} {original : U64}

open SerialController

inductive SerialStarted (d : SerialPlatform) (s : SerialStartServices)
    (remaining : RemainingPath) (c : SerialController) : EfiStatus → SerialController → Prop
  | refused (e : EfiError) (h : s.openDevicePath = .error e) :
      SerialStarted d s remaining c (.error e) c
  | opened : SerialStarted d s remaining c (.ok ()) c.opened
  | updated (node : SerialPath) (status : EfiStatus) (i : Nat) (child : SerialChild)
      (port : SerialPort) (hremaining : remaining = .node node)
      (hchild : c.children[i]? = some child) (hnames : node.Names child) :
      SerialStarted d s remaining c status
        { c.opened with children := c.children.set i { child with port } }
  | created (path : Option SerialPath) (status : EfiStatus) (c' : SerialController)
      (hnull : path = none → remaining = .null ∧ c.children = [])
      (hnew : ∀ node, path = some node → ∀ child ∈ c.children, child.uart ≠ node.controllerNumber)
      (h : startCreate d s path c.opened = some (status, c')) :
      SerialStarted d s remaining c status c'

theorem serialStart_started (h : serialStart d s remaining c = some (status, c')) :
    SerialStarted d s remaining c status c' := by
  rw [serialStart] at h
  split at h
  · next e _ hrefused =>
    simp only [Option.some.injEq, Prod.mk.injEq] at h
    rw [← h.1, ← h.2]
    exact .refused e hrefused
  · cases remaining with
    | endNode =>
        simp only [Option.some.injEq, Prod.mk.injEq] at h
        rw [← h.1, ← h.2]
        exact .opened
    | null =>
        dsimp only at h
        split at h
        · next hnone =>
          exact .created none status c' (fun _ => ⟨rfl, List.isEmpty_iff.mp hnone⟩) (by simp) h
        · simp only [Option.some.injEq, Prod.mk.injEq] at h
          rw [← h.1, ← h.2]
          exact .opened
    | node node =>
        dsimp only at h
        split at h
        · next hnone =>
          refine .created (some node) status c' (by simp) (fun node' hnode' child hchild => ?_) h
          obtain rfl := Option.some.inj hnode'
          have hother := List.findIdx?_eq_none_iff.mp hnone child hchild
          rw [decide_eq_false_iff_not, names_iff] at hother
          exact hother
        · next i hfound =>
          simp only [Option.bind_eq_bind, Option.bind_eq_some_iff] at h
          obtain ⟨child, hchild, ⟨status', child'⟩, hupdate, h⟩ := h
          simp only [Option.some.injEq, Prod.mk.injEq] at h
          obtain ⟨port, hport⟩ := updateChild_port hupdate
          obtain ⟨hget, hnames, -⟩ := List.findIdx?_eq_some_iff_getElem.mp hfound
          rw [← h.1, ← h.2, hport]
          refine .updated node status' i child port rfl hchild ?_
          rw [List.getElem?_eq_getElem hget, Option.some.injEq] at hchild
          simpa [hchild] using hnames

/-- How a start that creates children ends, by the controller and what was added to it. -/
inductive StartCreated (d : SerialPlatform) (s : SerialStartServices) (path : Option SerialPath)
    (c : SerialController) : EfiStatus × SerialController → Prop
  | failed (e : EfiError) (hread : d.parent = .pci → s.pciRead = .error e) :
      StartCreated d s path c (finishStart s (!c.children.isEmpty) none (.error e) c)
  | pci (added : List SerialChild) (made : EfiStatus) (hpci : d.parent = .pci)
      (hadded : PciChildrenCreated d s path (shareDeviceInfo s c).1 added)
      (hmade : made = .ok () → added ≠ []) :
      StartCreated d s path c (finishStart s (!c.children.isEmpty) (shareDeviceInfo s c).1 made
        ((shareDeviceInfo s c).2.addChildren added))
  | single (child : SerialChild) (hparent : d.parent ≠ .pci) (huart : child.uart = none)
      (hadded : ChildrenCreated s path none [child]) :
      StartCreated d s path c
        (finishStart s (!c.children.isEmpty) none (.ok ()) (c.addChildren [child]))

theorem createUart_created {number : U32} (hparent : d.parent ≠ .pci)
    {result : EfiStatus × SerialController}
    (h : createUart d s path number none none c = some result) :
    StartCreated d s path c (finishStart s (!c.children.isEmpty) none result.1 result.2) := by
  obtain ⟨e, hstatus, hsame⟩ | ⟨child, hstatus, hnext, hcontains, hadded, -⟩ :=
    createUart_added d s h
  · rw [hstatus, hsame]
    exact .failed e fun hpci => absurd hpci hparent
  · rw [hstatus, hnext]
    refine .single child hparent ?_ hadded
    rw [SerialChild.uart, hcontains]
    rfl

theorem startCreate_created (h : startCreate d s path c = some (status, c')) :
    StartCreated d s path c (status, c') := by
  rw [startCreate] at h
  cases hparent : d.parent with
  | pci =>
      rw [hparent] at h
      dsimp only at h
      split at h
      · next e hread =>
        rw [← Option.some.inj h]
        exact .failed e fun _ => hread
      · simp only [Option.bind_eq_bind, Option.bind_eq_some_iff] at h
        obtain ⟨⟨made, c₁⟩, hcreate, h⟩ := h
        obtain ⟨added, rfl, hadded, hmade⟩ := createPciUarts_added hcreate
        rw [← Option.some.inj h]
        exact .pci added made hparent hadded hmade
  | sio =>
      rw [hparent] at h
      simp only [Option.bind_eq_bind, Option.bind_eq_some_iff] at h
      obtain ⟨result, hcreate, h⟩ := h
      rw [← Option.some.inj h]
      exact createUart_created (by simp [hparent]) hcreate
  | dt =>
      rw [hparent] at h
      simp only [Option.bind_eq_bind, Option.bind_eq_some_iff] at h
      obtain ⟨result, hcreate, h⟩ := h
      rw [← Option.some.inj h]
      exact createUart_created (by simp [hparent]) hcreate

section Finish

variable {hadChildren : Bool} {q : Option Nat} {made : EfiStatus}

/-- The end of a start keeps the controller when it has children, and clears it when not. -/
theorem finishStart_cases (hdistinct : c.Distinct) (hheld : c.Held original q)
    (hset : s.setAttributes = .ok ()) (hmade : made = .ok () → c.children ≠ [])
    (hhad : hadChildren = true → c.children ≠ [])
    (hfailed : q = none → ∀ e, made = .error e → hadChildren = false → c.children = []) :
    (c.children ≠ [] ∧ (finishStart s hadChildren q made c).2 = c) ∨
      (c.children = [] ∧ (finishStart s hadChildren q made c).2.Idle original) := by
  cases q with
  | none =>
      cases made with
      | ok _ => exact .inl ⟨hmade rfl, rfl⟩
      | error e =>
          cases hadChildren with
          | true => exact .inl ⟨hhad rfl, rfl⟩
          | false =>
              have hnone := hfailed rfl e rfl rfl
              exact .inr ⟨hnone, hnone, hheld.2.1, hheld.2.2⟩
  | some p =>
      have hcounted : c.Counted p original := hheld
      simp only [finishStart, Option.bind_some, hcounted.count]
      by_cases hnone : c.children = []
      · refine .inr ⟨hnone, ?_⟩
        rw [if_neg (by simp [hnone])]
        cases made with
        | ok _ => exact absurd hnone (hmade rfl)
        | error e =>
            cases hadChildren with
            | true => exact absurd hnone (hhad rfl)
            | false =>
                simp only [hset, Bool.false_eq_true, if_false]
                exact (hcounted.restored hnone rfl).closed
      · refine .inl ⟨hnone, ?_⟩
        rw [if_pos fun hzero => hnone (hdistinct.count_eq_zero.mp hzero)]

end Finish

theorem ChildrenCreated.distinct {q : Option Nat} {added : List SerialChild}
    (h : ChildrenCreated s path q added) (hproper : s.Proper c) (hdistinct : c.Distinct)
    (hnull : path = none → c.children = [])
    (hnew : ∀ node, path = some node → ∀ child ∈ c.children, child.uart ≠ node.controllerNumber)
    (hchildren : c'.children = c.children ++ added) : c'.Distinct := by
  refine hdistinct.append hchildren ?_ h.uarts (fun child hchild child' hchild' => ?_)
    fun child hchild child' hchild' => ?_
  · refine (List.Nodup.of_map _ h.numbers).map_on fun child hchild child' hchild' hsame => ?_
    refine List.inj_on_of_nodup_map h.numbers hchild hchild' ?_
    exact hproper.distinct _ _ child.handle (h.created child hchild).handle
      (hsame ▸ (h.created child' hchild').handle)
  · exact hproper.fresh _ _ (h.created child' hchild').handle child hchild
  · cases path with
    | none =>
        rw [hnull rfl] at hchild
        exact absurd hchild List.not_mem_nil
    | some node =>
        rw [h.named node rfl child' hchild']
        exact hnew node rfl child hchild

section Shared

/-- The block for the children of a PCI controller: the new one has no child yet. -/
theorem shareDeviceInfo_held (h : c.Accounted d original) (hpci : d.parent = .pci)
    (hproper : s.Proper c) :
    ((shareDeviceInfo s c).1.isSome ↔ d.parent = .pci) ∧
      (shareDeviceInfo s c).2.Held original (shareDeviceInfo s c).1 := by
  cases hchildren : c.children with
  | nil =>
      have hidle := h.idle hchildren
      simp only [shareDeviceInfo, hchildren, hproper.getAttributes]
      refine ⟨by simp [hpci], ?_, ?_, fun q hq => ?_⟩
      · intro child hchild
        have hmem : child ∈ c.children := hchild
        rw [hchildren] at hmem
        exact absurd hmem List.not_mem_nil
      · refine (Function.update_self ..).trans ?_
        show some ⟨0, c.pciAttributes⟩ =
          some (⟨BitVec.ofNat 64 c.children.length, original⟩ : PciDeviceInfo)
        rw [hchildren, hidle.attributes]
        rfl
      · exact (Function.update_of_ne hq _ _).trans (hidle.pool q)
  | cons child children =>
      obtain ⟨q, hq, hheld⟩ := h.held (by simp [hchildren])
      have hshared := hheld.shared child (by simp [hchildren])
      simp only [shareDeviceInfo, hchildren, hshared]
      exact ⟨hq, hheld⟩

theorem children_shareDeviceInfo (s : SerialStartServices) (c : SerialController) :
    (shareDeviceInfo s c).2.children = c.children ∧
      (shareDeviceInfo s c).2.devicePathOpen = c.devicePathOpen ∧
      (shareDeviceInfo s c).2.parentIoOpen = c.parentIoOpen := by
  rw [shareDeviceInfo]
  split
  · exact ⟨rfl, rfl, rfl⟩
  · exact ⟨rfl, rfl, rfl⟩

end Shared

namespace SerialController

theorem Idle.accounted (h : c.Idle original) : c.Accounted d original where
  handles := by simp [h.children]
  uarts := by simp [h.children]
  opens hsome := absurd h.children hsome
  single _ child hchild := by simp [h.children] at hchild
  idle _ := h
  held hsome := absurd h.children hsome

theorem Held.accounted {q : Option Nat} (h : c.Held original q)
    (hq : q.isSome ↔ d.parent = .pci) (hsome : c.children ≠ []) (hdistinct : c.Distinct)
    (hopens : c.devicePathOpen = true ∧ c.parentIoOpen = true)
    (hsingle : d.parent ≠ .pci → ∀ child ∈ c.children, child.uart = none) :
    c.Accounted d original where
  toDistinct := hdistinct
  opens _ := hopens
  single := hsingle
  idle hnone := absurd hnone hsome
  held _ := ⟨q, hq, h⟩

theorem Accounted.of_same (h : c.Accounted d original)
    (hhandles : c'.children.map (·.handle) = c.children.map (·.handle))
    (huarts : c'.children.map (·.uart) = c.children.map (·.uart))
    (hinfos : c'.children.map (·.pciDeviceInfo) = c.children.map (·.pciDeviceInfo))
    (hopens : c'.devicePathOpen = true ∧ c'.parentIoOpen = true) (hpool : c'.pool = c.pool)
    (hattributes : c'.pciAttributes = c.pciAttributes) : c'.Accounted d original := by
  have hlength : c'.children.length = c.children.length := by
    simpa using congrArg List.length hhandles
  by_cases hnone : c.children = []
  · have hidle := h.idle hnone
    have hnone' : c'.children = [] := by rw [← List.length_eq_zero_iff, hlength, hnone]; rfl
    exact Idle.accounted ⟨hnone', hpool ▸ hidle.pool, hattributes ▸ hidle.attributes⟩
  · obtain ⟨q, hq, hheld⟩ := h.held hnone
    have hsome' : c'.children ≠ [] := fun hnone' =>
      hnone (List.length_eq_zero_iff.mp (by rw [← hlength, hnone']; rfl))
    refine (hheld.of_same (fun child hchild => ?_) hlength hpool hattributes).accounted hq hsome'
      ⟨hhandles ▸ h.handles, huarts ▸ h.uarts⟩ hopens fun hparent child hchild => ?_
    · have hmem := List.mem_map_of_mem (f := (·.pciDeviceInfo)) hchild
      rw [hinfos] at hmem
      obtain ⟨child', hchild', hsame⟩ := List.mem_map.mp hmem
      exact hsame ▸ hheld.shared child' hchild'
    · have hmem := List.mem_map_of_mem (f := (·.uart)) hchild
      rw [huarts] at hmem
      obtain ⟨child', hchild', hsame⟩ := List.mem_map.mp hmem
      exact hsame ▸ h.single hparent child' hchild'

theorem Accounted.opened (h : c.Accounted d original) : c.opened.Accounted d original :=
  h.of_same rfl rfl rfl ⟨rfl, rfl⟩ rfl rfl

theorem Accounted.updated (h : c.Accounted d original) {i : Nat} {child : SerialChild}
    (hchild : c.children[i]? = some child) (port : SerialPort) :
    { c.opened with children := c.children.set i { child with port } }.Accounted d original := by
  have hsame {β : Type} (f : SerialChild → β) (hf : f { child with port } = f child) :
      (c.children.set i { child with port }).map f = c.children.map f := by
    rw [List.map_set, hf]
    refine List.ext_getElem? fun j => ?_
    rw [List.getElem?_set]
    split
    · next hj =>
      subst hj
      obtain ⟨hlt, hget⟩ := List.getElem?_eq_some_iff.mp hchild
      simp [hlt, hget]
    · rfl
  exact h.of_same (hsame _ rfl) (hsame _ rfl) (hsame _ rfl) ⟨rfl, rfl⟩ rfl rfl

theorem children_ne_nil {added : List SerialChild} (hchildren : c'.children = c.children ++ added)
    (hhad : (!c.children.isEmpty) = true) : c'.children ≠ [] := by
  rw [hchildren]
  intro hnone
  rw [(List.append_eq_nil_iff.mp hnone).1] at hhad
  cases hhad

theorem Accounted.finished (h : c.Accounted d original) {c₁ : SerialController} {q : Option Nat}
    {added : List SerialChild} {made : EfiStatus} (hproper : s.Proper c)
    (hopens : c.devicePathOpen = true ∧ c.parentIoOpen = true)
    (hnull : path = none → c.children = [])
    (hnew : ∀ node, path = some node → ∀ child ∈ c.children, child.uart ≠ node.controllerNumber)
    (hq : q.isSome ↔ d.parent = .pci) (hheld : c₁.Held original q)
    (hsame : c₁.children = c.children ∧ c₁.devicePathOpen = c.devicePathOpen ∧
      c₁.parentIoOpen = c.parentIoOpen)
    (hadded : ChildrenCreated s path q added)
    (hsingle : d.parent ≠ .pci → ∀ child ∈ added, child.uart = none)
    (hmade : made = .ok () → added ≠ [])
    (hfailed : q = none → ∀ e, made = .error e → added = []) :
    (finishStart s (!c.children.isEmpty) q made (c₁.addChildren added)).2.Accounted d
      original := by
  have hchildren : (c₁.addChildren added).children = c.children ++ added := by
    rw [children_addChildren, hsame.1]
  have hdistinct := hadded.distinct hproper h.toDistinct hnull hnew hchildren
  have hnext := hheld.addChildren added fun child hchild =>
    (hadded.created child hchild).pciDeviceInfo
  have hnone (hhad : (!c.children.isEmpty) = false) : c.children = [] := by simpa using hhad
  obtain ⟨hsome, hfinish⟩ | ⟨-, hfinish⟩ := finishStart_cases hdistinct hnext
    hproper.setAttributes (fun hok => by simp [hchildren, hmade hok])
    (children_ne_nil hchildren) fun hq e he hhad => by
      rw [hchildren, hnone hhad, hfailed hq e he]; rfl
  · rw [hfinish]
    refine hnext.accounted hq hsome hdistinct ?_ fun hparent child hchild => ?_
    · rw [(opens_addChildren c₁ added).1, (opens_addChildren c₁ added).2, hsame.2.1, hsame.2.2]
      exact hopens
    · rw [hchildren, List.mem_append] at hchild
      cases hchild with
      | inl hold => exact h.single hparent child hold
      | inr hmem => exact hsingle hparent child hmem
  · exact hfinish.accounted

theorem Accounted.failed (h : c.Accounted d original) (e : EfiError) :
    (finishStart s (!c.children.isEmpty) none (.error e) c).2.Accounted d original := by
  simp only [finishStart]
  split
  · exact h
  · next hnone =>
    exact (h.idle (by simpa using hnone)).closed.accounted

theorem Accounted.unshared (h : c.Accounted d original) (hparent : d.parent ≠ .pci) :
    c.Held original none := by
  by_cases hnone : c.children = []
  · have hidle := h.idle hnone
    exact ⟨by simp [hnone], hidle.pool, hidle.attributes⟩
  · obtain ⟨q, hq, hheld⟩ := h.held hnone
    cases q with
    | none => exact hheld
    | some p => exact absurd (hq.mp rfl) hparent

theorem Accounted.created (h : c.Accounted d original) (hproper : s.Proper c)
    (hopens : c.devicePathOpen = true ∧ c.parentIoOpen = true)
    (hnull : path = none → c.children = [])
    (hnew : ∀ node, path = some node → ∀ child ∈ c.children, child.uart ≠ node.controllerNumber)
    {result : EfiStatus × SerialController} (hcreated : StartCreated d s path c result) :
    result.2.Accounted d original := by
  cases hcreated with
  | failed e _ => exact h.failed e
  | pci added made hpci hadded hmade =>
      obtain ⟨hq, hheld⟩ := shareDeviceInfo_held h hpci hproper
      refine h.finished hproper hopens hnull hnew hq hheld (children_shareDeviceInfo s c)
        hadded.toChildrenCreated (fun hparent => absurd hpci hparent) hmade fun hnone => ?_
      rw [hnone] at hq
      exact absurd (hq.mpr hpci) Bool.false_ne_true
  | single child hparent huart hadded =>
      refine h.finished hproper hopens hnull hnew (by simp [hparent]) (h.unshared hparent)
        ⟨rfl, rfl, rfl⟩ hadded (by simp [huart]) (fun _ => List.cons_ne_nil _ _) ?_
      intro _ e he
      cases he

theorem Accounted.start (h : c.Accounted d original) (hproper : s.Proper c)
    (hstart : serialStart d s remaining c = some (status, c')) : c'.Accounted d original := by
  cases serialStart_started hstart with
  | refused e _ => exact h
  | opened => exact h.opened
  | updated node status i child port _ hchild _ => exact h.updated hchild port
  | created path status c' hnull hnew hcreate =>
      exact h.opened.created hproper.opened ⟨rfl, rfl⟩ (fun hpath => (hnull hpath).2) hnew
        (startCreate_created hcreate)

end SerialController

end Start

section Stop

variable {d : SerialPlatform} {s : SerialStopServices} {handles : List EfiHandle}
  {c c' : SerialController} {original : U64} {q : Option Nat}

open SerialController

/-- Between two turns of the loop of a stop, with the children that are left to stop. What could
not be stopped stays. -/
structure Stopping (d : SerialPlatform) (original : U64) (q : Option Nat) (todo : List EfiHandle)
    (allStopped : Bool) (c : SerialController) : Prop extends c.Distinct where
  held : c.Held original q
  opens : c.devicePathOpen = true ∧ c.parentIoOpen = true
  single : d.parent ≠ .pci → ∀ child ∈ c.children, child.uart = none
  nodup : todo.Nodup
  live : ∀ handle ∈ todo, ∃ child ∈ c.children, child.handle = handle
  kept : allStopped = false → ∃ child ∈ c.children, child.handle ∉ todo

variable {handle : EfiHandle} {todo : List EfiHandle} {allStopped : Bool}

theorem Stopping.refused (h : Stopping d original q (handle :: todo) allStopped c)
    {child : SerialChild} (hfound : c.children.find? (·.handle = handle) = some child) :
    Stopping d original q todo false
      { c with children := c.children.eraseP (·.handle = handle) ++ [child] } := by
  have hperm := KeyedList.eraseP_append_perm hfound
  have hhandle : child.handle = handle := by simpa using List.find?_some hfound
  obtain ⟨hnew, hnodup⟩ := List.nodup_cons.mp h.nodup
  refine ⟨⟨?_, ?_⟩, ?_, h.opens, ?_, hnodup, ?_, ?_⟩
  · exact (hperm.map _).nodup_iff.mpr h.handles
  · exact (hperm.map _).nodup_iff.mpr h.uarts
  · exact h.held.of_same (fun child' hchild' => h.held.shared child' (hperm.mem_iff.mp hchild'))
      hperm.length_eq rfl rfl
  · exact fun hparent child' hchild' => h.single hparent child' (hperm.mem_iff.mp hchild')
  · intro handle' hhandle'
    obtain ⟨child', hchild', hsame⟩ := h.live handle' (List.mem_cons_of_mem _ hhandle')
    exact ⟨child', hperm.mem_iff.mpr hchild', hsame⟩
  · exact fun _ => ⟨child, List.mem_append_right _ List.mem_cons_self, hhandle ▸ hnew⟩

theorem Stopping.stopped (h : Stopping d original q (handle :: todo) allStopped c)
    {child : SerialChild} (hfound : c.children.find? (·.handle = handle) = some child) :
    Stopping d original q todo allStopped
      ({ c with children := c.children.eraseP (·.handle = handle) }.recount q (· - 1)) := by
  obtain ⟨hnew, hnodup⟩ := List.nodup_cons.mp h.nodup
  have hsublist : (c.children.eraseP (·.handle = handle)).Sublist c.children :=
    List.eraseP_sublist
  have hlength : c.children.length = (c.children.eraseP (·.handle = handle)).length + 1 := by
    rw [← (KeyedList.eraseP_append_perm hfound).length_eq, List.length_append,
      List.length_singleton]
  have hleft (child' : SerialChild) (hchild' : child' ∈ c.children)
      (hother : child'.handle ≠ handle) : child' ∈ c.children.eraseP (·.handle = handle) :=
    (List.mem_eraseP_of_neg (by simpa using hother)).mpr hchild'
  refine ⟨⟨?_, ?_⟩, ?_, ?_, ?_, hnodup, ?_, ?_⟩
  · rw [children_recount]
    exact h.handles.sublist (hsublist.map _)
  · rw [children_recount]
    exact h.uarts.sublist (hsublist.map _)
  · refine h.held.recount _ (fun child' hchild' =>
      h.held.shared child' (hsublist.subset hchild')) _ ?_
    rw [hlength, BitVec.ofNat_add]
    exact BitVec.add_sub_cancel ..
  · rw [recount_eq]
    exact h.opens
  · rw [children_recount]
    exact fun hparent child' hchild' => h.single hparent child' (hsublist.subset hchild')
  · intro handle' hhandle'
    obtain ⟨child', hchild', hsame⟩ := h.live handle' (List.mem_cons_of_mem _ hhandle')
    rw [children_recount]
    exact ⟨child', hleft child' hchild' fun heq => hnew (heq ▸ hsame ▸ hhandle'), hsame⟩
  · intro hfailed
    obtain ⟨child', hchild', hother⟩ := h.kept hfailed
    rw [List.mem_cons, not_or] at hother
    rw [children_recount]
    exact ⟨child', hleft child' hchild' hother.1, hother.2⟩

theorem stopSerialChild_stopping (s : SerialStopServices) (p : Option Nat)
    (h : Stopping d original q (handle :: todo) allStopped c) :
    (stopSerialChild s (allStopped, p, c) handle).2.1 = q ∧
      Stopping d original q todo (stopSerialChild s (allStopped, p, c) handle).1
        (stopSerialChild s (allStopped, p, c) handle).2.2 := by
  obtain ⟨child, hfound⟩ : ∃ child, c.children.find? (·.handle = handle) = some child := by
    obtain ⟨child, hchild, hhandle⟩ := h.live handle List.mem_cons_self
    exact Option.isSome_iff_exists.mp
      (List.find?_isSome.mpr ⟨child, hchild, by simpa using hhandle⟩)
  have hshared := h.held.shared child (List.mem_of_find?_eq_some hfound)
  simp only [stopSerialChild, hfound, hshared]
  cases s.uninstall handle with
  | error e => exact ⟨rfl, h.refused hfound⟩
  | ok _ => exact ⟨rfl, h.stopped hfound⟩

theorem stopSerialChildren_stopping (s : SerialStopServices) (p : Option Nat)
    (h : Stopping d original q handles allStopped c) :
    (handles ≠ [] → (handles.foldl (stopSerialChild s) (allStopped, p, c)).2.1 = q) ∧
      Stopping d original q [] (handles.foldl (stopSerialChild s) (allStopped, p, c)).1
        (handles.foldl (stopSerialChild s) (allStopped, p, c)).2.2 := by
  induction handles generalizing allStopped p c with
  | nil => exact ⟨fun hsome => absurd rfl hsome, h⟩
  | cons handle todo ih =>
      obtain ⟨hblock, hnext⟩ := stopSerialChild_stopping s p h
      obtain ⟨hblocks, hlast⟩ := ih (stopSerialChild s (allStopped, p, c) handle).2.1 hnext
      refine ⟨fun _ => ?_, hlast⟩
      cases todo with
      | nil => exact hblock
      | cons handle' todo => exact hblocks (List.cons_ne_nil _ _)

theorem Stopping.finished (h : Stopping d original q [] allStopped c)
    (hq : q.isSome ↔ d.parent = .pci) (hsome : c.children ≠ []) : c.Accounted d original :=
  h.held.accounted hq hsome h.toDistinct h.opens h.single

theorem SerialController.Accounted.stop (h : c.Accounted d original)
    (hproper : s.Proper handles c) :
    (serialStop s handles c).2.Accounted d original := by
  rw [serialStop]
  cases handles with
  | nil => exact (h.idle (hproper.last rfl)).closed.accounted
  | cons handle todo =>
      have hsome : c.children ≠ [] := by
        obtain ⟨child, hchild, -⟩ := hproper.children handle List.mem_cons_self
        exact List.ne_nil_of_mem hchild
      obtain ⟨q, hq, hheld⟩ := h.held hsome
      have hstart : Stopping d original q (handle :: todo) true c :=
        ⟨h.toDistinct, hheld, h.opens hsome, h.single, hproper.nodup, hproper.children, by simp⟩
      obtain ⟨hblock, hlast⟩ := stopSerialChildren_stopping s none hstart
      rw [if_neg (by simp)]
      generalize (handle :: todo).foldl (stopSerialChild s) (true, none, c) = t at hblock hlast
      obtain ⟨allStopped, p, c'⟩ := t
      obtain rfl : p = q := hblock (List.cons_ne_nil _ _)
      dsimp only at hlast ⊢
      cases allStopped with
      | false =>
          obtain ⟨child, hchild, -⟩ := hlast.kept rfl
          exact hlast.finished hq (List.ne_nil_of_mem hchild)
      | true =>
          cases p with
          | none =>
              by_cases hnone : c'.children = []
              · have hidle : c'.Idle original := ⟨hnone, hlast.held.2.1, hlast.held.2.2⟩
                exact hidle.accounted
              · exact hlast.finished hq hnone
          | some p =>
              have hcounted : c'.Counted p original := hlast.held
              simp only [Bool.not_true, Bool.false_eq_true, if_false, Option.bind_some,
                hcounted.count, hproper.setAttributes]
              split
              · next hzero =>
                exact (hcounted.restored (hlast.count_eq_zero.mp hzero) rfl).accounted
              · next hsome =>
                exact hlast.finished hq fun hnone => hsome (hlast.count_eq_zero.mpr hnone)

end Stop

open SerialController

theorem BindingCall.accounted {d : SerialPlatform} {original : U64} {call : BindingCall}
    {c c' : SerialController} {answer : EfiStatus} (h : c.Accounted d original)
    (hcall : Serves d call c answer c') : c'.Accounted d original := by
  obtain ⟨hproper, hcall⟩ := hcall
  cases call with
  | start s remaining => exact h.start hproper hcall
  | stop s handles =>
      have hnext := h.stop hproper
      rw [Option.some.inj hcall] at hnext
      exact hnext

theorem SerialController.Accounted.run {d : SerialPlatform} {original : U64}
    {c c' : SerialController} {calls : List BindingCall} (h : c.Accounted d original)
    (hrun : Session.Trace (Serves d) c calls c') : c'.Accounted d original :=
  hrun.invariant (·.Accounted d original) (fun _ _ _ _ h hcall => BindingCall.accounted h hcall) h

/-- In every run of starts and stops, no handle and no UART has two children, the protocols of the
controller are held as long as there are children, and on PCI the shared block counts them. When
there are none, no block is left and the attributes are the original ones. -/
theorem bindingRun_accounted (d : SerialPlatform) (original : U64) (c c' : SerialController)
    (calls : List BindingCall) (hidle : c.Idle original)
    (hrun : Session.Trace (Serves d) c calls c') : c'.Accounted d original :=
  hidle.accounted.run hrun

def twoEntries : List PciSerialParameter :=
  [⟨0x1415, 0x9505, 0, 0, 0, 0, 0, 0⟩, ⟨0x1415, 0x9505, 0, 8, 0, 0, 0, 0⟩]

theorem twoEntries_length : twoEntries.length < 2 ^ 32 := by decide

def twoUarts : SerialPlatform where
  pcds := defaultPcds
  serialClockRate := 1843200
  pciSerialParameters := twoEntries
  pciSerialParameters_length := twoEntries_length
  parent := .pci
  acpiUid := 0
  vendorId := 0x1415
  deviceId := 0x9505

def freshServices : SerialStartServices where
  openDevicePath := .ok ()
  pciRead := .ok ()
  pciDeviceInfo := 0
  poolContents := 0
  getAttributes := .ok ()
  supportedAttributes := .ok 0x700
  enableAttributes := .ok ()
  setAttributes := .ok ()
  stackFifoDepths := (0, 0)
  create number :=
    { clockFrequency := none
      getReg := .ok ()
      resources := fun _ => .ok [.addressSpace 1 0x2000 0x100]
      line := idleLine
      registers := ⟨0x03, 0, 1, 0, 0, 0, 0⟩
      serialPresent := true
      stackDivisor := 0
      installProtocols := .ok number.toNat
      openChild := .ok () }
  line := idleLine
  fuel := 1
  stackDivisor := 0
  reinstallAttributes := .ok ()
  reinstallControl := .ok ()

def removeServices : SerialStopServices := ⟨fun _ => .ok (), .ok ()⟩

def idleController : SerialController := ⟨false, false, [], fun _ => none, 0x4⟩

theorem freshServices_proper : freshServices.Proper idleController where
  pool := rfl
  getAttributes := rfl
  setAttributes := rfl
  fresh _ _ _ _ hchild := absurd hchild List.not_mem_nil
  distinct _ _ _ h h' :=
    BitVec.eq_of_toNat_eq ((Except.ok.inj h).trans (Except.ok.inj h').symm)

/-- One of two children is stopped, and one is left. -/
theorem bindingRun_accounted_two : ∃ c',
    Session.Trace (Serves twoUarts) idleController
      [.start freshServices .null, .stop removeServices [0]] c' ∧
    c'.children.map (·.handle) = [1] ∧ c'.Accounted twoUarts 0x4 := by
  have hrun : (serialStart twoUarts freshServices .null idleController).map (fun x =>
      (x.2.children.map (·.handle),
        (serialStop removeServices [0] x.2).2.children.map (·.handle))) = some ([0, 1], [1]) := by
    decide
  obtain ⟨⟨started, c⟩, hstart, hchildren⟩ := Option.map_eq_some_iff.mp hrun
  obtain ⟨htwo, hone⟩ := Prod.mk.inj hchildren
  have hstop : removeServices.Proper [0] c := by
    refine ⟨rfl, List.nodup_singleton 0, fun handle hhandle => ?_, by simp⟩
    rw [List.mem_singleton.mp hhandle]
    refine List.mem_map.mp ?_
    rw [htwo]
    exact List.mem_cons_self
  have htrace : Session.Trace (Serves twoUarts) idleController
      [.start freshServices .null, .stop removeServices [0]] (serialStop removeServices [0] c).2 :=
    .cons started ⟨freshServices_proper, hstart⟩
      (.cons (serialStop removeServices [0] c).1 ⟨hstop, rfl⟩ (.nil _))
  exact ⟨_, htrace, hone, bindingRun_accounted twoUarts 0x4 idleController _ _
    ⟨rfl, fun _ => rfl, rfl⟩ htrace⟩

end FdtBusPkg
