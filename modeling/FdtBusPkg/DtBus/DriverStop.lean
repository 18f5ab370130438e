import FdtBusPkg.DtBus.EndOfDxe

/-!
Stops of the bus driver. A stop takes away the children that the boot services name, one by
one, and goes on past those that stay; a stop without children gives the handle back. A child
that has a driver is disconnected before it goes, so what a stop changes lies beneath the
children it names.
-/
namespace FdtBusPkg

section Driver

variable (services : EfiHandle → RemoveServices) (agent controller : EfiHandle)

/-- An iteration of the loop of `DriverStop`, with `AllChildrenStopped`. -/
def stopChild (s : Bool × Registry) (child : EfiHandle) : Bool × Registry :=
  match dtDeviceRemoveHandle (services child) s.2 child controller agent with
  | (.error _, σ) => (false, σ)
  | (.ok _, σ) => (s.1, σ)

def stopChildren (children : List EfiHandle) (s : Bool × Registry) : Bool × Registry :=
  children.foldl (stopChild services agent controller) s

def driverStop (σ : Registry) (children : List EfiHandle) : EfiStatus × Registry :=
  if children = [] then
    (.ok (), (σ.closeProtocol controller agent controller).2)
  else
    let (allChildrenStopped, σ) := stopChildren services agent controller children (true, σ)
    (if allChildrenStopped then .ok () else .error .deviceError, σ)

end Driver

section Paths

variable {bus : DtBusDriver} {root : DtDeviceRecord} {σ : Registry} {p c c' d : DtDeviceRecord}

/-- The device is the other one or lies beneath it. -/
def Within (c d : DtDeviceRecord) : Prop := c.devicePath <+: d.devicePath

def Beneath (c d : DtDeviceRecord) : Prop := Within c d ∧ c.devicePath ≠ d.devicePath

theorem Within.refl (c : DtDeviceRecord) : Within c c := List.prefix_rfl

theorem not_beneath_self (c : DtDeviceRecord) : ¬ Beneath c c := fun h => h.2 rfl

theorem Beneath.length_lt (h : Beneath c d) : c.devicePath.length < d.devicePath.length := by
  refine Nat.lt_of_le_of_ne h.1.length_le fun hlength => h.2 ?_
  exact h.1.eq_of_length hlength

theorem Beneath.within (h : Beneath p c) (h' : Within c d) : Beneath p d := by
  refine ⟨h.1.trans h', fun heq => ?_⟩
  have hlength := h'.length_le
  rw [← heq] at hlength
  exact Nat.lt_irrefl _ (Nat.lt_of_lt_of_le h.length_lt hlength)

theorem IsChildOf.beneath (h : IsChildOf bus p c) : Beneath p c := by
  refine ⟨⟨_, h.path.symm⟩, fun heq => ?_⟩
  have hlength := congrArg List.length (heq ▸ h.path)
  simp at hlength

theorem IsChildOf.not_within (h : IsChildOf bus p c) : ¬ Within c p := fun hwithin =>
  Nat.lt_irrefl _ (Nat.lt_of_lt_of_le h.beneath.length_lt hwithin.length_le)

theorem RegistryInv.not_within_sibling (h : RegistryInv bus root σ) (hc : c ∈ σ.devices)
    (hc' : c' ∈ σ.devices) (hchild : IsChildOf bus p c) (hchild' : IsChildOf bus p c')
    (hne : c ≠ c') : ¬ Within c c' := by
  intro hwithin
  refine hne (h.eq_of_path hc hc' (hwithin.eq_of_length ?_))
  rw [hchild.path, hchild'.path]
  simp

end Paths

/-- At most one driver has the protocol of a handle open. -/
structure DriverInv (bus : DtBusDriver) (root : DtDeviceRecord) (σ : Registry) : Prop
    extends DrivenInv bus root σ where
  single (handle : EfiHandle) (e e' : OpenEntry) (he : e ∈ σ.opens handle)
    (he' : e' ∈ σ.opens handle) (hdriver : e.attributes = .byDriver)
    (hdriver' : e'.attributes = .byDriver) : e = e'

/-- Beneath a device there may be other devices than before; elsewhere nothing is changed. -/
structure KeepsOutside (c : DtDeviceRecord) (σ σ' : Registry) : Prop where
  kept (d : DtDeviceRecord) (hd : d ∈ σ.devices) (hother : ¬ Beneath c d) : d ∈ σ'.devices
  only (d : DtDeviceRecord) (hd : d ∈ σ'.devices) : d ∈ σ.devices ∨ Beneath c d
  opens (d : DtDeviceRecord) (hd : d ∈ σ.devices) (hother : ¬ Within c d) (e : OpenEntry)
    (hheld : ¬ e.IsTransient) : e ∈ σ'.opens d.handle ↔ e ∈ σ.opens d.handle

namespace KeepsOutside

variable {c c' : DtDeviceRecord} {σ σ' σ'' : Registry}

theorem of_sameHeld (h : SameHeld σ σ') : KeepsOutside c σ σ' :=
  ⟨fun _ hd _ => h.devices ▸ hd, fun _ hd => .inl (h.devices ▸ hd),
    fun d _ _ => h.held d.handle⟩

theorem refl (σ : Registry) : KeepsOutside c σ σ := .of_sameHeld (.refl σ)

theorem trans (h : KeepsOutside c σ σ') (h' : KeepsOutside c σ' σ'') : KeepsOutside c σ σ'' where
  kept d hd hother := h'.kept d (h.kept d hd hother) hother
  only d hd := by
    cases h'.only d hd with
    | inl hold => exact h.only d hold
    | inr hnew => exact .inr hnew
  opens d hd hother e hheld :=
    (h'.opens d (h.kept d hd fun hbeneath => hother hbeneath.1) hother e hheld).trans
      (h.opens d hd hother e hheld)

/-- What is kept outside a device beneath another one is kept outside that one. -/
theorem of_beneath (h : KeepsOutside c' σ σ') (hbeneath : Beneath c c') :
    KeepsOutside c σ σ' where
  kept d hd hother := h.kept d hd fun hbelow => hother (hbeneath.within hbelow.1)
  only d hd := (h.only d hd).imp_right fun hbelow => hbeneath.within hbelow.1
  opens d hd hother := h.opens d hd fun hwithin => hother (hbeneath.within hwithin).1

end KeepsOutside

/-- The devices that are let go do not lie beneath the device. -/
def Outside (X : Set EfiHandle) (c : DtDeviceRecord) (σ : Registry) : Prop :=
  ∀ x ∈ X, ∃ d ∈ σ.devices, d.handle = x ∧ ¬ Beneath c d

/-- What may be done to a registry that is linked but for `X`, beneath a device. -/
structure KeepsBelow (bus : DtBusDriver) (root : DtDeviceRecord) (X : Set EfiHandle)
    (c : DtDeviceRecord) (σ σ' : Registry) : Prop extends KeepsOutside c σ σ' where
  inv : DriverInv bus root σ'
  linked : σ'.Linked bus X

/-- The drivers of a device see to what lies beneath it: its children are gone once they are
disconnected, and new ones may be there once they are connected. -/
structure DriverServices.Documented (bus : DtBusDriver) (root : DtDeviceRecord)
    (drivers : DriverServices) : Prop where
  disconnect {σ : Registry} {X : Set EfiHandle} {c : DtDeviceRecord} (h : DriverInv bus root σ)
    (hlinked : σ.Linked bus X) (hc : c ∈ σ.devices) (hout : Outside X c σ) :
    KeepsBelow bus root X c σ (drivers.disconnect σ c.handle).2
  connect {σ : Registry} {X : Set EfiHandle} {c : DtDeviceRecord} (h : DriverInv bus root σ)
    (hlinked : σ.Linked bus X) (hc : c ∈ σ.devices) (hout : Outside X c σ) :
    KeepsBelow bus root X c σ (drivers.connect σ c.handle)

theorem not_isTransient_of_driver {e : OpenEntry} (h : e.attributes = .byDriver) :
    ¬ e.IsTransient := by
  simp [OpenEntry.IsTransient, h]

theorem OpenEntry.held_cases {e : OpenEntry} (h : ¬ e.IsTransient) :
    e.attributes = .byChildController ∨ e.attributes = .byDriver := by
  cases hattributes : e.attributes <;> simp [OpenEntry.IsTransient, hattributes] at h ⊢

section Invariant

variable {bus : DtBusDriver} {root : DtDeviceRecord} {X : Set EfiHandle} {σ σ' σ'' : Registry}
  {c c' p : DtDeviceRecord}

theorem DriverInv.of_drivers (h : DriverInv bus root σ) (hinv : RegistryInv bus root σ')
    (hdrivers : ∀ handle e, e.attributes = .byDriver → e ∈ σ'.opens handle →
      e ∈ σ.opens handle) : DriverInv bus root σ' where
  toRegistryInv := hinv
  drivers handle e he hdriver := h.drivers handle e (hdrivers handle e hdriver he) hdriver
  single handle e e' he he' hdriver hdriver' :=
    h.single handle e e' (hdrivers handle e hdriver he) (hdrivers handle e' hdriver' he')
      hdriver hdriver'

theorem DriverInv.sameHeld (h : DriverInv bus root σ) (hsame : SameHeld σ σ') :
    DriverInv bus root σ' :=
  h.of_drivers (hsame.registryInv h.toRegistryInv) fun handle e hdriver =>
    (hsame.held handle e (not_isTransient_of_driver hdriver)).mp

theorem Outside.keeps (hout : Outside X c σ) (h : KeepsOutside c' σ σ')
    (hwithin : Within c c') : Outside X c σ' := by
  intro x hx
  obtain ⟨d, hd, hhandle, hbeneath⟩ := hout x hx
  refine ⟨d, h.kept d hd fun hbelow => hbeneath ⟨hwithin.trans hbelow.1, fun heq => ?_⟩, hhandle,
    hbeneath⟩
  have hlength := hbelow.length_lt
  rw [← heq] at hlength
  exact Nat.lt_irrefl _ (Nat.lt_of_lt_of_le hlength hwithin.length_le)

theorem Outside.of_beneath (hout : Outside X p σ) (hbeneath : Beneath p c) : Outside X c σ := by
  intro x hx
  obtain ⟨d, hd, hhandle, hother⟩ := hout x hx
  exact ⟨d, hd, hhandle, fun hbelow => hother (hbeneath.within hbelow.1)⟩

theorem Outside.not_mem (hout : Outside X c σ) (h : RegistryInv bus root σ) {d : DtDeviceRecord}
    (hd : d ∈ σ.devices) (hbeneath : Beneath c d) : d.handle ∉ X := by
  intro hX
  obtain ⟨d', hd', hhandle, hother⟩ := hout _ hX
  exact hother (h.eq_of_handle hd' hd hhandle ▸ hbeneath)

namespace KeepsBelow

theorem refl (h : DriverInv bus root σ) (hlinked : σ.Linked bus X) :
    KeepsBelow bus root X c σ σ :=
  ⟨.refl σ, h, hlinked⟩

theorem trans (h : KeepsBelow bus root X c σ σ') (h' : KeepsBelow bus root X c σ' σ'') :
    KeepsBelow bus root X c σ σ'' :=
  ⟨h.toKeepsOutside.trans h'.toKeepsOutside, h'.inv, h'.linked⟩

theorem sameHeld (h : KeepsBelow bus root X c σ σ') (hsame : SameHeld σ' σ'') :
    KeepsBelow bus root X c σ σ'' :=
  h.trans ⟨.of_sameHeld hsame, h.inv.sameHeld hsame, hsame.linked h.linked⟩

theorem of_beneath (h : KeepsBelow bus root X c' σ σ') (hbeneath : Beneath c c') :
    KeepsBelow bus root X c σ σ' :=
  ⟨h.toKeepsOutside.of_beneath hbeneath, h.inv, h.linked⟩

end KeepsBelow

theorem not_mem_byDriver (h : DrivenInv bus root σ) {handle : EfiHandle}
    (hunbound : fbpHandleHasBoundDriver σ handle = false) (e : OpenEntry)
    (hdriver : e.attributes = .byDriver) : e ∉ σ.opens handle := by
  intro he
  rw [fbpHandleHasBoundDriver, List.any_eq_false] at hunbound
  exact hunbound e he (by simp [hdriver, h.drivers handle e he hdriver])

theorem DriverInv.openByDriver (h : DriverInv bus root σ) (agent : EfiHandle)
    {d : DtDeviceRecord} (hd : d ∈ σ.devices) :
    DriverInv bus root (σ.openByDriver agent d.handle).2 := by
  cases hbound : fbpHandleHasBoundDriver σ d.handle with
  | true =>
      obtain ⟨e, hopen⟩ := openByDriver_bound σ agent d.handle hbound
      rw [hopen]
      exact h
  | false =>
      rw [h.openByDriver_unbound agent hd hbound]
      refine ⟨h.toDrivenInv.addDriver agent hd, fun handle e e' he he' hdriver hdriver' => ?_⟩
      have hnone := not_mem_byDriver h.toDrivenInv hbound
      rw [Registry.mem_opens_addOpen] at he he'
      cases he with
      | inl hold =>
          cases he' with
          | inl hold' => exact h.single handle e e' hold hold' hdriver hdriver'
          | inr hadded' => exact absurd (hadded'.1 ▸ hold) (hnone e hdriver)
      | inr hadded =>
          cases he' with
          | inl hold' => exact absurd (hadded.1 ▸ hold') (hnone e' hdriver')
          | inr hadded' => rw [hadded.2, hadded'.2]

theorem DriverInv.keepsBelow_openByDriver (h : DriverInv bus root σ)
    (hlinked : σ.Linked bus X) (agent : EfiHandle) {d : DtDeviceRecord} (hd : d ∈ σ.devices) :
    KeepsBelow bus root X d σ (σ.openByDriver agent d.handle).2 := by
  refine ⟨?_, h.openByDriver agent hd, h.linked_openByDriver agent hd hlinked⟩
  cases hbound : fbpHandleHasBoundDriver σ d.handle with
  | true =>
      obtain ⟨e, hopen⟩ := openByDriver_bound σ agent d.handle hbound
      rw [hopen]
      exact .refl σ
  | false =>
      rw [h.openByDriver_unbound agent hd hbound]
      refine ⟨fun _ hd' _ => hd', fun _ hd' => .inl hd', fun d' hd' hother e _ => ?_⟩
      rw [Registry.mem_opens_addOpen]
      refine or_iff_left fun hadded => hother ?_
      rw [h.eq_of_handle hd' hd hadded.1]
      exact .refl d

theorem DriverInv.keepsBelow_scan (h : DriverInv bus root σ) (hlinked : σ.Linked bus X)
    (sound : bus.tree.Sound) (services : ScanServices) (agent : EfiHandle) {d : DtDeviceRecord}
    (hd : d ∈ σ.devices) (remaining : Option DevicePath) :
    KeepsBelow bus root X d σ (dtDeviceScan bus services σ agent d remaining).2 := by
  have hgrown := dtDeviceScan_grown sound services agent d remaining h.toRegistryInv hd
  refine ⟨⟨fun d' hd' _ => hgrown.kept d' hd', fun d' hd' => ?_, fun d' hd' hother e _ => ?_⟩,
    h.of_drivers (dtDeviceScan_inv h.toRegistryInv services agent d remaining hd)
      fun handle e hdriver => (hgrown.drivers handle e hdriver).mp,
    dtDeviceScan_linked h.toRegistryInv hlinked services agent d remaining hd⟩
  · exact (hgrown.added d' hd').imp_right fun hnew => hnew.1.beneath
  · refine hgrown.others d'.handle e fun hsame => hother ?_
    rw [h.eq_of_handle hd' hd hsame]
    exact .refl d

theorem DriverInv.keepsBelow_start (h : DriverInv bus root σ) (hlinked : σ.Linked bus X)
    (sound : bus.tree.Sound) (services : ScanServices) (agent : EfiHandle) {d : DtDeviceRecord}
    (hd : d ∈ σ.devices) (remaining : Option DevicePath)
    (hsupported : driverSupported bus σ agent d.handle remaining = .ok ()) :
    KeepsBelow bus root X d σ (driverStart bus σ agent services d remaining).2 := by
  rw [driverStart_supported services σ agent d remaining hsupported]
  have hopened := h.keepsBelow_openByDriver hlinked agent hd
  exact hopened.trans (hopened.inv.keepsBelow_scan hopened.linked sound services agent
    (hopened.kept d hd (not_beneath_self d)) remaining)

theorem DriverInv.keepsBelow_unbind (h : DriverInv bus root σ) (hlinked : σ.Linked bus X)
    (agent : EfiHandle) {d : DtDeviceRecord} (hd : d ∈ σ.devices) :
    KeepsBelow bus root X d σ (σ.closeProtocol d.handle agent d.handle).2 := by
  rw [Registry.closeProtocol]
  split_ifs with hopen
  · have hunnamed (e : OpenEntry) (he : e ∈ σ.opens d.handle)
        (hchild : e.attributes = .byChildController) : e.controller ≠ d.handle := by
      obtain ⟨p', hp', hhandle, d', hd', hcontroller, -, hbelow⟩ := h.entry _ e he hchild
      intro hsame
      exact hbelow.ne (h.eq_of_handle hp' hd' (by rw [hhandle, hcontroller, hsame]))
    have hmem (handle : EfiHandle) (e : OpenEntry) :=
      Registry.mem_opens_close σ d.handle e agent d.handle handle
    refine ⟨⟨fun _ hd' _ => hd', fun _ hd' => .inl hd', fun d' hd' hother e _ => ?_⟩, ?_, ?_⟩
    · refine (hmem d'.handle e).trans (and_iff_left fun hmatch => hother ?_)
      rw [h.eq_of_handle hd' hd hmatch.1]
      exact .refl d
    · refine h.of_drivers (h.of_opens _ rfl rfl (fun handle e _ he => ((hmem handle e).mp he).1)
        fun handle hfree => ?_) fun handle e _ he => ((hmem handle e).mp he).1
      rw [List.eq_nil_iff_forall_not_mem]
      intro e he
      exact List.not_mem_nil (h.toRegistryInv.closed handle hfree ▸ ((hmem handle e).mp he).1)
    · intro p' hp' d' hd' hchild hX
      obtain ⟨e, he, hcontroller, hattributes⟩ := hlinked p' hp' d' hd' hchild hX
      refine ⟨e, (hmem _ e).mpr ⟨he, fun hmatch => ?_⟩, hcontroller, hattributes⟩
      exact hunnamed e (hmatch.1 ▸ he) hattributes hmatch.2.2
  · exact .refl h hlinked

end Invariant

section Remove

variable {bus : DtBusDriver} {root : DtDeviceRecord} {X : Set EfiHandle} {σ σ' : Registry}
  {p c : DtDeviceRecord} {agent : EfiHandle} {services : RemoveServices}

theorem DriverInv.closing (h : DriverInv bus root σ) (hlinked : σ.Linked bus X)
    (hp : p ∈ σ.devices) (hc : c ∈ σ.devices)
    (hlisted : ⟨agent, c.handle, .byChildController⟩ ∈ σ.opens p.handle)
    (hout : Outside X c σ) :
    DriverInv bus root (σ.closing c.handle p.handle agent) ∧
      LetGo bus root X p c (σ.closing c.handle p.handle agent) := by
  have hletGo := h.toRegistryInv.letGo hlinked hp hc hlisted fun d hd hchild =>
    hout.not_mem h.toRegistryInv hd hchild.beneath
  refine ⟨h.of_drivers hletGo.toRegistryInv fun handle e hdriver he => ?_, hletGo⟩
  exact ((mem_opens_closing _ _ _ e handle (not_isTransient_of_driver hdriver)).mp he).1

/-- Whatever the drivers of the child do, its uninstall changes what lies beneath it. -/
theorem LetGo.uninstall (h : LetGo bus root X p c σ) (hdriver : DriverInv bus root σ)
    (hout : Outside X c σ) (hdrivers : services.drivers.Documented bus root) :
    Registry.UninstallResult (KeepsBelow bus root (insert c.handle X) c σ) c.handle
      (σ.uninstall services.drivers services.devicePath c.handle).1
      (σ.uninstall services.drivers services.devicePath c.handle).2 := by
  have hout' : Outside (insert c.handle X) c σ := by
    intro x hx
    cases hx with
    | inl heq => exact ⟨c, h.mem, heq.symm, not_beneath_self c⟩
    | inr hmem => exact hout x hmem
  refine Registry.uninstall_cases _ _ _ _ (.refl hdriver h.linked)
    (fun σ' hσ' => hσ'.sameHeld (.closeTransient σ' c.handle)) fun _ => ⟨?_, fun σ' hσ' => ?_⟩
  · exact hdrivers.disconnect hdriver h.linked h.mem hout'
  · exact hσ'.trans (hdrivers.connect hσ'.inv hσ'.linked
      (hσ'.kept c h.mem (not_beneath_self c)) (hout'.keeps hσ'.toKeepsOutside (.refl c)))

/-- What is beneath a child that is let go does not concern its parent. -/
theorem LetGo.keeps (h : LetGo bus root X p c σ) (hout : Outside X c σ)
    (hkeeps : KeepsBelow bus root (insert c.handle X) c σ σ') : LetGo bus root X p c σ' where
  toRegistryInv := hkeeps.inv.toRegistryInv
  linked := hkeeps.linked
  parent_mem := hkeeps.kept p h.parent_mem fun hbeneath => h.isChildOf.not_within hbeneath.1
  mem := hkeeps.kept c h.mem (not_beneath_self c)
  isChildOf := h.isChildOf
  unlisted e he hchild := h.unlisted e ((hkeeps.opens p h.parent_mem h.isChildOf.not_within e
    (not_isTransient_of_child hchild)).mp he) hchild
  apart _ hd hchild := (hout.keeps hkeeps.toKeepsOutside (.refl c)).not_mem
    hkeeps.inv.toRegistryInv hd hchild.beneath

end Remove

/-- What the removal of some children leaves: they or what lies beneath them may be gone or
new, and nothing else is changed but for the opens of the children that are gone. -/
structure ChildrenStopped (σ : Registry) (children : List DtDeviceRecord) (σ' : Registry) :
    Prop where
  kept (d : DtDeviceRecord) (hd : d ∈ σ.devices) (hother : ∀ c ∈ children, ¬ Within c d) :
    d ∈ σ'.devices
  only (d : DtDeviceRecord) (hd : d ∈ σ'.devices) : d ∈ σ.devices ∨ ∃ c ∈ children, Beneath c d
  held (d : DtDeviceRecord) (hd : d ∈ σ.devices) (hother : ∀ c ∈ children, ¬ Within c d)
    (e : OpenEntry) (hchild : e.attributes = .byChildController) :
    e ∈ σ'.opens d.handle ↔ e ∈ σ.opens d.handle ∧
      ∀ c ∈ children, e.controller = c.handle → c ∈ σ'.devices
  drivers (d : DtDeviceRecord) (hd : d ∈ σ.devices) (hother : ∀ c ∈ children, ¬ Within c d)
    (e : OpenEntry) (hdriver : e.attributes = .byDriver) :
    e ∈ σ'.opens d.handle ↔ e ∈ σ.opens d.handle

namespace ChildrenStopped

variable {bus : DtBusDriver} {root : DtDeviceRecord} {σ σ' σ'' : Registry}
  {c p : DtDeviceRecord} {children : List DtDeviceRecord}

theorem of_sameHeld (hsame : SameHeld σ σ') (hmem : ∀ c ∈ children, c ∈ σ.devices) :
    ChildrenStopped σ children σ' where
  kept _ hd _ := hsame.devices ▸ hd
  only _ hd := .inl (hsame.devices ▸ hd)
  held d _ _ e hchild := (hsame.held d.handle e (not_isTransient_of_child hchild)).trans
    (and_iff_left fun c hc _ => hsame.devices ▸ hmem c hc).symm
  drivers d _ _ e hdriver := hsame.held d.handle e (not_isTransient_of_driver hdriver)

theorem trans (h : ChildrenStopped σ [c] σ') (h' : ChildrenStopped σ' children σ'')
    (hbeside : ∀ c' ∈ children, ¬ Within c' c) : ChildrenStopped σ (c :: children) σ'' := by
  have hkept (d : DtDeviceRecord) (hd : d ∈ σ.devices)
      (hother : ∀ c' ∈ c :: children, ¬ Within c' d) : d ∈ σ'.devices ∧
        (∀ c' ∈ [c], ¬ Within c' d) ∧ ∀ c' ∈ children, ¬ Within c' d := by
    rw [List.forall_mem_cons] at hother
    have hfirst : ∀ c' ∈ [c], ¬ Within c' d := List.forall_mem_singleton.mpr hother.1
    exact ⟨h.kept d hd hfirst, hfirst, hother.2⟩
  have hstays : c ∈ σ''.devices ↔ c ∈ σ'.devices := by
    refine ⟨fun hmem => ?_, fun hmem => h'.kept c hmem hbeside⟩
    refine (h'.only c hmem).resolve_right fun hnew => ?_
    obtain ⟨c', hc', hbeneath⟩ := hnew
    exact hbeside c' hc' hbeneath.1
  refine ⟨fun d hd hother => ?_, fun d hd => ?_, fun d hd hother e hchild => ?_,
    fun d hd hother e hdriver => ?_⟩
  · obtain ⟨hd', -, hrest⟩ := hkept d hd hother
    exact h'.kept d hd' hrest
  · cases h'.only d hd with
    | inl hold =>
        refine (h.only d hold).imp_right fun hnew => ?_
        obtain ⟨c', hc', hbeneath⟩ := hnew
        exact ⟨c', List.mem_singleton.mp hc' ▸ List.mem_cons_self, hbeneath⟩
    | inr hnew =>
        obtain ⟨c', hc', hbeneath⟩ := hnew
        exact .inr ⟨c', List.mem_cons_of_mem _ hc', hbeneath⟩
  · obtain ⟨hd', hfirst, hrest⟩ := hkept d hd hother
    rw [h'.held d hd' hrest e hchild, h.held d hd hfirst e hchild, List.forall_mem_singleton,
      List.forall_mem_cons, hstays, and_assoc]
  · obtain ⟨hd', hfirst, hrest⟩ := hkept d hd hother
    rw [h'.drivers d hd' hrest e hdriver, h.drivers d hd hfirst e hdriver]

theorem keepsOutside (h : ChildrenStopped σ children σ') (hinv : RegistryInv bus root σ)
    (hp : p ∈ σ.devices) (hmem : ∀ c ∈ children, c ∈ σ.devices)
    (hchild : ∀ c ∈ children, IsChildOf bus p c) : KeepsOutside p σ σ' := by
  have hother (d : DtDeviceRecord) (hd : ¬ Beneath p d) : ∀ c ∈ children, ¬ Within c d :=
    fun c hc hwithin => hd ((hchild c hc).beneath.within hwithin)
  refine ⟨fun d hd hbeneath => h.kept d hd (hother d hbeneath), fun d hd => ?_,
    fun d hd hwithin e hheld => ?_⟩
  · refine (h.only d hd).imp_right fun hnew => ?_
    obtain ⟨c, hc, hbeneath⟩ := hnew
    exact (hchild c hc).beneath.within hbeneath.1
  · have hbeside := hother d fun hbeneath => hwithin hbeneath.1
    cases OpenEntry.held_cases hheld with
    | inl hattributes =>
        rw [h.held d hd hbeside e hattributes]
        refine and_iff_left_of_imp fun he c hc hcontroller => ?_
        obtain ⟨p', hp', hhandle, c', hc', hcontroller', -, hbelow⟩ := hinv.entry _ e he hattributes
        obtain rfl := hinv.eq_of_handle hc' (hmem c hc) (hcontroller'.trans hcontroller)
        obtain rfl := hinv.eq_of_isChildOf hp' hp hbelow (hchild c' hc)
        exact absurd (hinv.eq_of_handle hp hd hhandle ▸ Within.refl _) hwithin
    | inr hattributes => exact h.drivers d hd hbeside e hattributes

end ChildrenStopped

section Stop

variable {bus : DtBusDriver} {root : DtDeviceRecord} {X : Set EfiHandle} {σ σ' : Registry}
  {agent : EfiHandle} {p c : DtDeviceRecord}

/-- What is done to the registry by a stop of some children. -/
structure Stopped (bus : DtBusDriver) (root : DtDeviceRecord) (X : Set EfiHandle) (σ : Registry)
    (children : List DtDeviceRecord) (σ' : Registry) : Prop
    extends ChildrenStopped σ children σ' where
  inv : DriverInv bus root σ'
  linked : σ'.Linked bus X

/-- A listed child has been let go, and its uninstall may have changed what lies beneath it. -/
structure Uninstalling (bus : DtBusDriver) (root : DtDeviceRecord) (X : Set EfiHandle)
    (σ : Registry) (p c : DtDeviceRecord) (agent : EfiHandle) (σ' : Registry) : Prop where
  before : DriverInv bus root σ
  parent_mem : p ∈ σ.devices
  mem : c ∈ σ.devices
  listed : ⟨agent, c.handle, .byChildController⟩ ∈ σ.opens p.handle
  keeps : KeepsBelow bus root (insert c.handle X) c (σ.closing c.handle p.handle agent) σ'
  letGo : LetGo bus root X p c σ'

namespace Uninstalling

theorem opens (h : Uninstalling bus root X σ p c agent σ') {d : DtDeviceRecord}
    (hd : d ∈ σ.devices) (hother : ¬ Within c d) {e : OpenEntry} (hheld : ¬ e.IsTransient) :
    e ∈ σ'.opens d.handle ↔ e ∈ σ.opens d.handle ∧
      ¬ (d.handle = p.handle ∧ e.agent = agent ∧ e.controller = c.handle) :=
  (h.keeps.opens d hd hother e hheld).trans (mem_opens_closing _ _ _ e d.handle hheld)

theorem drivers (h : Uninstalling bus root X σ p c agent σ') {d : DtDeviceRecord}
    (hd : d ∈ σ.devices) (hother : ¬ Within c d) {e : OpenEntry}
    (hdriver : e.attributes = .byDriver) : e ∈ σ'.opens d.handle ↔ e ∈ σ.opens d.handle := by
  rw [h.opens hd hother (not_isTransient_of_driver hdriver)]
  refine and_iff_left_of_imp fun he hmatch => h.letGo.isChildOf.ne ?_
  refine h.before.eq_of_handle h.parent_mem h.mem ?_
  rw [← hmatch.1, ← hmatch.2.2, h.before.drivers d.handle e he hdriver]

theorem kept (h : Uninstalling bus root X σ p c agent σ') {d : DtDeviceRecord}
    (hd : d ∈ σ.devices) (hother : ¬ Within c d) : d ∈ σ'.devices :=
  h.keeps.kept d hd fun hbeneath => hother hbeneath.1

theorem only (h : Uninstalling bus root X σ p c agent σ') {d : DtDeviceRecord}
    (hd : d ∈ σ'.devices) : d ∈ σ.devices ∨ ∃ c' ∈ [c], Beneath c' d :=
  (h.keeps.only d hd).imp_right fun hnew => ⟨c, List.mem_singleton_self c, hnew⟩

/-- The child stays, and the parent has opened it again. -/
theorem reopened (h : Uninstalling bus root X σ p c agent σ') :
    Stopped bus root X σ [c] (σ'.addOpen p.handle ⟨agent, c.handle, .byChildController⟩) := by
  obtain ⟨hinv, hlinked⟩ := h.letGo.relinked agent
  have hadded {handle : EfiHandle} {e : OpenEntry} (hdriver : e.attributes = .byDriver) :
      ¬ (handle = p.handle ∧ e = ⟨agent, c.handle, .byChildController⟩) := by
    intro hadded
    rw [hadded.2] at hdriver
    cases hdriver
  refine ⟨⟨fun d hd hother => ?_, fun d hd => h.only hd, fun d hd hother e hchild => ?_,
    fun d hd hother e hdriver => ?_⟩,
    h.keeps.inv.of_drivers hinv fun handle e hdriver he => ?_, hlinked⟩
  · exact h.kept hd (hother c (List.mem_singleton_self c))
  · rw [List.forall_mem_singleton] at hother ⊢
    rw [Registry.mem_opens_addOpen, h.opens hd hother (not_isTransient_of_child hchild)]
    constructor
    · intro hmem
      refine ⟨hmem.elim (fun hold => hold.1) fun hlisted => ?_, fun _ => h.letGo.mem⟩
      rw [hlisted.1, hlisted.2]
      exact h.listed
    · intro hold
      by_cases hmatch : d.handle = p.handle ∧ e.agent = agent ∧ e.controller = c.handle
      · refine .inr ⟨hmatch.1, ?_⟩
        rw [← hmatch.2.1, ← hmatch.2.2, ← hchild]
      · exact .inl ⟨hold.1, hmatch⟩
  · rw [List.forall_mem_singleton] at hother
    rw [Registry.mem_opens_addOpen, or_iff_left (hadded hdriver)]
    exact h.drivers hd hother hdriver
  · exact ((σ'.mem_opens_addOpen _ _ e handle).mp he).resolve_right (hadded hdriver)

/-- The child is gone, and with it what its parent had open for it. -/
theorem removed (h : Uninstalling bus root X σ p c agent σ')
    (hidle : ∀ e ∈ σ'.opens c.handle, e.IsTransient) :
    Stopped bus root X σ [c] (σ'.removed c) ∧ c ∉ (σ'.removed c).devices := by
  obtain ⟨hinv, hlinked⟩ := h.letGo.removed hidle
  have hdevices (d : DtDeviceRecord) : d ∈ (σ'.removed c).devices ↔ d ≠ c ∧ d ∈ σ'.devices := by
    have hnodup : σ'.devices.Nodup := List.Nodup.of_map _ h.letGo.handles
    rw [σ'.devices_removed c h.letGo.handles h.letGo.mem, hnodup.mem_erase_iff]
  have hself : c ∉ (σ'.removed c).devices := fun hmem => ((hdevices c).mp hmem).1 rfl
  have hne {d : DtDeviceRecord} (hd : d ∈ σ.devices) (hother : ¬ Within c d) :
      d.handle ≠ c.handle := by
    intro heq
    exact hother (h.before.eq_of_handle hd h.mem heq ▸ Within.refl d)
  refine ⟨⟨⟨fun d hd hother => ?_, fun d hd => h.only ((hdevices d).mp hd).2,
    fun d hd hother e hchild => ?_, fun d hd hother e hdriver => ?_⟩,
    h.keeps.inv.of_drivers hinv fun handle e _ he => ?_, hlinked⟩, hself⟩
  · rw [List.forall_mem_singleton] at hother
    exact (hdevices d).mpr ⟨fun heq => hother (heq ▸ Within.refl d), h.kept hd hother⟩
  · rw [List.forall_mem_singleton] at hother ⊢
    rw [Registry.mem_opens_removed, and_iff_right (hne hd hother),
      h.opens hd hother (not_isTransient_of_child hchild)]
    refine and_congr_right fun hold => ⟨fun hmatch hcontroller => absurd ?_ hmatch,
      fun hstill hmatch => hself (hstill hmatch.2.2)⟩
    obtain ⟨hparent, hagent⟩ :=
      h.before.held_eq h.parent_mem h.mem h.listed hold hchild hcontroller
    exact ⟨hparent, hagent, hcontroller⟩
  · rw [List.forall_mem_singleton] at hother
    rw [Registry.mem_opens_removed, and_iff_right (hne hd hother)]
    exact h.drivers hd hother hdriver
  · exact ((σ'.mem_opens_removed c e handle).mp he).2

end Uninstalling

/-- A named child is gone, or the removal has failed and it is still there. -/
theorem dtDeviceRemoveHandle_stopped (services : RemoveServices) (h : DriverInv bus root σ)
    (hlinked : σ.Linked bus X) (hp : p ∈ σ.devices) (hc : c ∈ σ.devices)
    (hlisted : ⟨agent, c.handle, .byChildController⟩ ∈ σ.opens p.handle) (hout : Outside X c σ)
    (hdrivers : services.drivers.Documented bus root) (hreopen : services.reopen = .ok ()) :
    Stopped bus root X σ [c] (dtDeviceRemoveHandle services σ c.handle p.handle agent).2 ∧
      ((dtDeviceRemoveHandle services σ c.handle p.handle agent).1 = .ok () ↔
        c ∉ (dtDeviceRemoveHandle services σ c.handle p.handle agent).2.devices) := by
  obtain ⟨hclosing, hletGo⟩ := h.closing hlinked hp hc hlisted hout
  have hresult := dtDeviceRemoveHandle_cases agent fun _ =>
    hletGo.uninstall hclosing hout hdrivers
  have huninstalling {σ' : Registry} (hkeeps : KeepsBelow bus root (insert c.handle X) c
      (σ.closing c.handle p.handle agent) σ') : Uninstalling bus root X σ p c agent σ' :=
    ⟨h, hp, hc, hlisted, hkeeps, hletGo.keeps hout hkeeps⟩
  generalize dtDeviceRemoveHandle services σ c.handle p.handle agent = result at hresult ⊢
  obtain ⟨status, σ'⟩ := result
  dsimp only at hresult ⊢
  cases hresult with
  | unknown hunknown => exact absurd (σ.mem_handles c hc) hunknown
  | refused e hchild =>
      have hsame := sameHeld_opened p.handle agent hchild
      exact ⟨⟨.of_sameHeld hsame (List.forall_mem_singleton.mpr hc), h.sameHeld hsame,
        hsame.linked hlinked⟩, iff_of_false nofun (not_not_intro hc)⟩
  | kept e σ₁ _ hkeeps =>
      have hgone := huninstalling hkeeps
      exact ⟨hgone.reopened, iff_of_false nofun (not_not_intro hgone.letGo.mem)⟩
  | lost e _ _ hkeeps hfails =>
      exact absurd (σ'.mem_handles p (huninstalling hkeeps).letGo.parent_mem) (hfails hreopen)
  | removed d σ₁ hd hhandle _ hkeeps hidle =>
      obtain rfl := h.eq_of_handle hd hc hhandle
      obtain ⟨hstopped, hself⟩ := (huninstalling hkeeps).removed hidle
      exact ⟨hstopped, iff_of_true rfl hself⟩

/-- What a stop is asked for: children that the agent has opened on the device, each once. -/
structure StopAsked (σ : Registry) (p : DtDeviceRecord) (agent : EfiHandle)
    (children : List DtDeviceRecord) : Prop where
  nodup : children.Nodup
  mem (c : DtDeviceRecord) (hc : c ∈ children) : c ∈ σ.devices
  listed (c : DtDeviceRecord) (hc : c ∈ children) :
    ⟨agent, c.handle, .byChildController⟩ ∈ σ.opens p.handle

variable {children : List DtDeviceRecord}

theorem StopAsked.isChildOf (hasked : StopAsked σ p agent children) (h : RegistryInv bus root σ)
    (hp : p ∈ σ.devices) (hc : c ∈ children) : IsChildOf bus p c :=
  h.child_of_listed hp (hasked.mem c hc) (hasked.listed c hc)

theorem StopAsked.beside (hasked : StopAsked σ p agent (c :: children))
    (h : RegistryInv bus root σ) (hp : p ∈ σ.devices) {c' : DtDeviceRecord}
    (hc' : c' ∈ children) : ¬ Within c c' ∧ ¬ Within c' c := by
  have hne : c ≠ c' := fun heq => (List.nodup_cons.mp hasked.nodup).1 (heq ▸ hc')
  have hmem := hasked.mem c List.mem_cons_self
  have hmem' := hasked.mem c' (List.mem_cons_of_mem _ hc')
  have hchild := hasked.isChildOf h hp List.mem_cons_self
  have hchild' := hasked.isChildOf h hp (List.mem_cons_of_mem _ hc')
  exact ⟨h.not_within_sibling hmem hmem' hchild hchild' hne,
    h.not_within_sibling hmem' hmem hchild' hchild hne.symm⟩

theorem StopAsked.tail (hasked : StopAsked σ p agent (c :: children))
    (h : RegistryInv bus root σ) (hp : p ∈ σ.devices) (hstopped : ChildrenStopped σ [c] σ') :
    StopAsked σ' p agent children where
  nodup := (List.nodup_cons.mp hasked.nodup).2
  mem c' hc' := by
    refine hstopped.kept c' (hasked.mem c' (List.mem_cons_of_mem _ hc')) ?_
    exact List.forall_mem_singleton.mpr (hasked.beside h hp hc').1
  listed c' hc' := by
    have hparent := (hasked.isChildOf h hp (List.mem_cons_self)).not_within
    refine (hstopped.held p hp (List.forall_mem_singleton.mpr hparent) _ rfl).mpr
      ⟨hasked.listed c' (List.mem_cons_of_mem _ hc'), List.forall_mem_singleton.mpr fun hsame => ?_⟩
    have heq := h.eq_of_handle (hasked.mem c' (List.mem_cons_of_mem _ hc'))
      (hasked.mem c List.mem_cons_self) hsame
    exact absurd (heq ▸ hc') (List.nodup_cons.mp hasked.nodup).1

theorem stopChildren_stopped (services : EfiHandle → RemoveServices) (h : DriverInv bus root σ)
    (hlinked : σ.Linked bus X) (hp : p ∈ σ.devices) (hout : Outside X p σ)
    (hasked : StopAsked σ p agent children)
    (hdrivers : ∀ c ∈ children, (services c.handle).drivers.Documented bus root)
    (hreopen : ∀ c ∈ children, (services c.handle).reopen = .ok ()) (flag : Bool) :
    Stopped bus root X σ children
        (stopChildren services agent p.handle (children.map (·.handle)) (flag, σ)).2 ∧
      ((stopChildren services agent p.handle (children.map (·.handle)) (flag, σ)).1 = true ↔
        flag = true ∧ ∀ c ∈ children, c ∉
          (stopChildren services agent p.handle (children.map (·.handle))
            (flag, σ)).2.devices) := by
  induction children generalizing σ flag with
  | nil =>
      exact ⟨⟨.of_sameHeld (.refl σ) (fun _ hc => nomatch hc), h, hlinked⟩, by simp [stopChildren]⟩
  | cons c children ih =>
      have hchild := hasked.isChildOf h.toRegistryInv hp List.mem_cons_self
      have hremoved := dtDeviceRemoveHandle_stopped (services c.handle) h hlinked hp
        (hasked.mem c List.mem_cons_self) (hasked.listed c List.mem_cons_self)
        (hout.of_beneath hchild.beneath) (hdrivers c List.mem_cons_self)
        (hreopen c List.mem_cons_self)
      rw [List.map_cons, stopChildren, List.foldl_cons, ← stopChildren, stopChild]
      generalize dtDeviceRemoveHandle (services c.handle) σ c.handle p.handle agent = result
        at hremoved
      obtain ⟨status, σ₁⟩ := result
      obtain ⟨hstopped, hstatus⟩ := hremoved
      have hp₁ : p ∈ σ₁.devices :=
        hstopped.kept p hp (List.forall_mem_singleton.mpr hchild.not_within)
      have hout₁ : Outside X p σ₁ := by
        intro x hx
        obtain ⟨d, hd, hhandle, hother⟩ := hout x hx
        refine ⟨d, hstopped.kept d hd ?_, hhandle, hother⟩
        exact List.forall_mem_singleton.mpr fun hwithin => hother (hchild.beneath.within hwithin)
      have hbeside (c' : DtDeviceRecord) (hc' : c' ∈ children) :=
        (hasked.beside h.toRegistryInv hp hc').2
      have hrest (flag : Bool) := ih hstopped.inv hstopped.linked hp₁ hout₁
        (hasked.tail h.toRegistryInv hp hstopped.toChildrenStopped)
        (fun c' hc' => hdrivers c' (List.mem_cons_of_mem _ hc'))
        (fun c' hc' => hreopen c' (List.mem_cons_of_mem _ hc')) flag
      have hall {σ₂ : Registry} (hlater : Stopped bus root X σ₁ children σ₂) :
          Stopped bus root X σ (c :: children) σ₂ :=
        ⟨hstopped.toChildrenStopped.trans hlater.toChildrenStopped hbeside, hlater.inv,
          hlater.linked⟩
      have hstays {σ₂ : Registry} (hlater : Stopped bus root X σ₁ children σ₂) :
          c ∈ σ₂.devices ↔ c ∈ σ₁.devices := by
        refine ⟨fun hmem => (hlater.only c hmem).resolve_right fun hnew => ?_,
          fun hmem => hlater.kept c hmem hbeside⟩
        obtain ⟨c', hc', hbeneath⟩ := hnew
        exact hbeside c' hc' hbeneath.1
      cases status with
      | ok u =>
          obtain ⟨hlater, hflag⟩ := hrest flag
          refine ⟨hall hlater, hflag.trans (and_congr_right fun _ => ?_)⟩
          rw [List.forall_mem_cons, hstays hlater]
          exact (and_iff_right (hstatus.mp rfl)).symm
      | error e =>
          obtain ⟨hlater, hflag⟩ := hrest false
          refine ⟨hall hlater, hflag.trans ?_⟩
          refine iff_of_false (fun hfalse => Bool.false_ne_true hfalse.1) fun hgone => ?_
          rw [List.forall_mem_cons, hstays hlater] at hgone
          cases hstatus.mpr hgone.2.1

end Stop

end FdtBusPkg
