import FdtBusPkg.DtBus.Registration

/-!
The removal of a device. Its parent lets it go before the protocols are uninstalled, and opens
it again when the protocols stay, so in between the registry is linked but for the device.
-/
namespace FdtBusPkg

/-- Only opens that do not keep a protocol differ. -/
structure SameHeld (σ σ' : Registry) : Prop where
  devices : σ'.devices = σ.devices
  critical : σ'.criticalDevices = σ.criticalDevices
  held (handle : EfiHandle) (e : OpenEntry) (hheld : ¬ e.IsTransient) :
    e ∈ σ'.opens handle ↔ e ∈ σ.opens handle
  closed (handle : EfiHandle) (hfree : handle ∉ σ.handles) (hnone : σ.opens handle = []) :
    σ'.opens handle = []

namespace SameHeld

variable {bus : DtBusDriver} {root : DtDeviceRecord} {σ σ' σ'' : Registry}

theorem refl (σ : Registry) : SameHeld σ σ := ⟨rfl, rfl, fun _ _ _ => Iff.rfl, fun _ _ h => h⟩

theorem handles (h : SameHeld σ σ') : σ'.handles = σ.handles := by
  rw [Registry.handles, h.devices, Registry.handles]

theorem trans (h : SameHeld σ σ') (h' : SameHeld σ' σ'') : SameHeld σ σ'' where
  devices := h'.devices.trans h.devices
  critical := h'.critical.trans h.critical
  held handle e hheld := (h'.held handle e hheld).trans (h.held handle e hheld)
  closed handle hfree hnone :=
    h'.closed handle (h.handles ▸ hfree) (h.closed handle hfree hnone)

theorem closeTransient (σ : Registry) (handle : EfiHandle) :
    SameHeld σ (σ.closeTransient handle) where
  devices := rfl
  critical := rfl
  held handle' e hheld := by
    rw [Registry.mem_opens_closeTransient]
    exact and_iff_left fun h => hheld h.2
  closed handle' hfree hnone := by
    rw [List.eq_nil_iff_forall_not_mem]
    intro e he
    exact List.not_mem_nil (hnone ▸ ((σ.mem_opens_closeTransient _ _ e).mp he).1)

theorem addOpen {handle : EfiHandle} {entry : OpenEntry} (hmem : handle ∈ σ.handles)
    (htransient : entry.IsTransient) : SameHeld σ (σ.addOpen handle entry) where
  devices := rfl
  critical := rfl
  held handle' e hheld := by
    rw [Registry.mem_opens_addOpen]
    exact or_iff_left fun hadded => hheld (hadded.2 ▸ htransient)
  closed handle' hfree hnone := by
    have hne : handle' ≠ handle := fun heq => hfree (heq ▸ hmem)
    rw [Registry.addOpen]
    dsimp only
    rw [Function.update_of_ne hne, hnone]

theorem registryInv (hsame : SameHeld σ σ') (h : RegistryInv bus root σ) :
    RegistryInv bus root σ' :=
  h.of_opens σ' hsame.devices hsame.critical
    (fun handle e hchild => (hsame.held handle e (not_isTransient_of_child hchild)).mp)
    fun handle hfree => hsame.closed handle hfree (h.closed handle hfree)

theorem linked {X : Set EfiHandle} (hsame : SameHeld σ σ') (h : σ.Linked bus X) :
    σ'.Linked bus X := by
  intro p hp d hd hchild hX
  rw [hsame.devices] at hp hd
  obtain ⟨e, he, hcontroller, hattributes⟩ := h p hp d hd hchild hX
  exact ⟨e, (hsame.held _ e (not_isTransient_of_child hattributes)).mpr he, hcontroller,
    hattributes⟩

end SameHeld

section Remove

variable (services : RemoveServices) (σ : Registry) (child parent agent : EfiHandle)

/-- The registry once a removal has opened the device. -/
def Registry.opened : Registry := σ.addOpen child ⟨agent, parent, .getProtocol⟩

structure Closing : Prop where
  mem : child ∈ σ.handles
  empty : services.mapsEmpty = true
  isOpen : (σ.opened child parent agent).isOpenBy parent agent child = true

/-- The registry once a removal has closed the parent. -/
def Registry.closing : Registry := (σ.opened child parent agent).close parent agent child

/-- The registry once a device is dropped and cleaned up. -/
def Registry.removed (d : DtDeviceRecord) : Registry := dtDeviceCleanup (σ.drop d.handle) d

/-- What a removal does, when its uninstall leaves what `R` allows. -/
inductive RemoveResult (R : Registry → Prop) : EfiStatus → Registry → Prop
  | unknown (hunknown : child ∉ σ.handles) : RemoveResult R (.error .unsupported) σ
  | refused (e : EfiError) (hchild : child ∈ σ.handles) :
      RemoveResult R (.error e) (σ.opened child parent agent)
  | kept (e : EfiError) (σ' : Registry) (hclosing : Closing services σ child parent agent)
      (h : R σ') :
      RemoveResult R (.error e) (σ'.addOpen parent ⟨agent, child, .byChildController⟩)
  | lost (e : EfiError) (σ' : Registry) (hclosing : Closing services σ child parent agent)
      (h : R σ') (hreopen : services.reopen = .ok () → parent ∉ σ'.handles) :
      RemoveResult R (.error e) σ'
  | removed (d : DtDeviceRecord) (σ' : Registry) (hd : d ∈ σ.devices) (hhandle : d.handle = child)
      (hclosing : Closing services σ child parent agent) (h : R σ')
      (hidle : ∀ e ∈ σ'.opens child, e.IsTransient) :
      RemoveResult R (.ok ()) (σ'.removed d)

variable {services σ child parent agent}

variable (agent) in
theorem dtDeviceRemoveHandle_cases {R : Registry → Prop}
    (huninstall : Closing services σ child parent agent → Registry.UninstallResult R child
      ((σ.closing child parent agent).uninstall services.drivers services.devicePath child).1
      ((σ.closing child parent agent).uninstall services.drivers services.devicePath child).2) :
    RemoveResult services σ child parent agent R
      (dtDeviceRemoveHandle services σ child parent agent).1
      (dtDeviceRemoveHandle services σ child parent agent).2 := by
  rw [dtDeviceRemoveHandle]
  cases hfind : σ.find child with
  | none =>
      refine .unknown fun hmem => ?_
      obtain ⟨d, hd, hhandle⟩ := List.mem_map.mp hmem
      exact List.find?_eq_none.mp hfind d hd (decide_eq_true hhandle)
  | some d =>
      have hd : d ∈ σ.devices := List.mem_of_find?_eq_some hfind
      have hhandle : d.handle = child := by simpa using List.find?_some hfind
      have hchild : child ∈ σ.handles := hhandle ▸ σ.mem_handles d hd
      have hopened : σ.openProtocol (.ok ()) child ⟨agent, parent, .getProtocol⟩ =
          (.ok (), σ.opened child parent agent) := by
        simp [Registry.openProtocol, hchild, Registry.opened]
      rw [hopened]
      dsimp only
      rw [dtDeviceRemove]
      split
      · exact .refused _ hchild
      · next hmaps =>
          rw [dtDeviceUnregister, hhandle, Registry.closeProtocol]
          cases hopen : (σ.opened child parent agent).isOpenBy parent agent child with
          | false => exact .refused _ hchild
          | true =>
              have hclosing : Closing services σ child parent agent :=
                ⟨hchild, by simpa using hmaps, hopen⟩
              have hresult := huninstall hclosing
              rw [if_pos rfl]
              dsimp only
              rw [← Registry.closing]
              generalize (σ.closing child parent agent).uninstall services.drivers
                services.devicePath child = result at hresult
              obtain ⟨status, σ'⟩ := result
              dsimp only at hresult
              cases hresult with
              | kept e _ h =>
                  dsimp only
                  obtain ⟨e', hreopen, hfails⟩ | hreopen :=
                    σ'.openProtocol_cases services.reopen parent ⟨agent, child, .byChildController⟩
                  · rw [hreopen]
                    exact .lost e' σ' hclosing h hfails
                  · rw [hreopen]
                    exact .kept e σ' hclosing h
              | gone σ₁ h hidle =>
                  have hremoved := RemoveResult.removed d σ₁ hd hhandle hclosing h hidle
                  rwa [Registry.removed, hhandle] at hremoved

variable (services σ child parent agent) in
/-- An open that a removal would close is one by child controller. It is not when the
device names itself, or was asked before to remove the parent. -/
def ClosesOnlyChild : Prop :=
  child ∈ σ.handles → services.mapsEmpty = true →
    child = parent ∨ σ.isOpenBy parent agent child = true →
      ⟨agent, child, .byChildController⟩ ∈ σ.opens parent

/-- An open that lets `CloseProtocol` succeed was there before the removal opened the
device, unless the device is the parent itself. -/
theorem isOpenBy_opened
    (hopen : (σ.opened child parent agent).isOpenBy parent agent child = true) :
    child = parent ∨ σ.isOpenBy parent agent child = true := by
  rw [Registry.isOpenBy, List.any_eq_true] at hopen
  obtain ⟨e, he, hmatch⟩ := hopen
  rw [Registry.opened, Registry.mem_opens_addOpen] at he
  cases he with
  | inl hold => exact .inr (List.any_eq_true.mpr ⟨e, hold, hmatch⟩)
  | inr hadded => exact .inl hadded.1.symm

theorem Closing.listed (h : Closing services σ child parent agent)
    (hchecked : ClosesOnlyChild services σ child parent agent) :
    ⟨agent, child, .byChildController⟩ ∈ σ.opens parent :=
  hchecked h.mem h.empty (isOpenBy_opened h.isOpen)

variable (parent agent) in
theorem sameHeld_opened (hchild : child ∈ σ.handles) :
    SameHeld σ (σ.opened child parent agent) :=
  .addOpen hchild (.inr (.inl rfl))

variable (child parent agent) in
theorem mem_opens_closing (e : OpenEntry) (handle : EfiHandle) (hheld : ¬ e.IsTransient) :
    e ∈ (σ.closing child parent agent).opens handle ↔ e ∈ σ.opens handle ∧
      ¬ (handle = parent ∧ e.agent = agent ∧ e.controller = child) := by
  rw [Registry.closing, Registry.mem_opens_close, Registry.opened, Registry.mem_opens_addOpen]
  refine and_congr_left fun _ => or_iff_left fun hadded => hheld ?_
  rw [hadded.2]
  exact .inr (.inl rfl)

end Remove

namespace Registry

variable (σ : Registry) (d : DtDeviceRecord)

theorem devices_removed (hnodup : σ.handles.Nodup) (hd : d ∈ σ.devices) :
    (σ.removed d).devices = σ.devices.erase d := by
  have hdrop : (σ.drop d.handle).devices = σ.devices.erase d := by
    have hkeys : (σ.devices.map DtDeviceRecord.handle).Nodup := hnodup
    exact KeyedList.eraseP_key hkeys hd
  rw [removed, dtDeviceCleanup]
  split <;> exact hdrop

theorem mem_opens_removed (e : OpenEntry) (handle : EfiHandle) :
    e ∈ (σ.removed d).opens handle ↔ handle ≠ d.handle ∧ e ∈ σ.opens handle := by
  have hdrop : (σ.removed d).opens = (σ.drop d.handle).opens := by
    rw [removed, dtDeviceCleanup]
    split <;> rfl
  rw [hdrop]
  by_cases hsame : handle = d.handle
  · subst hsame
    simp [drop]
  · simp [drop, hsame]

theorem criticalDevices_removed :
    (σ.removed d).criticalDevices =
      if d.isCritical then σ.criticalDevices.erase d.dtIo else σ.criticalDevices := by
  rw [removed, dtDeviceCleanup]
  split <;> rfl

end Registry

section Kept

variable {bus : DtBusDriver} {root : DtDeviceRecord} {σ : Registry} {p d : DtDeviceRecord}
  {agent child : EfiHandle}

theorem RegistryInv.child_of_listed (h : RegistryInv bus root σ) (hp : p ∈ σ.devices)
    (hd : d ∈ σ.devices) (hlisted : ⟨agent, d.handle, .byChildController⟩ ∈ σ.opens p.handle) :
    IsChildOf bus p d := by
  obtain ⟨p', hp', hhandle, d', hd', hcontroller, -, hchild⟩ := h.entry _ _ hlisted rfl
  obtain rfl := h.eq_of_handle hp' hp hhandle
  obtain rfl := h.eq_of_handle hd' hd hcontroller
  exact hchild

/-- The opens for a child by child controllers are those of its parent, by one agent. -/
theorem RegistryInv.held_eq (h : RegistryInv bus root σ) (hp : p ∈ σ.devices)
    (hd : d ∈ σ.devices) (hlisted : ⟨agent, d.handle, .byChildController⟩ ∈ σ.opens p.handle)
    {handle : EfiHandle} {e : OpenEntry} (he : e ∈ σ.opens handle)
    (hchild : e.attributes = .byChildController) (hcontroller : e.controller = d.handle) :
    handle = p.handle ∧ e.agent = agent := by
  obtain ⟨p', hp', rfl, d', hd', hcontroller', -, hbelow⟩ := h.entry handle e he hchild
  obtain rfl := h.eq_of_handle hd' hd (hcontroller'.trans hcontroller)
  obtain rfl := h.eq_of_isChildOf hp' hp hbelow (h.child_of_listed hp hd hlisted)
  exact ⟨rfl, h.agent _ e _ he hlisted hchild rfl hcontroller⟩

theorem RegistryInv.relinked (h : RegistryInv bus root σ) (hp : p ∈ σ.devices)
    (hd : d ∈ σ.devices) (hbelow : IsChildOf bus p d) (agent : EfiHandle)
    (hnone : ∀ e ∈ σ.opens p.handle, e.attributes = .byChildController →
      e.controller ≠ d.handle) :
    RegistryInv bus root (σ.addOpen p.handle ⟨agent, d.handle, .byChildController⟩) where
  isRoot := h.isRoot
  root_mem := h.root_mem
  handles := h.handles
  dtIos := h.dtIos
  paths := h.paths
  below := h.below
  entry handle e he hchild := by
    cases (σ.mem_opens_addOpen _ _ e handle).mp he with
    | inl hold => exact h.entry handle e hold hchild
    | inr hadded =>
        obtain ⟨rfl, rfl⟩ := hadded
        exact ⟨p, hp, rfl, d, hd, rfl, h.ne_root hbelow, hbelow⟩
  agent handle e e' he he' hchild hchild' hsame := by
    rw [Registry.mem_opens_addOpen] at he he'
    cases he with
    | inl hold =>
        cases he' with
        | inl hold' => exact h.agent handle e e' hold hold' hchild hchild' hsame
        | inr hadded' =>
            rw [hadded'.2] at hsame
            exact absurd hsame (hnone e (hadded'.1 ▸ hold) hchild)
    | inr hadded =>
        cases he' with
        | inl hold' =>
            rw [hadded.2] at hsame
            exact absurd hsame.symm (hnone e' (hadded.1 ▸ hold') hchild')
        | inr hadded' => rw [hadded.2, hadded'.2]
  closed handle hfree := by
    have hne : handle ≠ p.handle := fun heq => hfree (heq ▸ σ.mem_handles p hp)
    rw [Registry.addOpen]
    dsimp only
    rw [Function.update_of_ne hne, h.closed handle hfree]
  critical := h.critical

/-- A registered device that is the parent of none, and that no open names, is taken away. -/
theorem RegistryInv.removed (h : RegistryInv bus root σ) (hd : d ∈ σ.devices) (hne : d ≠ root)
    (hleaf : ∀ d' ∈ σ.devices, ¬ IsChildOf bus d d')
    (hnone : ∀ handle, ∀ e ∈ σ.opens handle, e.attributes = .byChildController →
      e.controller ≠ d.handle) : RegistryInv bus root (σ.removed d) := by
  have hnodup : σ.devices.Nodup := List.Nodup.of_map _ h.handles
  have hdevices := σ.devices_removed d h.handles hd
  have hsub : (σ.devices.erase d).Sublist σ.devices := List.erase_sublist
  refine ⟨h.isRoot, ?_, ?_, ?_, ?_, ?_, ?_, ?_, ?_, ?_⟩
  · rw [hdevices]
    exact (List.mem_erase_of_ne (Ne.symm hne)).mpr h.root_mem
  · rw [Registry.handles, hdevices]
    exact h.handles.sublist (hsub.map _)
  · rw [hdevices]
    exact h.dtIos.sublist (hsub.map _)
  · rw [hdevices]
    exact h.paths.sublist (hsub.map _)
  · intro d' hd' hroot
    rw [hdevices, hnodup.mem_erase_iff] at hd'
    obtain ⟨p', hp', hchild'⟩ := h.below d' hd'.2 hroot
    refine ⟨p', ?_, hchild'⟩
    rw [hdevices, hnodup.mem_erase_iff]
    exact ⟨fun heq => hleaf d' hd'.2 (heq ▸ hchild'), hp'⟩
  · intro handle e he hattributes
    obtain ⟨hother, hold⟩ := (σ.mem_opens_removed d e handle).mp he
    obtain ⟨p', hp', rfl, d', hd', hcontroller, hroot, hchild'⟩ := h.entry handle e hold hattributes
    have hparent : p' ≠ d := fun heq => hother (heq ▸ rfl)
    have hdevice : d' ≠ d := fun heq => hnone _ e hold hattributes (heq ▸ hcontroller.symm)
    rw [hdevices]
    exact ⟨p', hnodup.mem_erase_iff.mpr ⟨hparent, hp'⟩, rfl, d',
      hnodup.mem_erase_iff.mpr ⟨hdevice, hd'⟩, hcontroller, hroot, hchild'⟩
  · intro handle e e' he he' hattributes hattributes' hcontroller
    rw [Registry.mem_opens_removed] at he he'
    exact h.agent handle e e' he.2 he'.2 hattributes hattributes' hcontroller
  · intro handle hfree
    rw [List.eq_nil_iff_forall_not_mem]
    intro e he
    rw [Registry.mem_opens_removed] at he
    refine List.not_mem_nil (h.closed handle ?_ ▸ he.2)
    intro hmem
    obtain ⟨d', hd', hsame⟩ := List.mem_map.mp hmem
    refine hfree (List.mem_map.mpr ⟨d', ?_, hsame⟩)
    rw [hdevices, hnodup.mem_erase_iff]
    refine ⟨fun heq => he.1 ?_, hd'⟩
    rw [← hsame, heq]
  · rw [Registry.criticalDevices_removed, hdevices, h.critical,
      KeyedList.map_filter_erase _ h.dtIos hd]

theorem Registry.Linked.removed {X : Set EfiHandle} (hlinked : σ.Linked bus X)
    (h : RegistryInv bus root σ) (hd : d ∈ σ.devices) : (σ.removed d).Linked bus X := by
  have hnodup : σ.devices.Nodup := List.Nodup.of_map _ h.handles
  intro p' hp' d' hd' hchild hX
  rw [σ.devices_removed d h.handles hd, hnodup.mem_erase_iff] at hp' hd'
  obtain ⟨e, he, hcontroller, hattributes⟩ := hlinked p' hp'.2 d' hd'.2 hchild hX
  refine ⟨e, (σ.mem_opens_removed d e _).mpr ⟨fun heq => hp'.1 ?_, he⟩, hcontroller, hattributes⟩
  exact h.eq_of_handle hp'.2 hd heq

end Kept

/-- A child that its parent has let go, in a registry that is linked but for `X` and the child. -/
structure LetGo (bus : DtBusDriver) (root : DtDeviceRecord) (X : Set EfiHandle)
    (p d : DtDeviceRecord) (σ : Registry) : Prop extends RegistryInv bus root σ where
  linked : σ.Linked bus (insert d.handle X)
  parent_mem : p ∈ σ.devices
  mem : d ∈ σ.devices
  isChildOf : IsChildOf bus p d
  unlisted (e : OpenEntry) (he : e ∈ σ.opens p.handle)
    (hchild : e.attributes = .byChildController) : e.controller ≠ d.handle
  apart (d' : DtDeviceRecord) (hd' : d' ∈ σ.devices) (hchild : IsChildOf bus d d') :
    d'.handle ∉ X

namespace LetGo

variable {bus : DtBusDriver} {root : DtDeviceRecord} {X : Set EfiHandle} {p d : DtDeviceRecord}
  {σ σ' : Registry}

theorem sameHeld (h : LetGo bus root X p d σ) (hsame : SameHeld σ σ') :
    LetGo bus root X p d σ' where
  toRegistryInv := hsame.registryInv h.toRegistryInv
  linked := hsame.linked h.linked
  parent_mem := hsame.devices ▸ h.parent_mem
  mem := hsame.devices ▸ h.mem
  isChildOf := h.isChildOf
  unlisted e he hchild :=
    h.unlisted e ((hsame.held _ e (not_isTransient_of_child hchild)).mp he) hchild
  apart d' hd' := h.apart d' (hsame.devices ▸ hd')

theorem unnamed (h : LetGo bus root X p d σ) (handle : EfiHandle) (e : OpenEntry)
    (he : e ∈ σ.opens handle) (hchild : e.attributes = .byChildController) :
    e.controller ≠ d.handle := by
  intro hcontroller
  obtain ⟨p', hp', rfl, d', hd', hcontroller', -, hbelow⟩ := h.entry handle e he hchild
  obtain rfl := h.eq_of_handle hd' h.mem (hcontroller'.trans hcontroller)
  obtain rfl := h.eq_of_isChildOf hp' h.parent_mem hbelow h.isChildOf
  exact h.unlisted e he hchild hcontroller

theorem relinked (h : LetGo bus root X p d σ) (agent : EfiHandle) :
    RegistryInv bus root (σ.addOpen p.handle ⟨agent, d.handle, .byChildController⟩) ∧
      (σ.addOpen p.handle ⟨agent, d.handle, .byChildController⟩).Linked bus X := by
  refine ⟨h.toRegistryInv.relinked h.parent_mem h.mem h.isChildOf agent h.unlisted, ?_⟩
  intro p' hp' d' hd' hchild hX
  by_cases hsame : d'.handle = d.handle
  · obtain rfl := h.eq_of_handle hd' h.mem hsame
    obtain rfl := h.eq_of_isChildOf hp' h.parent_mem hchild h.isChildOf
    exact ⟨_, (σ.mem_opens_addOpen _ _ _ _).mpr (.inr ⟨rfl, rfl⟩), rfl, rfl⟩
  · obtain ⟨e, he, hcontroller, hattributes⟩ :=
      h.linked p' hp' d' hd' hchild fun hmem => hmem.elim hsame hX
    exact ⟨e, (σ.mem_opens_addOpen _ _ _ _).mpr (.inl he), hcontroller, hattributes⟩

theorem removed (h : LetGo bus root X p d σ) (hidle : ∀ e ∈ σ.opens d.handle, e.IsTransient) :
    RegistryInv bus root (σ.removed d) ∧ (σ.removed d).Linked bus X := by
  have hleaf (d' : DtDeviceRecord) (hd' : d' ∈ σ.devices) : ¬ IsChildOf bus d d' := by
    intro hchild
    have hother : d'.handle ≠ d.handle := fun heq =>
      hchild.ne (h.eq_of_handle h.mem hd' heq.symm)
    obtain ⟨e, he, -, hattributes⟩ := h.linked d h.mem d' hd' hchild fun hmem =>
      hmem.elim hother (h.apart d' hd' hchild)
    exact not_isTransient_of_child hattributes (hidle e he)
  refine ⟨h.toRegistryInv.removed h.mem (h.ne_root h.isChildOf) hleaf h.unnamed, ?_⟩
  have hlinked := h.linked.removed h.toRegistryInv h.mem
  intro p' hp' d' hd' hchild hX
  refine hlinked p' hp' d' hd' hchild fun hmem => hmem.elim (fun heq => ?_) hX
  rw [σ.devices_removed d h.handles h.mem,
    (List.Nodup.of_map _ h.handles).mem_erase_iff] at hd'
  exact hd'.1 (h.eq_of_handle hd'.2 h.mem heq)

end LetGo

theorem RegistryInv.letGo {bus : DtBusDriver} {root : DtDeviceRecord} {X : Set EfiHandle}
    {p d : DtDeviceRecord} {agent : EfiHandle} {σ : Registry} (h : RegistryInv bus root σ)
    (hlinked : σ.Linked bus X) (hp : p ∈ σ.devices) (hd : d ∈ σ.devices)
    (hlisted : ⟨agent, d.handle, .byChildController⟩ ∈ σ.opens p.handle)
    (hapart : ∀ d' ∈ σ.devices, IsChildOf bus d d' → d'.handle ∉ X) :
    LetGo bus root X p d (σ.closing d.handle p.handle agent) := by
  have hbelow := h.child_of_listed hp hd hlisted
  have hopens (handle : EfiHandle) (e : OpenEntry) (hchild : e.attributes = .byChildController) :=
    mem_opens_closing (σ := σ) d.handle p.handle agent e handle (not_isTransient_of_child hchild)
  have hinv : RegistryInv bus root (σ.closing d.handle p.handle agent) := by
    refine h.of_opens _ rfl rfl (fun handle e hchild he => ((hopens handle e hchild).mp he).1) ?_
    intro handle hfree
    have hopened := (sameHeld_opened p.handle agent
      (σ.mem_handles d hd)).closed handle hfree (h.closed handle hfree)
    rw [List.eq_nil_iff_forall_not_mem]
    intro e he
    exact List.not_mem_nil (hopened ▸ ((Registry.mem_opens_close _ _ _ _ _ _).mp he).1)
  refine ⟨hinv, ?_, hp, hd, hbelow, fun e he hchild hcontroller => ?_, hapart⟩
  · intro p' hp' d' hd' hchild hX
    obtain ⟨e, he, hcontroller, hattributes⟩ := hlinked p' hp' d' hd' hchild
      fun hmem => hX (Set.mem_insert_of_mem _ hmem)
    refine ⟨e, (hopens _ e hattributes).mpr ⟨he, fun hmatch => ?_⟩, hcontroller, hattributes⟩
    exact hX (.inl (hcontroller.symm.trans hmatch.2.2))
  · obtain ⟨hold, hkept⟩ := (hopens _ e hchild).mp he
    exact hkept ⟨rfl, (h.held_eq hp hd hlisted hold hchild hcontroller).2, hcontroller⟩

end FdtBusPkg
