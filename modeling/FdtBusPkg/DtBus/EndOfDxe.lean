import Mathlib.Data.List.Perm.Subperm
import FdtBusPkg.DtBus.DriverStart

/-!
Critical devices at End-of-DXE. The list of critical devices is walked and every
device on it that has no driver bound is connected, with what lies below. A bus that
was started for some of its children only has a driver bound, so it is passed over
and its other children are never created.
-/
namespace FdtBusPkg

/-- The remaining path of a start is absent or begins with the node of the name. -/
def StartsName (remaining : Option DevicePath) (name : AsciiStr) : Prop :=
  ∀ path, remaining = some path →
    isDtDevicePathNode path = true ∧ devicePathNodeName path = name

structure BusStart where
  device : DtDeviceRecord
  remaining : Option DevicePath
  services : ScanServices

/-- The start is for all children of its device, or for the node. -/
def BusStart.Names (bus : DtBusDriver) (s : BusStart) (m : Int) : Prop :=
  ∀ name, bus.tree.getName m = some name → StartsName s.remaining name

/-- The registries that starts reach, the last start first. Other drivers start on
devices that the bus driver does not support. -/
inductive StartRun (b : RootedBus) (agent : EfiHandle) (P : ScanServices → Prop) :
    List BusStart → Registry → Prop
  | initial : StartRun b agent P [] b.initial
  | start {started : List BusStart} {σ : Registry} (s : BusStart)
      (run : StartRun b agent P started σ) (hdevice : s.device ∈ σ.devices)
      (hsupported : driverSupported b.bus σ agent s.device.handle s.remaining = .ok ())
      (hservices : P s.services) :
      StartRun b agent P (s :: started)
        (driverStart b.bus σ agent s.services s.device s.remaining).2
  | client {started : List BusStart} {σ : Registry} (d : DtDeviceRecord) (other : EfiHandle)
      (run : StartRun b agent P started σ) (hdevice : d ∈ σ.devices)
      (hunsupported : driverSupported b.bus σ agent d.handle none ≠ .ok ()) :
      StartRun b agent P started (σ.openByDriver other d.handle).2

structure StartedInv (b : RootedBus) (started : List BusStart) (σ : Registry) : Prop where
  inv : BoundInv b.bus b.root σ
  named (p d : DtDeviceRecord) (hp : p ∈ σ.devices) (hd : d ∈ σ.devices)
    (hchild : IsChildOf b.bus p d) : ∃ s ∈ started, s.device = p ∧ s.Names b.bus d.fdtNode
  bound (d : DtDeviceRecord) (hd : d ∈ σ.devices) (hsupported : isSupportedDevice b.bus d = true)
    (hbound : fbpHandleHasBoundDriver σ d.handle = true) : ∃ s ∈ started, s.device = d
  started (s : BusStart) (hs : s ∈ started) : s.device ∈ σ.devices ∧
    fbpHandleHasBoundDriver σ s.device.handle = true

section Starts

variable {b : RootedBus} {agent : EfiHandle} {started : List BusStart} {σ : Registry}

theorem dtDeviceScan_added {bus : DtBusDriver} {root : DtDeviceRecord}
    (services : ScanServices) (agent : EfiHandle) (parent : DtDeviceRecord)
    (remaining : Option DevicePath) (h : RegistryInv bus root σ) (sound : bus.tree.Sound)
    (hparent : parent ∈ σ.devices) (d : DtDeviceRecord)
    (hd : d ∈ (dtDeviceScan bus services σ agent parent remaining).2.devices) :
    d ∈ σ.devices ∨ (IsChildOf bus parent d ∧ StartsName remaining d.name) := by
  by_cases hdt : ∀ path, remaining = some path → isDtDevicePathNode path = true
  · have hgrown := dtDeviceScan_grown sound services agent parent remaining h hparent
    cases hgrown.added d hd with
    | inl hold => exact .inl hold
    | inr hnew =>
        exact .inr ⟨hnew.1, fun path hremaining => ⟨hdt path hremaining, hnew.2 path hremaining⟩⟩
  · push Not at hdt
    obtain ⟨path, hremaining, hother⟩ := hdt
    rw [dtDeviceScan, hremaining] at hd
    simp only [Option.any_some, hother, Bool.not_false, if_true] at hd
    exact .inl hd

theorem StartedInv.start (h : StartedInv b started σ) (s : BusStart)
    (hdevice : s.device ∈ σ.devices)
    (hsupported : driverSupported b.bus σ agent s.device.handle s.remaining = .ok ()) :
    StartedInv b (s :: started)
      (driverStart b.bus σ agent s.services s.device s.remaining).2 := by
  rw [driverStart_supported s.services σ agent s.device s.remaining hsupported]
  obtain ⟨hopened, hopen⟩ := h.inv.openByDriver agent hdevice
  generalize (σ.openByDriver agent s.device.handle).2 = σ₀ at hopened hopen ⊢
  have hparent : s.device ∈ σ₀.devices := hopen.devices ▸ hdevice
  have hgrown := dtDeviceScan_grown b.sound s.services agent s.device s.remaining
    hopened.toRegistryInv hparent
  have hadded := dtDeviceScan_added s.services agent s.device s.remaining
    hopened.toRegistryInv b.sound hparent
  have hinv := dtDeviceScan_inv hopened.toRegistryInv s.services agent s.device s.remaining
    hparent
  refine ⟨hopened.scan b.sound s.services agent hparent s.remaining, ?_, ?_, ?_⟩
  · intro p d hp hd hchild
    cases hadded d hd with
    | inl hold =>
        obtain ⟨p', hp', hchild'⟩ := hopened.below d hold (hinv.ne_root hchild)
        have hsame := hinv.eq_of_isChildOf hp (hgrown.kept p' hp') hchild hchild'
        rw [hopen.devices] at hold hp'
        obtain ⟨s', hs', heq, hnames⟩ := h.named p d (hsame ▸ hp') hold hchild
        exact ⟨s', List.mem_cons_of_mem s hs', heq, hnames⟩
    | inr hnew =>
        have hsame := hinv.eq_of_isChildOf hp (hgrown.kept _ hparent) hchild hnew.1
        refine ⟨s, List.mem_cons_self, hsame.symm, fun name hname => ?_⟩
        rw [hnew.1.name] at hname
        exact Option.some.inj hname ▸ hnew.2
  · intro d hd hdsupported hbound
    rw [hgrown.bound, hopen.bound] at hbound
    cases hbound with
    | inl hold =>
        have hmem : d.handle ∈ σ.handles := by
          by_contra hfree
          rw [fbpHandleHasBoundDriver, h.inv.closed d.handle hfree] at hold
          cases hold
        obtain ⟨d', hd', hhandle⟩ := List.mem_map.mp hmem
        have hsame : d' = d :=
          hinv.eq_of_handle (hgrown.kept d' (hopen.devices ▸ hd')) hd hhandle
        obtain ⟨s', hs', heq⟩ := h.bound d (hsame ▸ hd') hdsupported hold
        exact ⟨s', List.mem_cons_of_mem s hs', heq⟩
    | inr heq =>
        exact ⟨s, List.mem_cons_self,
          hinv.eq_of_handle (hgrown.kept _ hparent) hd heq.symm⟩
  · intro s' hs'
    rw [hgrown.bound, hopen.bound]
    cases List.mem_cons.mp hs' with
    | inl heq => exact ⟨hgrown.kept _ (heq ▸ hparent), .inr (heq ▸ rfl)⟩
    | inr hold =>
        obtain ⟨hmem, hbound⟩ := h.started s' hold
        exact ⟨hgrown.kept _ (hopen.devices ▸ hmem), .inl hbound⟩

theorem StartedInv.client (h : StartedInv b started σ) (d : DtDeviceRecord)
    (other : EfiHandle) (hdevice : d ∈ σ.devices)
    (hunsupported : driverSupported b.bus σ agent d.handle none ≠ .ok ()) :
    StartedInv b started (σ.openByDriver other d.handle).2 := by
  obtain ⟨hopened, hopen⟩ := h.inv.openByDriver other hdevice
  cases hbound : fbpHandleHasBoundDriver σ d.handle with
  | true =>
      obtain ⟨e, herror⟩ := openByDriver_bound σ other d.handle hbound
      rw [herror]
      exact h
  | false =>
      have hclient : ¬ isSupportedDevice b.bus d = true := fun hsupported =>
        hunsupported ((h.inv.driverSupported_unbound agent hdevice hbound).mpr hsupported)
      refine ⟨hopened, ?_, ?_, ?_⟩
      · rw [hopen.devices]
        exact h.named
      · intro d' hd' hsupported hbound'
        rw [hopen.devices] at hd'
        rw [hopen.bound] at hbound'
        cases hbound' with
        | inl hold => exact h.bound d' hd' hsupported hold
        | inr heq =>
            rw [h.inv.eq_of_handle hd' hdevice heq] at hsupported
            exact absurd hsupported hclient
      · intro s hs
        obtain ⟨hmem, hold⟩ := h.started s hs
        exact ⟨hopen.devices ▸ hmem, (hopen.bound _).mpr (.inl hold)⟩

theorem StartRun.inv {P : ScanServices → Prop} (run : StartRun b agent P started σ) :
    StartedInv b started σ := by
  induction run with
  | initial =>
      have h := b.initialState
      refine ⟨b.boundInv, ?_, ?_, ?_⟩
      · intro p d hp hd hchild
        have hsame (e : DtDeviceRecord) (he : e ∈ b.initial.devices) : e = b.root := by
          rw [h.devices] at he
          exact List.mem_singleton.mp he
        exact absurd ((hsame p hp).trans (hsame d hd).symm) hchild.ne
      · intro d hd hsupported hbound
        rw [fbpHandleHasBoundDriver, h.opens] at hbound
        cases hbound
      · intro s hs
        cases hs
  | start s run hdevice hsupported hservices ih => exact ih.start s hdevice hsupported
  | client d other run hdevice hunsupported ih => exact ih.client d other hdevice hunsupported

theorem StartRun.found (hfit : b.bus.tree.PathNodesFit)
    (run : StartRun b agent ScanServices.Reliable started σ) (s : BusStart) (hs : s ∈ started)
    (m : Int) (hm : m ∈ b.bus.tree.subnodes s.device.fdtNode) (hnames : s.Names b.bus m) :
    ∃ d ∈ σ.devices, d.fdtNode = m := by
  induction run with
  | initial => exact nomatch hs
  | start s' run hdevice hsupported hservices ih =>
      have hinv := run.inv.inv
      rw [driverStart_supported s'.services _ agent s'.device s'.remaining hsupported]
      obtain ⟨hopened, hopen⟩ := hinv.openByDriver agent hdevice
      have hparent := hopen.devices.symm ▸ hdevice
      have hgrown := dtDeviceScan_grown b.sound s'.services agent s'.device s'.remaining
        hopened.toRegistryInv hparent
      cases List.mem_cons.mp hs with
      | inl heq =>
          subst heq
          obtain ⟨name, hname⟩ := b.sound.named _ _ hm
          have hstarts := hnames name hname
          rw [dtDeviceScan_eq b.sound _ _ _ _ _ (fun path hpath => (hstarts path hpath).1)]
          have hsucceeds := scanSucceeds_of_reliable hservices hfit agent s.device s.remaining
            (b.bus.tree.subnodes s.device.fdtNode) hopened.toRegistryInv hparent
            (fun n hn => hn)
          exact dtDeviceScanNodes_complete s.services agent s.device s.remaining hfit.apart _
            hopened.toRegistryInv hparent (fun n hn => hn) hsucceeds m hm name hname
            (fun path hpath => (hstarts path hpath).2)
      | inr hold =>
          obtain ⟨d, hd, hnode⟩ := ih hold
          exact ⟨d, hgrown.kept d (hopen.devices.symm ▸ hd), hnode⟩
  | client d other run hdevice hunsupported ih =>
      obtain ⟨-, hopen⟩ := run.inv.inv.openByDriver other hdevice
      obtain ⟨d', hd', hnode⟩ := ih hs
      exact ⟨d', hopen.devices.symm ▸ hd', hnode⟩

end Starts

/-- The bus driver and the other drivers at the time of End-of-DXE. -/
structure Platform where
  bus : DtBusDriver
  services : ScanServices
  agent : EfiHandle
  /-- The driver that binds to a device that the bus driver does not support. -/
  client : DtDeviceRecord → Option EfiHandle

def Registry.children (σ : Registry) (handle : EfiHandle) : List EfiHandle :=
  ((σ.opens handle).filter fun e => e.attributes = .byChildController).map (·.controller)

/-- Connect some handles one after the other; the handles a connect was attempted on
are collected. -/
def connectAll (connect : Registry → EfiHandle → Registry × List EfiHandle) :
    List EfiHandle → Registry → Registry × List EfiHandle
  | [], σ => (σ, [])
  | handle :: rest, σ =>
    let (σ, connected) := connect σ handle
    let (σ, more) := connectAll connect rest σ
    (σ, connected ++ more)

/-- `ConnectController` with `Recursive`: on a handle without a driver the bus driver is
started in full if it supports it, and the children are connected. -/
def connectController (w : Platform) : Nat → Registry → EfiHandle → Registry × List EfiHandle
  | 0, σ, handle => (σ, [handle])
  | fuel + 1, σ, handle =>
    match σ.find handle with
    | none => (σ, [handle])
    | some d =>
      if fbpHandleHasBoundDriver σ handle then
        (σ, [handle])
      else if driverSupported w.bus σ w.agent handle none = .ok () then
        let σ := (driverStart w.bus σ w.agent w.services d none).2
        let (σ, connected) := connectAll (connectController w fuel) (σ.children handle) σ
        (σ, handle :: connected)
      else
        match w.client d with
        | none => (σ, [handle])
        | some client => ((σ.openByDriver client handle).2, [handle])

/-- The link after another one, `none` at the head of the list. -/
def forwardLink (links : List DtIoRef) (link : DtIoRef) : Option DtIoRef :=
  (links.dropWhile (· ≠ link)).tail.head?

/-- One iteration of the loop of `OnEndOfDxe`. The next link is read before the device is
connected. -/
def onEndOfDxeBody (w : Platform) (depth : Nat) :
    Option DtIoRef × Registry × List EfiHandle →
      Loop.Step (Option DtIoRef × Registry × List EfiHandle) (Registry × List EfiHandle)
  | (none, σ, connected) => .exit (σ, connected)
  | (some link, σ, connected) =>
    let next := forwardLink σ.criticalDevices link
    match σ.devices.find? (fun d => d.dtIo = link) with
    | none => .next (next, σ, connected)
    | some d =>
      if fbpHandleHasBoundDriver σ d.handle then
        .next (next, σ, connected)
      else
        let (σ, more) := connectController w depth σ d.handle
        .next (next, σ, connected ++ more)

def onEndOfDxe (w : Platform) (depth fuel : Nat) (σ : Registry) :
    Option (Registry × List EfiHandle) :=
  Loop.run (onEndOfDxeBody w depth) fuel (σ.criticalDevices.head?, σ, [])

structure Connected (bus : DtBusDriver) (root : DtDeviceRecord) (σ σ' : Registry)
    (connected : List EfiHandle) : Prop where
  inv : BoundInv bus root σ'
  kept (d : DtDeviceRecord) (hd : d ∈ σ.devices) : d ∈ σ'.devices
  appended : ∃ more, σ'.criticalDevices = σ.criticalDevices ++ more
  bound (handle : EfiHandle) (h : fbpHandleHasBoundDriver σ handle = true) :
    fbpHandleHasBoundDriver σ' handle = true
  attempted (handle : EfiHandle) (h : handle ∈ connected) : ∃ d ∈ σ'.devices,
    d.handle = handle ∧
      (isSupportedDevice bus d = true → fbpHandleHasBoundDriver σ' handle = true)
  started (d : DtDeviceRecord) (hd : d ∈ σ'.devices)
    (h : fbpHandleHasBoundDriver σ' d.handle = true)
    (hunbound : fbpHandleHasBoundDriver σ d.handle = false) : d.handle ∈ connected ∧
      (isSupportedDevice bus d = true → ∀ m ∈ bus.tree.subnodes d.fdtNode,
        ∃ e ∈ σ'.devices, e.fdtNode = m ∧ e.handle ∈ connected)
  added (e : DtDeviceRecord) (he : e ∈ σ'.devices) : e ∈ σ.devices ∨
    ∃ p ∈ σ'.devices, IsChildOf bus p e ∧ fbpHandleHasBoundDriver σ p.handle = false

namespace Connected

variable {bus : DtBusDriver} {root : DtDeviceRecord} {σ σ' σ'' : Registry}
  {connected more : List EfiHandle}

theorem refl (h : BoundInv bus root σ) : Connected bus root σ σ [] where
  inv := h
  kept d hd := hd
  appended := ⟨[], by simp⟩
  bound handle h := h
  attempted handle h := nomatch h
  started d hd h hunbound := nomatch h.symm.trans hunbound
  added e he := .inl he

theorem single (h : BoundInv bus root σ) {d : DtDeviceRecord} (hd : d ∈ σ.devices)
    (hbound : isSupportedDevice bus d = true → fbpHandleHasBoundDriver σ d.handle = true) :
    Connected bus root σ σ [d.handle] where
  inv := h
  kept d hd := hd
  appended := ⟨[], by simp⟩
  bound handle h := h
  attempted handle h := ⟨d, hd, (List.mem_singleton.mp h).symm, fun hsupported =>
    List.mem_singleton.mp h ▸ hbound hsupported⟩
  started d hd h hunbound := nomatch h.symm.trans hunbound
  added e he := .inl he

theorem mem_of_bound (h : BoundInv bus root σ) (handle : EfiHandle)
    (hbound : fbpHandleHasBoundDriver σ handle = true) : ∃ d ∈ σ.devices, d.handle = handle := by
  by_contra hnone
  have hfree : handle ∉ σ.handles := fun hmem => hnone (List.mem_map.mp hmem)
  rw [fbpHandleHasBoundDriver, h.closed handle hfree] at hbound
  cases hbound

theorem trans (h : Connected bus root σ σ' connected) (h' : Connected bus root σ' σ'' more) :
    Connected bus root σ σ'' (connected ++ more) where
  inv := h'.inv
  kept d hd := h'.kept d (h.kept d hd)
  appended := by
    obtain ⟨links, hlinks⟩ := h.appended
    obtain ⟨links', hlinks'⟩ := h'.appended
    exact ⟨links ++ links', by rw [hlinks', hlinks, List.append_assoc]⟩
  bound handle hbound := h'.bound handle (h.bound handle hbound)
  attempted handle hmem := by
    cases List.mem_append.mp hmem with
    | inl hfirst =>
        obtain ⟨d, hd, hhandle, hbound⟩ := h.attempted handle hfirst
        exact ⟨d, h'.kept d hd, hhandle, fun hsupported =>
          h'.bound handle (hbound hsupported)⟩
    | inr hlater => exact h'.attempted handle hlater
  started d hd hbound hunbound := by
    cases hmiddle : fbpHandleHasBoundDriver σ' d.handle with
    | false =>
        obtain ⟨hmem, hchildren⟩ := h'.started d hd hbound hmiddle
        refine ⟨List.mem_append_right _ hmem, fun hsupported m hm => ?_⟩
        obtain ⟨e, he, hnode, hconnected⟩ := hchildren hsupported m hm
        exact ⟨e, he, hnode, List.mem_append_right _ hconnected⟩
    | true =>
        obtain ⟨d', hd', hhandle⟩ := mem_of_bound h.inv d.handle hmiddle
        have hsame : d' = d := h'.inv.eq_of_handle (h'.kept d' hd') hd hhandle
        obtain ⟨hmem, hchildren⟩ := h.started d (hsame ▸ hd') hmiddle hunbound
        refine ⟨List.mem_append_left _ hmem, fun hsupported m hm => ?_⟩
        obtain ⟨e, he, hnode, hconnected⟩ := hchildren hsupported m hm
        exact ⟨e, h'.kept e he, hnode, List.mem_append_left _ hconnected⟩
  added e he := by
    cases h'.added e he with
    | inl hmiddle =>
        cases h.added e hmiddle with
        | inl hold => exact .inl hold
        | inr hnew =>
            obtain ⟨p, hp, hchild, hunbound⟩ := hnew
            exact .inr ⟨p, h'.kept p hp, hchild, hunbound⟩
    | inr hnew =>
        obtain ⟨p, hp, hchild, hunbound⟩ := hnew
        refine .inr ⟨p, hp, hchild, ?_⟩
        cases hbound : fbpHandleHasBoundDriver σ p.handle with
        | false => rfl
        | true => exact (h.bound p.handle hbound).symm.trans hunbound

end Connected

section Connect

variable {bus : DtBusDriver} {root : DtDeviceRecord} {σ : Registry}

theorem connectAll_connected (connect : Registry → EfiHandle → Registry × List EfiHandle)
    (Q : DtDeviceRecord → Prop)
    (hconnect : ∀ σ d, BoundInv bus root σ → d ∈ σ.devices → Q d →
      Connected bus root σ (connect σ d.handle).1 (connect σ d.handle).2 ∧
        d.handle ∈ (connect σ d.handle).2)
    (handles : List EfiHandle) (h : BoundInv bus root σ)
    (hhandles : ∀ handle ∈ handles, ∃ d ∈ σ.devices, d.handle = handle ∧ Q d) :
    Connected bus root σ (connectAll connect handles σ).1 (connectAll connect handles σ).2 ∧
      ∀ handle ∈ handles, handle ∈ (connectAll connect handles σ).2 := by
  induction handles generalizing σ with
  | nil => exact ⟨.refl h, nofun⟩
  | cons handle rest ih =>
      obtain ⟨d, hd, rfl, hQ⟩ := hhandles _ List.mem_cons_self
      obtain ⟨hfirst, hmem⟩ := hconnect σ d h hd hQ
      obtain ⟨hrest, hall⟩ := ih hfirst.inv fun handle hhandle => by
        obtain ⟨d', hd', heq, hQ'⟩ := hhandles handle (List.mem_cons_of_mem _ hhandle)
        exact ⟨d', hfirst.kept d' hd', heq, hQ'⟩
      rw [connectAll]
      refine ⟨hfirst.trans hrest, fun handle hhandle => ?_⟩
      cases List.mem_cons.mp hhandle with
      | inl heq => exact List.mem_append_left _ (heq ▸ hmem)
      | inr hlater => exact List.mem_append_right _ (hall handle hlater)

theorem BoundInv.mem_children (h : BoundInv bus root σ) {d : DtDeviceRecord}
    (hd : d ∈ σ.devices) (handle : EfiHandle) :
    handle ∈ σ.children d.handle ↔ ∃ e ∈ σ.devices, e.handle = handle ∧ IsChildOf bus d e := by
  rw [Registry.children, List.mem_map]
  constructor
  · intro hmem
    obtain ⟨entry, hentry, hcontroller⟩ := hmem
    obtain ⟨hopen, hattributes⟩ := List.mem_filter.mp hentry
    obtain ⟨p, hp, hhandle, e, he, heq, -, hchild⟩ :=
      h.entry _ entry hopen (of_decide_eq_true hattributes)
    have hsame : p = d := h.eq_of_handle hp hd hhandle
    exact ⟨e, he, heq.trans hcontroller, hsame ▸ hchild⟩
  · intro hchild
    obtain ⟨e, he, rfl, hbelow⟩ := hchild
    obtain ⟨entry, hopen, hcontroller, hattributes⟩ :=
      h.linked d hd e he hbelow (Set.notMem_empty _)
    exact ⟨entry, List.mem_filter.mpr ⟨hopen, decide_eq_true hattributes⟩, hcontroller⟩

/-- What a full start of a device leaves: the device bound and all its children. -/
structure StartedInFull (bus : DtBusDriver) (root : DtDeviceRecord) (σ : Registry)
    (d : DtDeviceRecord) (σ' : Registry) : Prop where
  inv : BoundInv bus root σ'
  kept (e : DtDeviceRecord) (he : e ∈ σ.devices) : e ∈ σ'.devices
  appended : ∃ more, σ'.criticalDevices = σ.criticalDevices ++ more
  bound (handle : EfiHandle) : fbpHandleHasBoundDriver σ' handle = true ↔
    fbpHandleHasBoundDriver σ handle = true ∨ handle = d.handle
  added (e : DtDeviceRecord) (he : e ∈ σ'.devices) : e ∈ σ.devices ∨ IsChildOf bus d e
  complete (m : Int) (hm : m ∈ bus.tree.subnodes d.fdtNode) : ∃ e ∈ σ'.devices, e.fdtNode = m

theorem driverStart_full (h : BoundInv bus root σ) (sound : bus.tree.Sound)
    (hfit : bus.tree.PathNodesFit) (services : ScanServices) (hreliable : services.Reliable)
    (agent : EfiHandle) {d : DtDeviceRecord} (hd : d ∈ σ.devices)
    (hsupported : driverSupported bus σ agent d.handle none = .ok ()) :
    StartedInFull bus root σ d (driverStart bus σ agent services d none).2 := by
  rw [driverStart_supported services σ agent d none hsupported,
    dtDeviceScan_eq sound services _ agent d none nofun]
  dsimp only
  obtain ⟨hopened, hopen⟩ := h.openByDriver agent hd
  generalize (σ.openByDriver agent d.handle).2 = σ₀ at *
  have hd₀ : d ∈ σ₀.devices := hopen.devices ▸ hd
  have hgrown := dtDeviceScanNodes_grown services agent d none (bus.tree.subnodes d.fdtNode)
    hopened.toRegistryInv hd₀ (fun n hn => hn)
  have hsucceeds := scanSucceeds_of_reliable hreliable hfit agent d none
    (bus.tree.subnodes d.fdtNode) hopened.toRegistryInv hd₀ (fun n hn => hn)
  constructor
  · have hscan := hopened.scan sound services agent hd₀ none
    rwa [dtDeviceScan_eq sound services σ₀ agent d none nofun] at hscan
  · intro e he
    exact hgrown.kept e (hopen.devices ▸ he)
  · rw [← hopen.critical]
    exact hgrown.appended
  · intro handle
    rw [hgrown.bound, hopen.bound]
  · intro e he
    cases hgrown.added e he with
    | inl hold => exact .inl (hopen.devices ▸ hold)
    | inr hnew => exact .inr hnew.1
  · intro m hm
    obtain ⟨name, hname⟩ := sound.named _ _ hm
    exact dtDeviceScanNodes_complete services agent d none hfit.apart
      (bus.tree.subnodes d.fdtNode) hopened.toRegistryInv hd₀ (fun n hn => hn) hsucceeds m hm
      name hname nofun

theorem Connected.ofStart {σ₁ σ₂ : Registry} {d : DtDeviceRecord} {connected : List EfiHandle}
    (hfull : StartedInFull bus root σ d σ₁) (sound : bus.tree.Sound) (hd : d ∈ σ.devices)
    (hunbound : fbpHandleHasBoundDriver σ d.handle = false)
    (hconnected : Connected bus root σ₁ σ₂ connected)
    (hchildren : ∀ handle ∈ σ₁.children d.handle, handle ∈ connected) :
    Connected bus root σ σ₂ (d.handle :: connected) := by
  have hd₁ : d ∈ σ₁.devices := hfull.kept d hd
  refine ⟨hconnected.inv, fun e he => ?_, ?_, fun handle hbound => ?_, fun handle hmem => ?_,
    fun e he hbound hfree => ?_, fun e he => ?_⟩
  · exact hconnected.kept e (hfull.kept e he)
  · obtain ⟨links, hlinks⟩ := hfull.appended
    obtain ⟨links', hlinks'⟩ := hconnected.appended
    exact ⟨links ++ links', by rw [hlinks', hlinks, List.append_assoc]⟩
  · exact hconnected.bound handle ((hfull.bound handle).mpr (.inl hbound))
  · cases List.mem_cons.mp hmem with
    | inl heq =>
        refine ⟨d, hconnected.kept d hd₁, heq.symm, fun _ => ?_⟩
        exact hconnected.bound handle ((hfull.bound handle).mpr (.inr heq))
    | inr hlater => exact hconnected.attempted handle hlater
  · cases hmiddle : fbpHandleHasBoundDriver σ₁ e.handle with
    | false =>
        obtain ⟨hmem, hbelow⟩ := hconnected.started e he hbound hmiddle
        refine ⟨List.mem_cons_of_mem _ hmem, fun hbus m hm => ?_⟩
        obtain ⟨f, hf, hnode, hattempted⟩ := hbelow hbus m hm
        exact ⟨f, hf, hnode, List.mem_cons_of_mem _ hattempted⟩
    | true =>
        have heq : e.handle = d.handle := by
          cases (hfull.bound e.handle).mp hmiddle with
          | inl hold => exact nomatch hold.symm.trans hfree
          | inr heq => exact heq
        have hsame : e = d := hconnected.inv.eq_of_handle he (hconnected.kept d hd₁) heq
        subst hsame
        refine ⟨List.mem_cons_self, fun _ m hm => ?_⟩
        obtain ⟨f, hf, hnode⟩ := hfull.complete m hm
        refine ⟨f, hconnected.kept f hf, hnode, List.mem_cons_of_mem _ (hchildren _ ?_)⟩
        rw [hfull.inv.mem_children hd₁]
        exact ⟨f, hf, rfl, hfull.inv.isChildOf_of_node sound hd₁ hf (hnode ▸ hm)⟩
  · cases hconnected.added e he with
    | inl hmiddle =>
        cases hfull.added e hmiddle with
        | inl hold => exact .inl hold
        | inr hchild => exact .inr ⟨d, hconnected.kept d hd₁, hchild, hunbound⟩
    | inr hnew =>
        obtain ⟨p, hp, hchild, hfree⟩ := hnew
        refine .inr ⟨p, hp, hchild, ?_⟩
        cases hold : fbpHandleHasBoundDriver σ p.handle with
        | false => rfl
        | true => exact ((hfull.bound p.handle).mpr (.inl hold)).symm.trans hfree

theorem Connected.ofClient (h : BoundInv bus root σ) (client : EfiHandle) {d : DtDeviceRecord}
    (hd : d ∈ σ.devices) (hclient : isSupportedDevice bus d = false) :
    Connected bus root σ (σ.openByDriver client d.handle).2 [d.handle] := by
  obtain ⟨hopened, hopen⟩ := h.openByDriver client hd
  have hd' : d ∈ (σ.openByDriver client d.handle).2.devices := hopen.devices.symm ▸ hd
  refine ⟨hopened, fun e he => hopen.devices.symm ▸ he, ⟨[], by rw [hopen.critical]; simp⟩,
    fun handle hbound => (hopen.bound handle).mpr (.inl hbound), fun handle hmem => ?_,
    fun e he hbound hunbound => ?_, fun e he => .inl (hopen.devices ▸ he)⟩
  · exact ⟨d, hd', (List.mem_singleton.mp hmem).symm, fun hbus => nomatch hbus.symm.trans hclient⟩
  · cases (hopen.bound e.handle).mp hbound with
    | inl hold => exact nomatch hold.symm.trans hunbound
    | inr heq =>
        have hsame : e = d := hopened.eq_of_handle he hd' heq
        subst hsame
        exact ⟨List.mem_singleton_self _, fun hbus => nomatch hbus.symm.trans hclient⟩

theorem connectController_connected (w : Platform) (sound : w.bus.tree.Sound)
    (hfit : w.bus.tree.PathNodesFit) (hreliable : w.services.Reliable) (fuel : Nat)
    (d : DtDeviceRecord) (h : BoundInv w.bus root σ) (hd : d ∈ σ.devices)
    (hfuel : sound.maxDepth < fuel + sound.depth d.fdtNode) :
    Connected w.bus root σ (connectController w fuel σ d.handle).1
        (connectController w fuel σ d.handle).2 ∧
      d.handle ∈ (connectController w fuel σ d.handle).2 := by
  induction fuel generalizing σ d with
  | zero =>
      have hdepth := sound.depth_le d.fdtNode
      omega
  | succ fuel ih =>
      rw [connectController, h.find_handle hd]
      dsimp only
      cases hbound : fbpHandleHasBoundDriver σ d.handle with
      | true =>
          rw [if_pos rfl]
          exact ⟨.single h hd (fun _ => hbound), List.mem_singleton_self _⟩
      | false =>
          rw [if_neg Bool.false_ne_true]
          by_cases hsupported : driverSupported w.bus σ w.agent d.handle none = .ok ()
          · rw [if_pos hsupported]
            dsimp only
            refine ⟨?_, List.mem_cons_self⟩
            obtain ⟨hinv, hkept⟩ := driverStart_inv h sound w.services w.agent hd none hsupported
            obtain ⟨hconnected, hchildren⟩ := connectAll_connected (connectController w fuel)
              (fun e => sound.maxDepth < fuel + sound.depth e.fdtNode)
              (fun σ e hσ he hQ => ih e hσ he hQ)
              ((driverStart w.bus σ w.agent w.services d none).2.children d.handle) hinv
              (fun handle hhandle => by
                obtain ⟨e, he, heq, hchild⟩ := (hinv.mem_children (hkept d hd) handle).mp hhandle
                refine ⟨e, he, heq, ?_⟩
                rw [hchild.depth sound]
                omega)
            have hfull := driverStart_full h sound hfit w.services hreliable w.agent hd hsupported
            exact Connected.ofStart hfull sound hd hbound hconnected hchildren
          · rw [if_neg hsupported]
            have hclient : isSupportedDevice w.bus d = false := by
              by_contra hne
              have hbus : isSupportedDevice w.bus d = true := by simpa using hne
              exact hsupported ((h.driverSupported_unbound w.agent hd hbound).mpr hbus)
            cases w.client d with
            | none =>
                refine ⟨.single h hd (fun hbus => ?_), List.mem_singleton_self _⟩
                exact nomatch hbus.symm.trans hclient
            | some client =>
                exact ⟨.ofClient h client hd hclient, List.mem_singleton_self _⟩

end Connect

section Walk

variable {bus : DtBusDriver} {root : DtDeviceRecord} {σ : Registry}

theorem RegistryInv.critical_nodup (h : RegistryInv bus root σ) : σ.criticalDevices.Nodup := by
  rw [h.critical]
  exact h.dtIos.sublist (List.filter_sublist.map _)

theorem RegistryInv.length_critical (h : RegistryInv bus root σ) (sound : bus.tree.Sound) :
    σ.criticalDevices.length ≤ sound.nodes.length := by
  have hnodup : (σ.devices.map (·.fdtNode)).Nodup :=
    List.Nodup.map_on (fun d hd d' hd' hnode => h.eq_of_node sound hd hd' hnode)
      (List.Nodup.of_map _ h.handles)
  have hsub : σ.devices.map (·.fdtNode) ⊆ sound.nodes := by
    intro n hn
    obtain ⟨d, hd, rfl⟩ := List.mem_map.mp hn
    by_cases hroot : d = root
    · rw [hroot, h.isRoot.node]
      exact sound.root_mem
    · obtain ⟨p, -, hchild⟩ := h.below d hd hroot
      exact sound.subnode_mem _ _ hchild.node
  have hdevices := (hnodup.subperm hsub).length_le
  rw [List.length_map] at hdevices
  rw [h.critical, List.length_map]
  exact Nat.le_trans (List.length_filter_le _ _) hdevices

theorem forwardLink_append (visited rest : List DtIoRef) (link : DtIoRef)
    (hnew : link ∉ visited) : forwardLink (visited ++ link :: rest) link = rest.head? := by
  have hvisited (l : DtIoRef) (hl : l ∈ visited) : decide (l ≠ link) = true :=
    decide_eq_true fun heq => hnew (heq ▸ hl)
  rw [forwardLink, List.dropWhile_append_of_pos hvisited, List.dropWhile_cons_of_neg (by simp),
    List.tail_cons]

theorem RegistryInv.find_dtIo (h : RegistryInv bus root σ) (link : DtIoRef)
    (hlink : link ∈ σ.criticalDevices) :
    ∃ d ∈ σ.devices, d.dtIo = link ∧ σ.devices.find? (fun d => d.dtIo = link) = some d := by
  rw [h.critical] at hlink
  obtain ⟨d, hd, heq⟩ := List.mem_map.mp hlink
  have hmem := (List.mem_filter.mp hd).1
  cases hfind : σ.devices.find? (fun d => d.dtIo = link) with
  | none => exact absurd (decide_eq_true heq) (List.find?_eq_none.mp hfind d hmem)
  | some d' =>
      have hsame : d'.dtIo = link := by simpa using List.find?_some hfind
      exact ⟨d', List.mem_of_find?_eq_some hfind, hsame, rfl⟩

variable (w : Platform) (sound : w.bus.tree.Sound)

theorem onEndOfDxeBody_visit (hfit : w.bus.tree.PathNodesFit) (hreliable : w.services.Reliable)
    (h : BoundInv w.bus root σ) (link : DtIoRef) (hlink : link ∈ σ.criticalDevices)
    (connected : List EfiHandle) :
    ∃ d ∈ σ.devices, d.dtIo = link ∧ ∃ σ' more,
      onEndOfDxeBody w (sound.maxDepth + 1) (some link, σ, connected) =
        .next (forwardLink σ.criticalDevices link, σ', connected ++ more) ∧
      Connected w.bus root σ σ' more ∧
      (d.handle ∈ more ∨ fbpHandleHasBoundDriver σ d.handle = true) := by
  obtain ⟨d, hd, hdtIo, hfind⟩ := h.find_dtIo link hlink
  refine ⟨d, hd, hdtIo, ?_⟩
  rw [onEndOfDxeBody, hfind]
  dsimp only
  cases hbound : fbpHandleHasBoundDriver σ d.handle with
  | true => exact ⟨σ, [], by rw [if_pos rfl, List.append_nil], .refl h, .inr rfl⟩
  | false =>
      obtain ⟨hconnected, hmem⟩ := connectController_connected w sound hfit hreliable
        (sound.maxDepth + 1) d h hd (by omega)
      exact ⟨_, _, by rw [if_neg Bool.false_ne_true], hconnected, .inl hmem⟩

theorem Connected.visited_next {σ₀ : Registry} {connected more : List EfiHandle}
    (hconnected : Connected bus root σ₀ σ connected) (visited : List DtIoRef) (link : DtIoRef)
    (hvisited : ∀ d ∈ σ₀.devices, d.dtIo ∈ visited →
      d.handle ∈ connected ∨ fbpHandleHasBoundDriver σ₀ d.handle = true)
    {d : DtDeviceRecord} (hd : d ∈ σ.devices) (hdtIo : d.dtIo = link)
    (hvisit : d.handle ∈ more ∨ fbpHandleHasBoundDriver σ d.handle = true) :
    ∀ e ∈ σ₀.devices, e.dtIo ∈ visited ++ [link] →
      e.handle ∈ connected ++ more ∨ fbpHandleHasBoundDriver σ₀ e.handle = true := by
  intro e he hmem
  cases List.mem_append.mp hmem with
  | inl hold => exact (hvisited e he hold).imp_left (List.mem_append_left _)
  | inr hlast =>
      have hsame : e = d := by
        refine List.inj_on_of_nodup_map hconnected.inv.dtIos (hconnected.kept e he) hd ?_
        rw [List.mem_singleton.mp hlast, hdtIo]
      subst hsame
      cases hvisit with
      | inl hattempted => exact .inl (List.mem_append_right _ hattempted)
      | inr hbound =>
          cases hfirst : fbpHandleHasBoundDriver σ₀ e.handle with
          | true => exact .inr rfl
          | false =>
              have hattempted := (hconnected.started e hd hbound hfirst).1
              exact .inl (List.mem_append_left _ hattempted)

/-- The walk from a link on. Links are only appended, so those behind the link are still
ahead after it is visited; what is appended at the last link is not. -/
theorem onEndOfDxe_walk (hfit : w.bus.tree.PathNodesFit) (hreliable : w.services.Reliable)
    (σ₀ : Registry) (fuel : Nat) (visited rest : List DtIoRef) (link : DtIoRef)
    (connected : List EfiHandle) (hlist : σ.criticalDevices = visited ++ link :: rest)
    (hconnected : Connected w.bus root σ₀ σ connected)
    (hvisited : ∀ d ∈ σ₀.devices, d.dtIo ∈ visited →
      d.handle ∈ connected ∨ fbpHandleHasBoundDriver σ₀ d.handle = true)
    (hfuel : sound.nodes.length < fuel + visited.length) :
    ∃ σ' connected', Loop.run (onEndOfDxeBody w (sound.maxDepth + 1)) fuel
        (some link, σ, connected) = some (σ', connected') ∧
      Connected w.bus root σ₀ σ' connected' ∧
      ∀ d ∈ σ₀.devices, d.dtIo ∈ visited ++ link :: rest →
        d.handle ∈ connected' ∨ fbpHandleHasBoundDriver σ₀ d.handle = true := by
  induction fuel generalizing σ visited rest link connected with
  | zero =>
      have hlength := hconnected.inv.length_critical sound
      rw [hlist, List.length_append] at hlength
      omega
  | succ fuel ih =>
      have hinv := hconnected.inv
      have hlength := hinv.length_critical sound
      rw [hlist, List.length_append, List.length_cons] at hlength
      have hlink : link ∈ σ.criticalDevices := by
        rw [hlist]
        exact List.mem_append_right _ List.mem_cons_self
      have hnew : link ∉ visited := by
        have hnodup := hinv.critical_nodup
        rw [hlist] at hnodup
        exact fun hmem => (List.nodup_append.mp hnodup).2.2 link hmem link List.mem_cons_self rfl
      obtain ⟨d, hd, hdtIo, σ', more, hbody, hmore, hvisit⟩ :=
        onEndOfDxeBody_visit w sound hfit hreliable hinv link hlink connected
      have hall := hconnected.trans hmore
      have hvisited' := hconnected.visited_next visited link hvisited hd hdtIo hvisit
      obtain ⟨links, hlinks⟩ := hmore.appended
      rw [hlist] at hlinks
      rw [Loop.run, hbody, hlist, forwardLink_append visited rest link hnew]
      cases rest with
      | nil =>
          cases fuel with
          | zero =>
              rw [List.length_nil] at hlength
              omega
          | succ fuel => exact ⟨σ', connected ++ more, rfl, hall, hvisited'⟩
      | cons next rest =>
          have hlist' : σ'.criticalDevices = (visited ++ [link]) ++ next :: (rest ++ links) := by
            rw [hlinks]
            simp
          obtain ⟨σ'', connected', hrun, hend, hmem⟩ := ih (visited ++ [link]) (rest ++ links) next
            (connected ++ more) hlist' hall hvisited' (by
              rw [List.length_append, List.length_singleton]
              omega)
          refine ⟨σ'', connected', hrun, hend, fun e he hlisted => hmem e he ?_⟩
          simp only [List.mem_append, List.mem_cons] at hlisted ⊢
          tauto

end Walk

/-- The buses that lead to critical devices: the root, and below it critical nodes that
the bus driver supports. -/
inductive DtTree.ChainBus (t : DtTree) : Int → Prop
  | root : DtTree.ChainBus t t.rootNode
  | bus (n m : Int) (hn : DtTree.ChainBus t n) (hm : m ∈ t.subnodes n)
      (hcritical : fdtIsCriticalNode t.toFdt m = true) (hbus : t.IsBusNode m) :
      DtTree.ChainBus t m

/-- A critical node whose ancestors are supported buses, critical below the root. -/
def DtTree.CriticalBelow (t : DtTree) (m : Int) : Prop :=
  fdtIsCriticalNode t.toFdt m = true ∧
    (m = t.rootNode ∨ ∃ n, t.ChainBus n ∧ m ∈ t.subnodes n)

/-- `gCriticalDevices` holds the live critical devices, each once. -/
def CriticalListed (σ : Registry) : Prop :=
  σ.criticalDevices.Nodup ∧
    ∀ dtIo, dtIo ∈ σ.criticalDevices ↔ ∃ d ∈ σ.devices, d.isCritical = true ∧ d.dtIo = dtIo

theorem RegistryInv.criticalListed {bus : DtBusDriver} {root : DtDeviceRecord} {σ : Registry}
    (h : RegistryInv bus root σ) : CriticalListed σ := by
  refine ⟨h.critical_nodup, fun dtIo => ?_⟩
  rw [h.critical]
  simp [and_assoc]

/-- Starts up to End-of-DXE, one of them a full scan of the root. -/
structure DxeHistory where
  rooted : RootedBus
  agent : EfiHandle
  services : ScanServices
  client : DtDeviceRecord → Option EfiHandle
  started : List BusStart
  registry : Registry
  run : StartRun rooted agent ScanServices.Reliable started registry
  reliable : services.Reliable
  fit : rooted.bus.tree.PathNodesFit
  rootScanned : ∃ s ∈ started, s.device = rooted.root ∧ s.remaining = none

namespace DxeHistory

def platform (h : DxeHistory) : Platform := ⟨h.rooted.bus, h.services, h.agent, h.client⟩

/-- The run of `OnEndOfDxe`, with room for every node. -/
def endOfDxe (h : DxeHistory) : Option (Registry × List EfiHandle) :=
  onEndOfDxe h.platform (h.rooted.sound.maxDepth + 1) (h.rooted.sound.nodes.length + 1) h.registry

/-- A critical node has a device, and a connect was attempted on it unless a driver was
bound before. -/
def Reached (h : DxeHistory) (σ : Registry) (connected : List EfiHandle) (m : Int) : Prop :=
  ∃ d ∈ σ.devices, d.fdtNode = m ∧
    (d.handle ∈ connected ∨ fbpHandleHasBoundDriver h.registry d.handle = true)

def Connects (h : DxeHistory) : Prop :=
  ∃ σ connected, h.endOfDxe = some (σ, connected) ∧ CriticalListed σ ∧
    ∀ m, h.rooted.bus.tree.CriticalBelow m → h.Reached σ connected m

/-- A bus on the way to critical devices that was started at all was started for each
of its critical children, in full or by name. -/
def Covered (h : DxeHistory) : Prop :=
  ∀ s ∈ h.started, h.rooted.bus.tree.ChainBus s.device.fdtNode →
    ∀ m ∈ h.rooted.bus.tree.subnodes s.device.fdtNode,
      fdtIsCriticalNode h.rooted.bus.tree.toFdt m = true →
        ∃ s' ∈ h.started, s'.device = s.device ∧ s'.Names h.rooted.bus m

variable (h : DxeHistory)

theorem endOfDxe_walked : ∃ σ connected, h.endOfDxe = some (σ, connected) ∧
    Connected h.rooted.bus h.rooted.root h.registry σ connected ∧
      ∀ d ∈ h.registry.devices, d.isCritical = true →
        d.handle ∈ connected ∨ fbpHandleHasBoundDriver h.registry d.handle = true := by
  have hinv := h.run.inv.inv
  have hlisted (d : DtDeviceRecord) (hd : d ∈ h.registry.devices)
      (hcritical : d.isCritical = true) : d.dtIo ∈ h.registry.criticalDevices :=
    (hinv.criticalListed.2 d.dtIo).mpr ⟨d, hd, hcritical, rfl⟩
  rw [endOfDxe, onEndOfDxe]
  cases hlinks : h.registry.criticalDevices with
  | nil =>
      refine ⟨h.registry, [], rfl, .refl hinv, fun d hd hcritical => ?_⟩
      have hmem := hlisted d hd hcritical
      rw [hlinks] at hmem
      exact nomatch hmem
  | cons link rest =>
      obtain ⟨σ, connected, hrun, hconnected, hall⟩ := onEndOfDxe_walk h.platform h.rooted.sound
        h.fit h.reliable h.registry (h.rooted.sound.nodes.length + 1) [] rest link [] hlinks
        (.refl hinv) (fun _ _ hmem => nomatch hmem) (Nat.lt_succ_self _)
      refine ⟨σ, connected, hrun, hconnected, fun d hd hcritical => hall d hd ?_⟩
      have hmem := hlisted d hd hcritical
      rwa [hlinks] at hmem

variable {h} {σ : Registry} {connected : List EfiHandle}

theorem reached_of_bound (hcovered : h.Covered)
    (hconnected : Connected h.rooted.bus h.rooted.root h.registry σ connected)
    (hall : ∀ d ∈ h.registry.devices, d.isCritical = true →
      d.handle ∈ connected ∨ fbpHandleHasBoundDriver h.registry d.handle = true)
    {d : DtDeviceRecord} (hd : d ∈ σ.devices) (hbus : h.rooted.bus.tree.ChainBus d.fdtNode)
    (hsupported : isSupportedDevice h.rooted.bus d = true)
    (hbound : fbpHandleHasBoundDriver σ d.handle = true) (m : Int)
    (hm : m ∈ h.rooted.bus.tree.subnodes d.fdtNode)
    (hcritical : fdtIsCriticalNode h.rooted.bus.tree.toFdt m = true) :
    h.Reached σ connected m := by
  have hinv := h.run.inv
  cases hbefore : fbpHandleHasBoundDriver h.registry d.handle with
  | false =>
      obtain ⟨-, hchildren⟩ := hconnected.started d hd hbound hbefore
      obtain ⟨e, he, hnode, hattempted⟩ := hchildren hsupported m hm
      exact ⟨e, he, hnode, .inl hattempted⟩
  | true =>
      obtain ⟨d', hd', hhandle⟩ := Connected.mem_of_bound hinv.inv d.handle hbefore
      have hsame : d' = d := hconnected.inv.eq_of_handle (hconnected.kept d' hd') hd hhandle
      subst hsame
      obtain ⟨s, hs, hdevice⟩ := hinv.bound d' hd' hsupported hbefore
      obtain ⟨s', hs', hdevice', hnames⟩ := hcovered s hs (hdevice.symm ▸ hbus) m
        (hdevice.symm ▸ hm) hcritical
      have hparent : s'.device = d' := hdevice'.trans hdevice
      obtain ⟨e, he, hnode⟩ := h.run.found h.fit s' hs' m (hparent.symm ▸ hm) hnames
      have hchild := hinv.inv.isChildOf_of_node h.rooted.sound hd' he (hnode ▸ hm)
      exact ⟨e, hconnected.kept e he, hnode,
        hall e he (hchild.critical.trans (hnode ▸ hcritical))⟩

theorem bound_of_chainBus (hcovered : h.Covered)
    (hconnected : Connected h.rooted.bus h.rooted.root h.registry σ connected)
    (hall : ∀ d ∈ h.registry.devices, d.isCritical = true →
      d.handle ∈ connected ∨ fbpHandleHasBoundDriver h.registry d.handle = true)
    (n : Int) (hn : h.rooted.bus.tree.ChainBus n) :
    ∃ d ∈ σ.devices, d.fdtNode = n ∧ isSupportedDevice h.rooted.bus d = true ∧
      fbpHandleHasBoundDriver σ d.handle = true := by
  induction hn with
  | root =>
      obtain ⟨s, hs, hdevice, -⟩ := h.rootScanned
      obtain ⟨hmem, hbound⟩ := h.run.inv.started s hs
      rw [hdevice] at hmem hbound
      have hisRoot := hconnected.inv.isRoot
      exact ⟨h.rooted.root, hconnected.kept _ hmem, hisRoot.node,
        by rw [isSupportedDevice, hisRoot.parent], hconnected.bound _ hbound⟩
  | bus n m hn hm hcritical hbus ih =>
      obtain ⟨d, hd, rfl, hsupported, hbound⟩ := ih
      obtain ⟨e, he, rfl, hconnect⟩ := reached_of_bound hcovered hconnected hall hd hn hsupported
        hbound m hm hcritical
      have hinv := hconnected.inv.toRegistryInv
      have hroot := hinv.ne_root (hinv.isChildOf_of_node h.rooted.sound hd he hm)
      have hsupported' := (hinv.isSupportedDevice_iff h.rooted.sound he hroot).mpr hbus
      refine ⟨e, he, rfl, hsupported', ?_⟩
      cases hconnect with
      | inl hattempted =>
          obtain ⟨e', he', hhandle, hbound'⟩ := hconnected.attempted e.handle hattempted
          exact hbound' (hinv.eq_of_handle he' he hhandle ▸ hsupported')
      | inr hbefore => exact hconnected.bound _ hbefore

variable (h)

theorem connects_of_covered (hcovered : h.Covered) : h.Connects := by
  obtain ⟨σ, connected, hrun, hconnected, hall⟩ := h.endOfDxe_walked
  refine ⟨σ, connected, hrun, hconnected.inv.criticalListed, fun m hm => ?_⟩
  obtain ⟨hcritical, hroot | ⟨n, hn, hmem⟩⟩ := hm
  · obtain ⟨s, hs, hdevice, -⟩ := h.rootScanned
    obtain ⟨hd, hbound⟩ := h.run.inv.started s hs
    rw [hdevice] at hd hbound
    exact ⟨h.rooted.root, hconnected.kept _ hd,
      hconnected.inv.isRoot.node.trans hroot.symm, .inr hbound⟩
  · obtain ⟨d, hd, rfl, hsupported, hbound⟩ := bound_of_chainBus hcovered hconnected hall n hn
    exact reached_of_bound hcovered hconnected hall hd hn hsupported hbound m hmem hcritical

theorem covered_of_connects (hconnects : h.Connects) : h.Covered := by
  obtain ⟨σ, connected, hrun, hconnected, -⟩ := h.endOfDxe_walked
  obtain ⟨σ', connected', hrun', -, hreached⟩ := hconnects
  rw [hrun] at hrun'
  cases hrun'
  intro s hs hbus m hm hcritical
  obtain ⟨e, he, rfl, -⟩ := hreached m ⟨hcritical, .inr ⟨_, hbus, hm⟩⟩
  obtain ⟨hd, hbound⟩ := h.run.inv.started s hs
  have hchild := hconnected.inv.isChildOf_of_node h.rooted.sound (hconnected.kept _ hd) he hm
  cases hconnected.added e he with
  | inl hold => exact h.run.inv.named s.device e hd hold hchild
  | inr hnew =>
      obtain ⟨p, hp, hchild', hunbound⟩ := hnew
      have hsame := hconnected.inv.eq_of_isChildOf hp (hconnected.kept _ hd) hchild' hchild
      rw [hsame] at hunbound
      exact nomatch hbound.symm.trans hunbound

end DxeHistory

/-- The list of critical devices is exact after any starts, and at End-of-DXE every
critical device is connected exactly when the starts before it were full or named each
critical child. -/
theorem endOfDxe_connects_iff (h : DxeHistory) :
    (∀ agent started σ, StartRun h.rooted agent (fun _ => True) started σ → CriticalListed σ) ∧
      (h.Connects ↔ h.Covered) :=
  ⟨fun _ _ _ run => run.inv.inv.criticalListed, h.covered_of_connects, h.connects_of_covered⟩

theorem nextServices_reliable : nextServices.Reliable where
  node _ _ := rfl
  path _ _ := rfl
  device _ _ := ⟨_, rfl⟩
  handle _ _ := ⟨_, rfl⟩
  child _ _ := rfl

/-- A critical bus `a` below the root, and the critical device `b` below it. -/
def criticalBusTree : DtTree where
  mem _ := 0
  getprop n name := if n ≠ 0 ∧ name = "fdtbuspkg,critical" then .ok (0, 0) else .error .notFound
  rootNode := 0
  subnodes n := if n = 0 then [1] else if n = 1 then [2] else []
  subnodesEnd _ := -FDT_ERR_NOTFOUND
  getName n := if n = 1 then some [0x61] else if n = 2 then some [0x62] else none
  nodeCheckCompatible n _ := if n = 1 then 0 else 1
  getAlias _ := none

theorem criticalBusTree_subnodes (n m : Int) (h : m ∈ criticalBusTree.subnodes n) :
    (n = 0 ∧ m = 1) ∨ (n = 1 ∧ m = 2) := by
  rw [criticalBusTree] at h
  dsimp only at h
  split at h
  · next hn => exact .inl ⟨hn, List.mem_singleton.mp h⟩
  · split at h
    · next hn => exact .inr ⟨hn, List.mem_singleton.mp h⟩
    · exact nomatch h

theorem criticalBusTree_name (m : Int) (name : AsciiStr)
    (h : criticalBusTree.getName m = some name) : name = [0x61] ∨ name = [0x62] := by
  rw [criticalBusTree] at h
  dsimp only at h
  split at h
  · exact .inl (Option.some.inj h).symm
  · split at h
    · exact .inr (Option.some.inj h).symm
    · cases h

def criticalBusTree_sound : criticalBusTree.Sound where
  nodes := [0, 1, 2]
  root_mem := by decide
  subnode_mem n m h := by
    obtain ⟨-, rfl⟩ | ⟨-, rfl⟩ := criticalBusTree_subnodes n m h <;> decide
  depth n := if n = 0 then 0 else if n = 1 then 1 else 2
  maxDepth := 2
  depth_le n := by
    split
    · decide
    · split <;> decide
  depth_root := rfl
  depth_subnode n m h := by
    obtain ⟨rfl, rfl⟩ | ⟨rfl, rfl⟩ := criticalBusTree_subnodes n m h <;> rfl
  parent_unique n n' m h h' := by
    have h := criticalBusTree_subnodes n m h
    have h' := criticalBusTree_subnodes n' m h'
    omega
  named n m h := by
    obtain ⟨rfl, rfl⟩ | ⟨rfl, rfl⟩ := criticalBusTree_subnodes n m h <;> exact ⟨_, rfl⟩
  distinct n m m' h h' _ := by
    have h := criticalBusTree_subnodes n m h
    have h' := criticalBusTree_subnodes n m' h'
    omega
  terminated m name h := by
    obtain rfl | rfl := criticalBusTree_name m name h <;> decide
  ended n := rfl

theorem criticalBusTree_fit : criticalBusTree.PathNodesFit := by
  refine pathNodesFit_of_short criticalBusTree criticalBusTree_sound fun m name h => ?_
  obtain rfl | rfl := criticalBusTree_name m name h <;> decide

def criticalBusDriver : DtBusDriver := ⟨criticalBusTree, true, DtProperty.ofBuf 0 0⟩

def criticalBusRoot : RootedBus where
  bus := criticalBusDriver
  sound := criticalBusTree_sound
  services := nextServices
  rootName := [0x44]
  root := ⟨⟨.root ⟨1, 1, 0, 2, 1, 2, 1, true, 0, none, MAX_UINT64⟩, none, .okay⟩, [0x44],
    [dtPathNode [0x44]]⟩
  initial := (createRootHandle criticalBusDriver nextServices ⟨[], fun _ => [], []⟩ [0x44] 0).2
  created := Prod.ext rfl rfl

def rootStart : BusStart := ⟨criticalBusRoot.root, none, nextServices⟩

def afterRootStart : Registry :=
  (driverStart criticalBusDriver criticalBusRoot.initial 7 nextServices rootStart.device none).2

/-- The start of the bus that a lookup of the bus itself causes, with nothing remaining. -/
def endStart : BusStart :=
  ⟨afterRootStart.devices.getD 1 criticalBusRoot.root, some [], nextServices⟩

def partialHistory : DxeHistory where
  rooted := criticalBusRoot
  agent := 7
  services := nextServices
  client _ := none
  started := [endStart, rootStart]
  registry := _
  run := .start endStart
    (.start rootStart .initial criticalBusRoot.inv.root_mem rfl nextServices_reliable)
    (List.mem_of_getElem? (i := 1) rfl) rfl nextServices_reliable
  reliable := nextServices_reliable
  fit := criticalBusTree_fit
  rootScanned := ⟨rootStart, by simp, rfl, rfl⟩

/-- The device below a bus that was looked up is not created at End-of-DXE. -/
theorem partial_start_not_connected : ¬ ∀ h : DxeHistory, h.Connects := by
  intro hclaim
  have hbus : criticalBusTree.ChainBus 1 := .bus 0 1 .root (by decide) rfl (.inl rfl)
  obtain ⟨s, hs, hdevice, hnames⟩ := partialHistory.covered_of_connects (hclaim partialHistory)
    endStart (by simp [partialHistory]) hbus 2 (by decide) rfl
  have hother : s = endStart := by
    have hlisted : s = endStart ∨ s = rootStart := by simpa [partialHistory] using hs
    cases hlisted with
    | inl heq => exact heq
    | inr heq =>
        have hnode := congrArg DtDeviceRecord.fdtNode (heq ▸ hdevice)
        exact nomatch (hnode : (0 : Int) = 1)
  have hstarts := (hnames [0x62] rfl [] (hother ▸ rfl)).1
  exact nomatch (hstarts : false = true)

end FdtBusPkg
