import FdtBusPkg.DtBus.Disconnect

/-!
Runs of starts, stops, scans and removals. In each state a stop is exact: it takes away children
that it names, with what lies beneath them, and says whether one is left. What a stop takes away
the next start brings back.
-/
namespace FdtBusPkg

/-- A call of the bus driver on a registered device. -/
inductive BusCall
  | start (device : DtDeviceRecord) (agent : EfiHandle) (remaining : Option DevicePath)
      (services : ScanServices)
  | stop (device : DtDeviceRecord) (agent : EfiHandle) (named : List DtDeviceRecord)
      (services : EfiHandle → RemoveServices)
  | children (call : ChildrenCall)

/-- The removals of some children find drivers that are as documented, and the parent can be
opened again when one stays. -/
structure Removable (bus : DtBusDriver) (root : DtDeviceRecord) (children : List DtDeviceRecord)
    (services : EfiHandle → RemoveServices) : Prop where
  drivers (c : DtDeviceRecord) (hc : c ∈ children) :
    (services c.handle).drivers.Documented bus root
  reopen (c : DtDeviceRecord) (hc : c ∈ children) : (services c.handle).reopen = .ok ()

namespace BusCall

def device : BusCall → DtDeviceRecord
  | .start device _ _ _ => device
  | .stop device _ _ _ => device
  | .children call => call.device

def apply (bus : DtBusDriver) (σ : Registry) : BusCall → EfiStatus × Registry
  | .start device agent remaining services => driverStart bus σ agent services device remaining
  | .stop device agent named services =>
    driverStop services agent device.handle σ (named.map (·.handle))
  | .children call => call.apply bus σ

/-- A start is supported, a stop names children of the device, and a removal closes an open by
child controller only. -/
def Checked (bus : DtBusDriver) (root : DtDeviceRecord) (σ : Registry) : BusCall → Prop
  | .start device agent remaining _ => driverSupported bus σ agent device.handle remaining = .ok ()
  | .stop device agent named services =>
    StopAsked σ device agent named ∧ Removable bus root named services
  | .children (.scan _ _ _ _) => True
  | .children (.remove device child agent services) =>
    ClosesOnlyChild services σ child device.handle agent ∧ services.reopen = .ok () ∧
      services.drivers.Documented bus root

end BusCall

/-- The registries that starts, stops, scans and removals reach. -/
inductive BusRun (b : RootedBus) : Registry → Prop
  | start : BusRun b b.initial
  | call {σ : Registry} (c : BusCall) (run : BusRun b σ) (hdevice : c.device ∈ σ.devices)
      (hcall : c.Checked b.bus b.root σ) : BusRun b (c.apply b.bus σ).2

/-- A stop changes its children and what lies beneath them, and reports whether one is left. -/
structure StopsExactly (σ : Registry) (children : List DtDeviceRecord)
    (result : EfiStatus × Registry) : Prop
    extends ChildrenStopped σ children result.2 where
  done : result.1 = .ok () ↔ ∀ c ∈ children, c ∉ result.2.devices
  failed : result.1 = .ok () ∨ result.1 = .error .deviceError

section Runs

variable {bus : DtBusDriver} {root : DtDeviceRecord} {X : Set EfiHandle} {σ : Registry}
  {agent : EfiHandle} {p : DtDeviceRecord} {children : List DtDeviceRecord}

theorem outside_empty (c : DtDeviceRecord) (σ : Registry) : Outside ∅ c σ :=
  fun _ hx => absurd hx (Set.notMem_empty _)

theorem DriverInv.remove (h : DriverInv bus root σ) (hlinked : σ.Linked bus ∅)
    (hp : p ∈ σ.devices) {services : RemoveServices} {child : EfiHandle}
    (hchecked : ClosesOnlyChild services σ child p.handle agent)
    (hreopen : services.reopen = .ok ()) (hdrivers : services.drivers.Documented bus root) :
    DriverInv bus root (dtDeviceRemoveHandle services σ child p.handle agent).2 ∧
      (dtDeviceRemoveHandle services σ child p.handle agent).2.Linked bus ∅ := by
  by_cases hclosing : Closing services σ child p.handle agent
  · obtain ⟨c, hc, rfl⟩ := List.mem_map.mp hclosing.mem
    have hstopped := (dtDeviceRemoveHandle_stopped services h hlinked hp hc
      (hclosing.listed hchecked) (outside_empty c σ) hdrivers hreopen).1
    exact ⟨hstopped.inv, hstopped.linked⟩
  · have hresult := dtDeviceRemoveHandle_cases agent (R := fun _ => False)
      fun h => absurd h hclosing
    generalize dtDeviceRemoveHandle services σ child p.handle agent = result at hresult
    obtain ⟨status, σ'⟩ := result
    cases hresult with
    | unknown hunknown => exact ⟨h, hlinked⟩
    | refused e hchild =>
        have hsame := sameHeld_opened p.handle agent hchild
        exact ⟨h.sameHeld hsame, hsame.linked hlinked⟩
    | kept e σ₁ hclosing' => exact absurd hclosing' hclosing
    | lost e σ₁ hclosing' => exact absurd hclosing' hclosing
    | removed d σ₁ hd hhandle hclosing' => exact absurd hclosing' hclosing

theorem BusRun.inv {b : RootedBus} (run : BusRun b σ) :
    DriverInv b.bus b.root σ ∧ σ.Linked b.bus ∅ := by
  induction run with
  | start =>
      have hopens := b.initialState.opens
      refine ⟨⟨b.boundInv.toDrivenInv, fun handle e e' he => ?_⟩, b.linked⟩
      rw [hopens] at he
      cases he
  | @call σ c run hdevice hcall ih =>
      obtain ⟨h, hlinked⟩ := ih
      cases c with
      | start device agent remaining services =>
          have hd : device ∈ σ.devices := hdevice
          have hstarted := h.keepsBelow_start hlinked b.sound services agent hd remaining hcall
          exact ⟨hstarted.inv, hstarted.linked⟩
      | stop device agent named services =>
          have hd : device ∈ σ.devices := hdevice
          have hstopped := h.keepsBelow_stop hlinked hd (outside_empty device σ) hcall.1
            hcall.2.drivers hcall.2.reopen
          exact ⟨hstopped.inv, hstopped.linked⟩
      | children call =>
          cases call with
          | scan device agent remaining services =>
              have hd : device ∈ σ.devices := hdevice
              have hscanned := h.keepsBelow_scan hlinked b.sound services agent hd remaining
              exact ⟨hscanned.inv, hscanned.linked⟩
          | remove device child agent services =>
              exact h.remove hlinked hdevice hcall.1 hcall.2.1 hcall.2.2

theorem driverStop_children (services : EfiHandle → RemoveServices) (hsome : children ≠ []) :
    driverStop services agent p.handle σ (children.map (·.handle)) =
      (if (stopChildren services agent p.handle (children.map (·.handle)) (true, σ)).1 then .ok ()
        else .error .deviceError,
        (stopChildren services agent p.handle (children.map (·.handle)) (true, σ)).2) := by
  rw [driverStop, if_neg fun hnone => hsome (List.map_eq_nil_iff.mp hnone)]

/-- In every run each node has at most one device, and a stop is exact. -/
theorem driverStop_exact {b : RootedBus} (run : BusRun b σ) (hp : p ∈ σ.devices)
    (hasked : StopAsked σ p agent children) (services : EfiHandle → RemoveServices)
    (hremovable : Removable b.bus b.root children services) (hsome : children ≠ []) :
    (∀ d ∈ σ.devices, ∀ d' ∈ σ.devices, d.fdtNode = d'.fdtNode → d = d') ∧
      StopsExactly σ children
        (driverStop services agent p.handle σ (children.map (·.handle))) := by
  obtain ⟨h, hlinked⟩ := run.inv
  obtain ⟨hstopped, hflag⟩ := stopChildren_stopped services h hlinked hp (outside_empty p σ) hasked
    hremovable.drivers hremovable.reopen true
  refine ⟨fun d hd d' hd' hnode => h.eq_of_node b.sound hd hd' hnode, ?_⟩
  rw [driverStop_children services hsome]
  generalize stopChildren services agent p.handle (children.map (·.handle)) (true, σ) = result
    at hstopped hflag
  obtain ⟨flag, σ'⟩ := result
  rw [and_iff_right rfl] at hflag
  refine ⟨hstopped.toChildrenStopped, ?_, ?_⟩
  · rw [← hflag]
    cases flag <;> simp
  · cases flag <;> simp

end Runs

/-- Where the bus driver is the only driver. -/
def busPlatform : Platform := ⟨criticalBusDriver, nextServices, 7, fun _ => none⟩

def busRemoves : EfiHandle → RemoveServices := fun _ =>
  ⟨true, busDrivers busPlatform (fun _ => ⟨true, idleDrivers, .ok (), .ok ()⟩) 1, .ok (), .ok ()⟩

def startedBus : DtDeviceRecord := afterRootStart.devices.getD 1 criticalBusRoot.root

/-- The registry once the root and the bus below it are started. -/
def startedTwice : Registry :=
  (driverStart criticalBusDriver afterRootStart 7 nextServices startedBus none).2

theorem startedTwice_run : BusRun criticalBusRoot startedTwice :=
  .call (.start startedBus 7 none nextServices)
    (.call (.start criticalBusRoot.root 7 none nextServices) .start criticalBusRoot.inv.root_mem
      rfl) (List.mem_of_getElem? (i := 1) rfl) rfl

theorem startedTwice_root : criticalBusRoot.root ∈ startedTwice.devices :=
  List.mem_of_getElem? (i := 0) rfl

theorem startedTwice_asked : StopAsked startedTwice criticalBusRoot.root 7 [startedBus] where
  nodup := List.nodup_singleton _
  mem c hc := by
    rw [List.mem_singleton.mp hc]
    exact List.mem_of_getElem? (i := 1) rfl
  listed c hc := by
    rw [List.mem_singleton.mp hc]
    decide

theorem busRemoves_removable (children : List DtDeviceRecord) :
    Removable criticalBusRoot.bus criticalBusRoot.root children busRemoves where
  drivers _ _ := busDrivers_documented busPlatform criticalBusTree_sound _ (fun _ => rfl) 1
  reopen _ _ := rfl

/-- The bus goes with the device below it, which its driver removes. -/
theorem startedBus_stops :
    startedBus ∉ (driverStop busRemoves 7 criticalBusRoot.root.handle startedTwice
      ([startedBus].map (·.handle))).2.devices := by
  have hexact := (driverStop_exact startedTwice_run startedTwice_root startedTwice_asked busRemoves
    (busRemoves_removable _) (List.cons_ne_nil _ _)).2
  exact hexact.done.mp rfl _ (List.mem_singleton_self _)

/-- Two devices of one node, apart from their handles and the memory that holds them. -/
structure SameDevice (d d' : DtDeviceRecord) : Prop where
  node : d'.fdtNode = d.fdtNode
  name : d'.name = d.name
  path : d'.devicePath = d.devicePath
  parent : d'.device.parent? = d.device.parent?
  critical : d'.isCritical = d.isCritical

theorem SameDevice.refl (d : DtDeviceRecord) : SameDevice d d := ⟨rfl, rfl, rfl, rfl, rfl⟩

theorem IsChildOf.same {bus : DtBusDriver} {p d d' : DtDeviceRecord} (h : IsChildOf bus p d)
    (h' : IsChildOf bus p d') (hnode : d'.fdtNode = d.fdtNode) : SameDevice d d' := by
  have hname : d'.name = d.name := by
    have hnames := h'.name
    rw [hnode, h.name] at hnames
    exact (Option.some.inj hnames).symm
  exact ⟨hnode, hname, by rw [h'.path, h.path, hname], h'.parent.trans h.parent.symm,
    by rw [h'.critical, h.critical, hnode]⟩

/-- A disconnect of a device with children, which stops the children and then the device, and
the start that comes after. -/
def driverRestart (bus : DtBusDriver) (removes : EfiHandle → RemoveServices)
    (scan : ScanServices) (agent : EfiHandle) (σ : Registry) (p : DtDeviceRecord)
    (children : List EfiHandle) : EfiStatus × Registry :=
  let σ := (driverStop removes agent p.handle σ children).2
  let σ := (driverStop removes agent p.handle σ []).2
  driverStart bus σ agent scan p none

section Restart

variable {bus : DtBusDriver} {root : DtDeviceRecord} {σ : Registry} {agent : EfiHandle}
  {p : DtDeviceRecord} {children : List DtDeviceRecord}

theorem Registry.devices_closeProtocol (σ : Registry) (handle agent controller : EfiHandle) :
    (σ.closeProtocol handle agent controller).2.devices = σ.devices := by
  rw [Registry.closeProtocol]
  split <;> rfl

theorem DriverInv.unbound (h : DriverInv bus root σ)
    (hdriver : ⟨agent, p.handle, .byDriver⟩ ∈ σ.opens p.handle) :
    fbpHandleHasBoundDriver (σ.closeProtocol p.handle agent p.handle).2 p.handle = false := by
  have hopen : σ.isOpenBy p.handle agent p.handle = true :=
    List.any_eq_true.mpr ⟨_, hdriver, by simp⟩
  rw [Registry.closeProtocol, if_pos hopen, fbpHandleHasBoundDriver, List.any_eq_false]
  intro e he hmatch
  obtain ⟨hold, hkept⟩ := (Registry.mem_opens_close _ _ _ _ _ _).mp he
  have hattributes := of_decide_eq_true (Bool.and_eq_true_iff.mp hmatch).1
  have hsame := h.single p.handle e _ hold hdriver hattributes rfl
  exact hkept ⟨rfl, by rw [hsame], by rw [hsame]⟩

/-- A supported device that no driver has is started, and has a device for every node below. -/
theorem DrivenInv.start_unbound (h : DrivenInv bus root σ) (sound : bus.tree.Sound)
    (hfit : bus.tree.PathNodesFit) {scan : ScanServices} (hscan : scan.Reliable)
    (hp : p ∈ σ.devices) (hsupported : isSupportedDevice bus p = true)
    (hunbound : fbpHandleHasBoundDriver σ p.handle = false) :
    (driverStart bus σ agent scan p none).1 = .ok () ∧
      fbpHandleHasBoundDriver (driverStart bus σ agent scan p none).2 p.handle = true ∧
      (∀ d ∈ σ.devices, d ∈ (driverStart bus σ agent scan p none).2.devices) ∧
      (∀ d ∈ (driverStart bus σ agent scan p none).2.devices, d ∈ σ.devices ∨ IsChildOf bus p d) ∧
      ∀ n ∈ bus.tree.subnodes p.fdtNode, ∃ d ∈ (driverStart bus σ agent scan p none).2.devices,
        d.fdtNode = n ∧ IsChildOf bus p d := by
  have hstart := driverStart_supported scan σ agent p none
    ((h.driverSupported_unbound agent hp hunbound).mpr hsupported)
  obtain ⟨hopened, hopen⟩ := h.openByDriver agent hp
  generalize (σ.openByDriver agent p.handle).2 = σ' at hstart hopened hopen
  have hp' : p ∈ σ'.devices := hopen.devices.symm ▸ hp
  have hgrown := dtDeviceScan_grown sound scan agent p none hopened.toRegistryInv hp'
  have hinv := dtDeviceScan_inv hopened.toRegistryInv scan agent p none hp'
  have hsucceeds := scanSucceeds_of_reliable hscan hfit agent p none _ hopened.toRegistryInv hp'
    fun n hn => hn
  have hcomplete := (hopened.scanComplete sound hfit.apart scan agent hp' hsucceeds).children
  rw [hstart]
  refine ⟨rfl, ?_, fun d hd => hgrown.kept d (hopen.devices.symm ▸ hd), fun d hd => ?_,
    fun n hn => ?_⟩
  · rw [hgrown.bound]
    exact (hopen.bound p.handle).mpr (.inr rfl)
  · exact (hgrown.added d hd).imp (fun hold => hopen.devices ▸ hold) fun hnew => hnew.1
  · obtain ⟨d, hd, rfl, -⟩ := hcomplete n hn
    exact ⟨d, hd, rfl, hinv.isChildOf_of_node sound (hgrown.kept p hp') hd hn⟩

/-- Once its nodes have devices, a bus that is disconnected and started again has the same
devices as before, whatever children the disconnect has taken away, but for what lies beneath
those children. -/
theorem driverRestart_same {b : RootedBus} (run : BusRun b σ) (hfit : b.bus.tree.PathNodesFit)
    (hp : p ∈ σ.devices) (hsupported : isSupportedDevice b.bus p = true)
    (hdriver : ⟨agent, p.handle, .byDriver⟩ ∈ σ.opens p.handle)
    (hscanned : ∀ n ∈ b.bus.tree.subnodes p.fdtNode, ∃ d ∈ σ.devices, d.fdtNode = n)
    (hasked : StopAsked σ p agent children) (hsome : children ≠ [])
    (removes : EfiHandle → RemoveServices) (hremovable : Removable b.bus b.root children removes)
    {scan : ScanServices} (hscan : scan.Reliable) :
    (driverRestart b.bus removes scan agent σ p (children.map (·.handle))).1 = .ok () ∧
      fbpHandleHasBoundDriver
        (driverRestart b.bus removes scan agent σ p (children.map (·.handle))).2 p.handle = true ∧
      (∀ d ∈ σ.devices, (∀ c ∈ children, ¬ Beneath c d) →
        ∃ d' ∈ (driverRestart b.bus removes scan agent σ p (children.map (·.handle))).2.devices,
          SameDevice d d') ∧
      ∀ d' ∈ (driverRestart b.bus removes scan agent σ p (children.map (·.handle))).2.devices,
        (∃ d ∈ σ.devices, SameDevice d d') ∨ ∃ c ∈ children, Beneath c d' := by
  obtain ⟨h, hlinked⟩ := run.inv
  have hchild (c : DtDeviceRecord) (hc : c ∈ children) := hasked.isChildOf h.toRegistryInv hp hc
  have hbeside : ∀ c ∈ children, ¬ Within c p := fun c hc => (hchild c hc).not_within
  have hstopped := (stopChildren_stopped removes h hlinked hp (outside_empty p σ) hasked
    hremovable.drivers hremovable.reopen true).1
  have hkept := hstopped.kept p hp hbeside
  rw [driverRestart, driverStop_children removes hsome]
  dsimp only
  generalize (stopChildren removes agent p.handle (children.map (·.handle)) (true, σ)).2 = stopped
    at *
  have hbound := (hstopped.drivers p hp hbeside _ rfl).mpr hdriver
  have hunbound := hstopped.inv.unbound hbound
  have hclosed := (hstopped.inv.keepsBelow_unbind hstopped.linked agent hkept).inv
  have hdevices := stopped.devices_closeProtocol p.handle agent p.handle
  rw [driverStop, if_pos rfl]
  generalize (stopped.closeProtocol p.handle agent p.handle).2 = closed at *
  obtain ⟨hok, hstarted, hold, hnew, hchildren⟩ :=
    hclosed.start_unbound b.sound hfit hscan (hdevices ▸ hkept) hsupported hunbound
  refine ⟨hok, hstarted, fun d hd hother => ?_, fun d' hd' => ?_⟩
  · by_cases hnamed : ∃ c ∈ children, Within c d
    · obtain ⟨c, hc, hwithin⟩ := hnamed
      have hpath : c.devicePath = d.devicePath := by
        by_contra hne
        exact hother c hc ⟨hwithin, hne⟩
      obtain rfl := h.eq_of_path (hasked.mem c hc) hd hpath
      obtain ⟨d', hd', hnode, hbelow⟩ := hchildren c.fdtNode (hchild c hc).node
      exact ⟨d', hd', (hchild c hc).same hbelow hnode⟩
    · push Not at hnamed
      exact ⟨d, hold d (hdevices ▸ hstopped.kept d hd hnamed), .refl d⟩
  · cases hnew d' hd' with
    | inl hmem =>
        exact (hstopped.only d' (hdevices ▸ hmem)).imp_left fun hmem => ⟨d', hmem, .refl d'⟩
    | inr hbelow' =>
        obtain ⟨d, hd, hnode⟩ := hscanned d'.fdtNode hbelow'.node
        have hbelow := h.isChildOf_of_node b.sound hp hd (hnode ▸ hbelow'.node)
        exact .inl ⟨d, hd, hbelow.same hbelow' hnode.symm⟩

theorem startedBus_restarts :
    ∃ d ∈ (driverRestart criticalBusDriver busRemoves nextServices 7 startedTwice
      criticalBusRoot.root ([startedBus].map (·.handle))).2.devices, SameDevice startedBus d := by
  have hbus : startedBus ∈ startedTwice.devices := List.mem_of_getElem? (i := 1) rfl
  have hscanned (n : Int) (hn : n ∈ criticalBusTree.subnodes criticalBusRoot.root.fdtNode) :
      ∃ d ∈ startedTwice.devices, d.fdtNode = n := by
    obtain ⟨-, rfl⟩ | ⟨hroot, -⟩ := criticalBusTree_subnodes _ n hn
    · exact ⟨startedBus, hbus, rfl⟩
    · exact absurd hroot (by decide)
  refine (driverRestart_same startedTwice_run criticalBusTree_fit startedTwice_root rfl (by decide)
    hscanned startedTwice_asked (List.cons_ne_nil _ _) busRemoves (busRemoves_removable _)
    nextServices_reliable).2.2.1 startedBus hbus fun c hc => ?_
  rw [List.mem_singleton.mp hc]
  exact not_beneath_self startedBus

end Restart

end FdtBusPkg
