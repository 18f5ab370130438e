import FdtBusPkg.Virtio.Children
import FdtBusPkg.Pci.EcamLib

/-!
The driver binding of the virtio driver over whole runs. Every service may fail, but for
those that are called to recover; a child of a controller is complete at all times, and no
transport is left without its controller.
-/
namespace FdtBusPkg

open OpenRecords (Database)

namespace Handles

/-- `OpenProtocol` with `EFI_OPEN_PROTOCOL_BY_DRIVER`; `status` is its result where no driver
has the protocol open. -/
def openByDriver (db : Handles) (status : EfiStatus) (agent handle : EfiHandle) :
    EfiStatus × Handles :=
  if (db.opens (handle, .dtIo)).filter (fun e => e.attributes = .byDriver) ≠ 0 then
    if ⟨agent, handle, .byDriver⟩ ∈ db.opens (handle, .dtIo) then
      (.error .alreadyStarted, db)
    else
      (.error .accessDenied, db)
  else
    db.openProtocol status handle .dtIo ⟨agent, handle, .byDriver⟩

/-- What the services that `DriverStart` calls answer; `close` is called to recover. -/
structure VirtioStartServices (agent controller : EfiHandle) (db : Handles) where
  openDriver : EfiStatus
  child : ChildCreateServices (db.openByDriver openDriver agent controller).2
  close : EfiStatus

/-- What the services that `DriverStop` calls answer. -/
structure VirtioStopServices where
  openController : EfiStatus
  close : EfiStatus

section Binding

variable (lib : VirtioMmioDeviceLib) (drivers : StopDrivers) (gVirtioMmioTransportGuid : List U8)
  (getReg : EfiHandle → EfiResult DtReg) (agent : EfiHandle)

/-- The end of a start that fails once the controller is open; `close` is the result of closing
it. -/
def virtioStartFailed (close : EfiStatus) (controller : EfiHandle) (e : EfiError)
    (db : Handles) : EfiStatus × Handles :=
  (.error e, (db.closeProtocol close controller .dtIo agent controller).2)

/-- `DriverStart` of the virtio driver; `pathEnds` says that the remaining path is the end node.
A controller without a path stays open. -/
def virtioDriverStart (db : Handles) (controller : EfiHandle)
    (services : VirtioStartServices agent controller db) (pathEnds : Bool) :
    EfiStatus × Handles :=
  let opened := db.openByDriver services.openDriver agent controller
  match opened.1 with
  | .error e => (.error e, opened.2)
  | .ok _ =>
    if pathEnds then
      (.ok (), opened.2)
    else
      match opened.2.interface (controller, .devicePath) with
      | some (.devicePath controllerPath) =>
        match getReg controller with
        | .error e => virtioStartFailed agent services.close controller e opened.2
        | .ok reg =>
          match fbpRegToPhysicalAddress reg with
          | .error e => virtioStartFailed agent services.close controller e opened.2
          | .ok regBase =>
            match virtioChildCreate lib drivers gVirtioMmioTransportGuid opened.2 services.child
                regBase controller agent controllerPath with
            | (.error e, db) => virtioStartFailed agent services.close controller e db
            | (.ok _, db) => (.ok (), db)
      | _ => (.error .notFound, opened.2)

/-- An iteration of the loop of `DriverStop`, with `AllChildrenStopped`. -/
def stopVirtioChild (controller : EfiHandle) (reg : DtReg) (s : Bool × Handles)
    (child : EfiHandle × UnregisterServices) : Bool × Handles :=
  match s.2.virtioChildDestroy lib drivers child.2 controller agent child.1
      (reg.translatedBase.setWidth 64) with
  | (.error _, db) => (false, db)
  | (.ok _, db) => (s.1, db)

/-- `DriverStop` of the virtio driver, over the children with what the services answer for
each. -/
def virtioDriverStop (db : Handles) (controller : EfiHandle) (services : VirtioStopServices)
    (children : List (EfiHandle × UnregisterServices)) : EfiStatus × Handles :=
  match db.openProtocol services.openController controller .dtIo
      ⟨agent, controller, .getProtocol⟩ with
  | (.error e, db) => (.error e, db)
  | (.ok _, db) =>
    if children = [] then
      (.ok (), (db.closeProtocol services.close controller .dtIo agent controller).2)
    else
      match getReg controller with
      | .error e => (.error e, db)
      | .ok reg =>
        let s := children.foldl (stopVirtioChild lib drivers agent controller reg) (true, db)
        (if s.1 then .ok () else .error .deviceError, s.2)

end Binding

/-- The agent has the controller open for the child by child controller. -/
def Linked (db : Handles) (agent controller child : EfiHandle) : Prop :=
  ⟨agent, child, .byChildController⟩ ∈ db.opens (controller, .dtIo)

instance (db : Handles) (agent controller child : EfiHandle) :
    Decidable (db.Linked agent controller child) :=
  inferInstanceAs (Decidable (_ ∈ db.opens (controller, .dtIo)))

/-- Every child has one controller, a path, and the transport for the registers of the
controller; every transport is that of a child. -/
structure ChildrenComplete (getReg : EfiHandle → EfiResult DtReg) (agent : EfiHandle)
    (db : Handles) : Prop where
  apart {controller child : EfiHandle} (h : db.Linked agent controller child) :
    child ≠ controller
  single {controller controller' child : EfiHandle} (h : db.Linked agent controller child)
    (h' : db.Linked agent controller' child) : controller = controller'
  path {controller child : EfiHandle} (h : db.Linked agent controller child) :
    db.interface (child, .devicePath) ≠ none
  transport {controller child : EfiHandle} (h : db.Linked agent controller child) :
    ∃ reg, getReg controller = .ok reg ∧ db.interface (child, .virtioDevice) =
      some (.virtioDevice (reg.translatedBase.setWidth 64))
  linked {child : EfiHandle} (h : db.interface (child, .virtioDevice) ≠ none) :
    ∃ controller, db.Linked agent controller child

/-- What others do to the handles: the children of the agent keep their links and their paths,
and transports stay as they are. -/
structure Undisturbed (agent : EfiHandle) (db db' : Handles) : Prop where
  links (controller child : EfiHandle) :
    db'.Linked agent controller child ↔ db.Linked agent controller child
  path (controller child : EfiHandle) (h : db.Linked agent controller child) :
    db'.interface (child, .devicePath) = db.interface (child, .devicePath)
  transport (child : EfiHandle) :
    db'.interface (child, .virtioDevice) = db.interface (child, .virtioDevice)

section Undisturbed

variable {getReg : EfiHandle → EfiResult DtReg} {agent controller : EfiHandle} {db db' : Handles}

theorem Undisturbed.refl (agent : EfiHandle) (db : Handles) : Undisturbed agent db db :=
  ⟨fun _ _ => Iff.rfl, fun _ _ _ => rfl, fun _ => rfl⟩

theorem Undisturbed.trans {db'' : Handles} (h : Undisturbed agent db db')
    (h' : Undisturbed agent db' db'') : Undisturbed agent db db'' where
  links c child := (h'.links c child).trans (h.links c child)
  path c child hlinked :=
    (h'.path c child ((h.links c child).mpr hlinked)).trans (h.path c child hlinked)
  transport child := (h'.transport child).trans (h.transport child)

theorem ChildrenComplete.undisturbed (h : db.ChildrenComplete getReg agent)
    (hsame : Undisturbed agent db db') : db'.ChildrenComplete getReg agent where
  apart hlinked := h.apart ((hsame.links _ _).mp hlinked)
  single hlinked hlinked' :=
    h.single ((hsame.links _ _).mp hlinked) ((hsame.links _ _).mp hlinked')
  path hlinked := by
    have hbefore := (hsame.links _ _).mp hlinked
    rw [hsame.path _ _ hbefore]
    exact h.path hbefore
  transport hlinked := by
    rw [hsame.transport]
    exact h.transport ((hsame.links _ _).mp hlinked)
  linked htransport := by
    rw [hsame.transport] at htransport
    obtain ⟨controller, hlinked⟩ := h.linked htransport
    exact ⟨controller, (hsame.links _ _).mpr hlinked⟩

theorem undisturbed_addOpen (k : EfiHandle × ProtocolGuid) (e : OpenEntry)
    (hsome : (db.interface k).isSome) (he : e.attributes ≠ .byChildController) :
    Undisturbed agent db (db.addOpen k e) where
  links c child := by
    rw [Linked, Linked, Database.opens_addOpen _ _ _ _ hsome]
    split
    · next hk =>
        rw [hk, Multiset.mem_cons, or_iff_right]
        intro heq
        exact he (heq ▸ rfl)
    · rfl
  path _ _ _ := rfl
  transport _ := rfl

theorem undisturbed_closeProtocol (status : EfiStatus)
    (h : ¬ db.Linked agent controller controller) :
    Undisturbed agent db (db.closeProtocol status controller .dtIo agent controller).2 := by
  by_cases hcloses : db.Closes status controller .dtIo agent controller
  · rw [(closeProtocol_done hcloses).1]
    refine ⟨fun c child => ?_, fun _ _ _ => rfl, fun _ => rfl⟩
    rw [Linked, Linked, Database.opens_close]
    split
    · next hk =>
        obtain rfl : c = controller := congrArg Prod.fst hk
        rw [Multiset.mem_filter, and_iff_left_iff_imp]
        rintro hlinked ⟨-, rfl⟩
        exact h hlinked
    · rfl
  · obtain ⟨e, hclose⟩ := closeProtocol_refused hcloses
    rw [hclose]
    exact .refl agent db

theorem fbpRegToPhysicalAddress_ok {reg : DtReg} {address : U64}
    (h : fbpRegToPhysicalAddress reg = .ok address) :
    reg.translatedBase.setWidth 64 = address := by
  rw [fbpRegToPhysicalAddress] at h
  split at h
  · exact nomatch h
  · exact Except.ok.inj h

theorem openByDriver_cases (db : Handles) (status : EfiStatus) (agent handle : EfiHandle) :
    (∃ e, db.openByDriver status agent handle = (.error e, db)) ∨
      db.openByDriver status agent handle =
          (.ok (), db.addOpen (handle, .dtIo) ⟨agent, handle, .byDriver⟩) ∧
        (db.interface (handle, .dtIo)).isSome := by
  rw [openByDriver]
  split
  · split
    · exact .inl ⟨_, rfl⟩
    · exact .inl ⟨_, rfl⟩
  · exact openProtocol_cases db status handle .dtIo _

theorem isSome_of_openByDriver {status : EfiStatus}
    (h : (db.openByDriver status agent controller).1 = .ok ()) :
    (db.interface (controller, .dtIo)).isSome := by
  obtain ⟨e, hopen⟩ | ⟨-, hsome⟩ := openByDriver_cases db status agent controller
  · rw [hopen] at h
    exact nomatch h
  · exact hsome

end Undisturbed

section Created

variable {getReg : EfiHandle → EfiResult DtReg} {agent controller : EfiHandle} {db db' : Handles}

theorem ChildAdded.linked_iff {handle : EfiHandle}
    {interfaces : List (ProtocolGuid × ProtocolInterface)}
    (h : ChildAdded db db' handle interfaces (some controller) agent) (c child : EfiHandle) :
    db'.Linked agent c child ↔ (c = controller ∧ child = handle) ∨ db.Linked agent c child := by
  rw [Linked, Linked, h.opens]
  by_cases hc : c = controller
  · rw [hc, if_pos ⟨rfl, rfl⟩, Multiset.mem_cons, OpenEntry.mk.injEq]
    simp
  · rw [if_neg fun heq => hc (Option.some.inj heq.1).symm]
    simp [hc]

theorem ChildrenComplete.created {gVirtioMmioTransportGuid : List U8}
    {controllerPath : DevicePath} {reg : DtReg} (h : db.ChildrenComplete getReg agent)
    (hreg : getReg controller = .ok reg)
    (hadded : db.VirtioChildAdded gVirtioMmioTransportGuid (reg.translatedBase.setWidth 64)
      controller agent controllerPath db') : db'.ChildrenComplete getReg agent := by
  obtain ⟨handle, handlePath, -, hadded⟩ := hadded
  have hlinks := hadded.linked_iff
  have hold {c child : EfiHandle} (hlinked : db.Linked agent c child) : child ≠ handle :=
    hadded.free.unnamed _ _ hlinked
  have hnew : handle ≠ controller := by
    rintro rfl
    have hsome := Database.isSome_of_mem ((hlinks handle handle).mpr (.inl ⟨rfl, rfl⟩))
    rw [hadded.interface, if_pos rfl] at hsome
    exact nomatch hsome
  constructor
  · intro c child hlinked
    obtain ⟨rfl, rfl⟩ | hlinked := (hlinks c child).mp hlinked
    · exact hnew
    · exact h.apart hlinked
  · intro c c' child hlinked hlinked'
    obtain ⟨rfl, rfl⟩ | hlinked := (hlinks c child).mp hlinked
    · obtain ⟨rfl, -⟩ | hlinked' := (hlinks c' child).mp hlinked'
      · rfl
      · exact absurd rfl (hold hlinked')
    · obtain ⟨-, rfl⟩ | hlinked' := (hlinks c' child).mp hlinked'
      · exact absurd rfl (hold hlinked)
      · exact h.single hlinked hlinked'
  · intro c child hlinked
    rw [hadded.interface]
    obtain ⟨-, rfl⟩ | hlinked := (hlinks c child).mp hlinked
    · rw [if_pos rfl]
      exact nofun
    · rw [if_neg (hold hlinked)]
      exact h.path hlinked
  · intro c child hlinked
    rw [hadded.interface]
    obtain ⟨rfl, rfl⟩ | hlinked := (hlinks c child).mp hlinked
    · rw [if_pos rfl]
      exact ⟨reg, hreg, rfl⟩
    · rw [if_neg (hold hlinked)]
      exact h.transport hlinked
  · intro child htransport
    by_cases hhandle : child = handle
    · exact ⟨controller, (hlinks controller child).mpr (.inl ⟨rfl, hhandle⟩)⟩
    · rw [hadded.interface, if_neg hhandle] at htransport
      obtain ⟨c, hlinked⟩ := h.linked htransport
      exact ⟨c, (hlinks c child).mpr (.inr hlinked)⟩

end Created

section Destroyed

variable {getReg : EfiHandle → EfiResult DtReg} {agent controller child : EfiHandle}
  {db db' : Handles}

/-- The child is gone, and all else is as it was for the children of the agent. -/
structure ChildLeft (agent child : EfiHandle) (db db' : Handles) : Prop where
  links (c other : EfiHandle) :
    db'.Linked agent c other ↔ db.Linked agent c other ∧ other ≠ child
  path (c other : EfiHandle) (h : db.Linked agent c other) (hne : other ≠ child) :
    db'.interface (other, .devicePath) = db.interface (other, .devicePath)
  transport (other : EfiHandle) : db'.interface (other, .virtioDevice) =
    if other = child then none else db.interface (other, .virtioDevice)
  gone : db'.interface (child, .devicePath) = none

theorem ChildrenComplete.destroyed (h : db.ChildrenComplete getReg agent)
    (hleft : ChildLeft agent child db db') : db'.ChildrenComplete getReg agent := by
  constructor
  · intro c other hother
    exact h.apart ((hleft.links c other).mp hother).1
  · intro c c' other hother hother'
    exact h.single ((hleft.links c other).mp hother).1 ((hleft.links c' other).mp hother').1
  · intro c other hother
    obtain ⟨hother, hne⟩ := (hleft.links c other).mp hother
    rw [hleft.path c other hother hne]
    exact h.path hother
  · intro c other hother
    obtain ⟨hother, hne⟩ := (hleft.links c other).mp hother
    rw [hleft.transport, if_neg hne]
    exact h.transport hother
  · intro other htransport
    rw [hleft.transport] at htransport
    by_cases hne : other = child
    · rw [if_pos hne] at htransport
      exact absurd rfl htransport
    · rw [if_neg hne] at htransport
      obtain ⟨c, hother⟩ := h.linked htransport
      exact ⟨c, (hleft.links c other).mpr ⟨hother, hne⟩⟩

/-- Neither the transports nor the paths are the protocol that children are linked on. -/
theorem undisturbed_close_transient {protocol : ProtocolGuid} (hprotocol : protocol ≠ .dtIo) :
    Undisturbed agent db (db.close (child, protocol) OpenEntry.IsTransient) where
  links c other := by
    rw [Linked, Linked, Database.opens_close, if_neg fun hk => hprotocol (Prod.mk.inj hk).2.symm]
  path _ _ _ := rfl
  transport _ := rfl

theorem undisturbed_reinstall {i : ProtocolInterface}
    (htransport : db.interface (child, .virtioDevice) = some i) :
    Undisturbed agent db ((db.uninstall (child, .virtioDevice)).install (child, .virtioDevice) i)
    where
  links c other := by simp [Linked]
  path _ _ _ := by simp
  transport other := by
    by_cases hother : other = child
    · rw [hother, htransport, Database.interface_install, if_pos rfl]
    · simp [hother]

theorem undisturbed_relink {i : ProtocolInterface} (hlinked : db.Linked agent controller child)
    (htransport : db.interface (child, .virtioDevice) = some i)
    (hkept : Undisturbed agent ((db.uninstall (child, .virtioDevice)).close (controller, .dtIo)
      (OpenEntry.IsBy agent child)) db')
    (hpath : db'.interface (child, .devicePath) = db.interface (child, .devicePath))
    (hsome : (db'.interface (controller, .dtIo)).isSome) :
    Undisturbed agent db ((db'.addOpen (controller, .dtIo)
      ⟨agent, child, .byChildController⟩).install (child, .virtioDevice) i) where
  links c other := by
    have hlinks : db'.Linked agent c other ↔ db.Linked agent c other ∧
        ¬ (c = controller ∧ other = child) := by
      rw [hkept.links, Linked, Linked, Database.opens_close]
      by_cases hc : c = controller
      · rw [hc, if_pos rfl, Multiset.mem_filter, Database.opens_uninstall, if_neg (by simp)]
        simp [OpenEntry.IsBy]
      · rw [if_neg fun heq => hc (Prod.mk.inj heq).1, Database.opens_uninstall, if_neg (by simp)]
        simp [hc]
    have hadded : Linked ((db'.addOpen (controller, .dtIo)
        ⟨agent, child, .byChildController⟩).install (child, .virtioDevice) i) agent c other ↔
          db'.Linked agent c other ∨ (c = controller ∧ other = child) := by
      rw [Linked, Linked, Database.opens_install, Database.opens_addOpen _ _ _ _ hsome]
      by_cases hc : c = controller
      · rw [hc, if_pos rfl, Multiset.mem_cons, OpenEntry.mk.injEq, or_comm]
        simp
      · simp [hc]
    rw [hadded, hlinks]
    by_cases hself : c = controller ∧ other = child
    · rw [hself.1, hself.2]
      exact iff_of_true (.inr ⟨rfl, rfl⟩) hlinked
    · rw [or_iff_left hself, and_iff_left hself]
  path c other hother := by
    rw [Database.interface_install, if_neg (by simp), Database.interface_addOpen]
    by_cases hself : other = child
    · rw [hself, hpath]
    · rw [hkept.path c other ?_, Database.interface_close, Database.interface_uninstall,
        if_neg (by simp)]
      rw [Linked, Database.opens_close]
      split
      · next hc =>
        rw [(Prod.mk.inj hc).1] at hother
        refine Multiset.mem_filter.mpr ⟨?_, fun hby => hself hby.2⟩
        rwa [Database.opens_uninstall, if_neg (by simp)]
      · rwa [Database.opens_uninstall, if_neg (by simp)]
  transport other := by
    rw [Database.interface_install, Database.interface_addOpen, hkept.transport,
      Database.interface_close, Database.interface_uninstall]
    by_cases hother : other = child
    · rw [hother, htransport, if_pos rfl]
    · simp [hother]

/-- The child without its transport and its link, and at last without its path. -/
theorem childLeft_uninstall (h : db.ChildrenComplete getReg agent)
    (hlinked : db.Linked agent controller child) {stopped : Handles}
    (hstopped : Undisturbed agent ((db.uninstall (child, .virtioDevice)).close
      (controller, .dtIo) (OpenEntry.IsBy agent child)) stopped) :
    ChildLeft agent child db (stopped.uninstall (child, .devicePath)) := by
  have hlinks (c other : EfiHandle) :
      Linked ((db.uninstall (child, .virtioDevice)).close (controller, .dtIo)
        (OpenEntry.IsBy agent child)) agent c other ↔ db.Linked agent c other ∧ other ≠ child := by
    rw [Linked, Linked, Database.opens_close]
    by_cases hc : c = controller
    · rw [hc, if_pos rfl, Multiset.mem_filter, Database.opens_uninstall, if_neg (by simp)]
      exact and_congr_right fun _ => not_congr (and_iff_right rfl)
    · rw [if_neg fun heq => hc (Prod.mk.inj heq).1, Database.opens_uninstall, if_neg (by simp)]
      refine (and_iff_left_of_imp fun hother heq => hc ?_).symm
      exact h.single (heq ▸ hother) hlinked
  constructor
  · intro c other
    rw [← hlinks, ← hstopped.links, Linked, Linked, Database.opens_uninstall, if_neg (by simp)]
  · intro c other hother hne
    rw [Database.interface_uninstall, if_neg fun heq => hne (Prod.mk.inj heq).1,
      hstopped.path c other ((hlinks c other).mpr ⟨hother, hne⟩), Database.interface_close,
      Database.interface_uninstall, if_neg (by simp)]
  · intro other
    rw [Database.interface_uninstall, if_neg (by simp), hstopped.transport,
      Database.interface_close, Database.interface_uninstall]
    simp only [Prod.mk.injEq, and_true]
  · rw [Database.interface_uninstall, if_pos rfl]

/-- Drivers that are stopped for a protocol of a child leave the children of the agent alone. -/
def LeaveChildren (drivers : StopDrivers) (agent : EfiHandle) : Prop :=
  ∀ db child protocol, protocol ≠ .dtIo →
    Undisturbed agent db (drivers db (child, protocol)).val.2

theorem Uninstalled.undisturbed {drivers : StopDrivers} {protocol : ProtocolGuid}
    (hprotocol : protocol ≠ .dtIo) {e : EfiError}
    (h : Uninstalled drivers db (child, protocol) (.error e, db')) :
    Undisturbed agent db db' := by
  cases h with
  | kept => exact .refl agent db
  | closed => exact undisturbed_close_transient hprotocol

theorem Uninstalled.interface_error {drivers : StopDrivers} {k : EfiHandle × ProtocolGuid}
    {e : EfiError} (h : Uninstalled drivers db k (.error e, db')) :
    db'.interface = db.interface := by
  cases h with
  | kept => rfl
  | closed => rfl

/-- A protocol that was uninstalled, after the drivers that had it open were stopped. -/
theorem Uninstalled.stopped {drivers : StopDrivers} (hdrivers : LeaveChildren drivers agent)
    {protocol : ProtocolGuid} (hprotocol : protocol ≠ .dtIo)
    (h : Uninstalled drivers db (child, protocol) (.ok (), db')) :
    ∃ stopped, Undisturbed agent db stopped ∧ Shrinks db stopped ∧
      db' = stopped.uninstall (child, protocol) := by
  cases h with
  | done stopped hstopped =>
      have hundisturbed := hdrivers db child protocol hprotocol
      have hshrinks := (drivers db (child, protocol)).property.shrinks
      rw [hstopped] at hundisturbed hshrinks
      exact ⟨stopped, hundisturbed, hshrinks, rfl⟩

theorem ChildLeft.of_undisturbed {stopped : Handles} (hleft : ChildLeft agent child stopped db')
    (h : Undisturbed agent db stopped) : ChildLeft agent child db db' where
  links c other := by rw [hleft.links, h.links]
  path c other hother hne := by
    rw [hleft.path c other ((h.links c other).mpr hother) hne, h.path c other hother]
  transport other := by rw [hleft.transport, h.transport]
  gone := hleft.gone

/-- What comes of a destruction: the child is left complete, or it is gone. -/
inductive DestroyOutcome (agent child : EfiHandle) (db : Handles) : EfiStatus × Handles → Prop
  | kept (e : EfiError) (db' : Handles) (h : Undisturbed agent db db') :
      DestroyOutcome agent child db (.error e, db')
  | gone (db' : Handles) (h : ChildLeft agent child db db') :
      DestroyOutcome agent child db (.ok (), db')

/-- Handles without a path are still without one. -/
def Pathless (db db' : Handles) : Prop :=
  ∀ other, db.interface (other, .devicePath) = none → db'.interface (other, .devicePath) = none

theorem Pathless.of_shrinks (h : Shrinks db db') : Pathless db db' := fun _ => h.none

theorem Pathless.shrinks {db'' : Handles} (h : Pathless db db') (h' : Shrinks db' db'') :
    Pathless db db'' := fun other hother => h'.none (h other hother)

theorem Pathless.install (h : Pathless db db') (i : ProtocolInterface) :
    Pathless db (db'.install (child, .virtioDevice) i) := by
  intro other hother
  rw [Database.interface_install, if_neg (by simp)]
  exact h other hother

theorem virtioChildDestroy_cases {lib : VirtioMmioDeviceLib} {drivers : StopDrivers}
    (hlib : lib.Documented drivers) (hdrivers : LeaveChildren drivers agent)
    (services : UnregisterServices) (hreopen : services.reopen = .ok ()) {regBase : Uintn}
    (hreinstall : Reinstalls lib child regBase) (h : db.ChildrenComplete getReg agent)
    (hlinked : db.Linked agent controller child)
    (htransport : db.interface (child, .virtioDevice) = some (.virtioDevice regBase)) :
    DestroyOutcome agent child db
        (db.virtioChildDestroy lib drivers services controller agent child regBase) ∧
      Pathless db
        (db.virtioChildDestroy lib drivers services controller agent child regBase).2 := by
  rw [virtioChildDestroy, if_neg (h.path hlinked)]
  have hfirst := hlib.uninstalled child db
  generalize lib.uninstallDevice child db = first at hfirst ⊢
  obtain ⟨status, db₁⟩ := first
  cases status with
  | error e => exact ⟨.kept e db₁ (hfirst.undisturbed (by decide)), .of_shrinks hfirst.shrinks⟩
  | ok u =>
      obtain ⟨stopped, hstopped, hshrinks, rfl⟩ := hfirst.stopped hdrivers (by decide)
      have hlinked' := (hstopped.links controller child).mpr hlinked
      have htransport' := (hstopped.transport child).trans htransport
      have hgone : (stopped.uninstall (child, .virtioDevice)).interface (child, .virtioDevice) =
          none := if_pos rfl
      have hpathless := Pathless.of_shrinks
        (hshrinks.trans (shrinks_uninstall stopped (child, .virtioDevice)))
      dsimp only
      by_cases hcloses : Closes (stopped.uninstall (child, .virtioDevice)) services.close controller
          .dtIo agent child
      · obtain ⟨hclose, hsome⟩ := closeProtocol_done hcloses
        rw [hclose]
        dsimp only
        obtain ⟨closed, hclosed⟩ : ∃ closed : Handles,
          Database.close (stopped.uninstall (child, .virtioDevice)) (controller, .dtIo)
            (OpenEntry.IsBy agent child) = closed := ⟨_, rfl⟩
        rw [hclosed]
        have hgone' : closed.interface (child, .virtioDevice) = none := hclosed ▸ hgone
        have hsome' : (closed.interface (controller, .dtIo)).isSome := hclosed ▸ hsome
        have hpathless' : Pathless db closed := hclosed ▸ hpathless
        have hlast := uninstallMultiple_single drivers closed services.uninstall child .devicePath
        have hlate := hpathless'.shrinks hlast.shrinks
        generalize closed.uninstallMultiple drivers services.uninstall child [.devicePath] = last
          at hlast hlate ⊢
        obtain ⟨status, db₃⟩ := last
        cases status with
        | ok u =>
            obtain ⟨stopped', hstopped', -, rfl⟩ := hlast.stopped hdrivers (by decide)
            have hleft := childLeft_uninstall (h.undisturbed hstopped) hlinked'
              (hclosed.symm ▸ hstopped')
            exact ⟨.gone _ (hleft.of_undisturbed hstopped), hlate⟩
        | error e =>
            have hkept : Undisturbed agent closed db₃ := hlast.undisturbed (by decide)
            have hinterface := hlast.interface_error
            dsimp only
            rw [hreopen, openProtocol_ok _ _ (hinterface ▸ hsome')]
            dsimp only
            rw [hlib.installs (hreinstall _ (by
              rw [Database.interface_addOpen, hinterface]
              exact hgone'))]
            refine ⟨.kept e _ (hstopped.trans (undisturbed_relink hlinked' htransport'
              (hclosed.symm ▸ hkept) ?_ (hinterface ▸ hsome'))), Pathless.install hlate _⟩
            rw [hinterface, ← hclosed, Database.interface_close, Database.interface_uninstall,
              if_neg (by simp)]
      · obtain ⟨e, hclose⟩ := closeProtocol_refused hcloses
        rw [hclose]
        dsimp only
        rw [hlib.installs (hreinstall _ hgone)]
        exact ⟨.kept e _ (hstopped.trans (undisturbed_reinstall htransport')),
          hpathless.install _⟩

end Destroyed

/-- The virtio driver on a platform: its library and its agent handle, and the registers of the
devices. -/
structure VirtioBinding where
  lib : VirtioMmioDeviceLib
  gVirtioMmioTransportGuid : List U8
  getReg : EfiHandle → EfiResult DtReg
  agent : EfiHandle
  drivers : StopDrivers
  documented : lib.Documented drivers
  /-- Drivers that are stopped are others. -/
  leaveChildren : LeaveChildren drivers agent
  /-- A transport can be installed where there is none, when it is to be installed again. -/
  reinstalls (child : EfiHandle) (regBase : Uintn) : Reinstalls lib child regBase

namespace VirtioBinding

variable (b : VirtioBinding)

def start (db : Handles) (controller : EfiHandle)
    (services : VirtioStartServices b.agent controller db) (pathEnds : Bool) :
    EfiStatus × Handles :=
  virtioDriverStart b.lib b.drivers b.gVirtioMmioTransportGuid b.getReg b.agent db controller
    services pathEnds

def stop (db : Handles) (controller : EfiHandle) (services : VirtioStopServices)
    (children : List (EfiHandle × UnregisterServices)) : EfiStatus × Handles :=
  virtioDriverStop b.lib b.drivers b.getReg b.agent db controller services children

/-- The handles that starts and stops reach, with steps of others between them. A stop names
children of the controller; the services that are called only to recover succeed. -/
inductive Run (db₀ : Handles) : Handles → Prop
  | refl : Run db₀ db₀
  | start {db : Handles} (run : Run db₀ db) (controller : EfiHandle)
      (services : VirtioStartServices b.agent controller db) (pathEnds : Bool)
      (hclose : services.child.close = .ok ()) (hundo : services.child.undo = .ok ()) :
      Run db₀ (b.start db controller services pathEnds).2
  | stop {db : Handles} (run : Run db₀ db) (controller : EfiHandle) (services : VirtioStopServices)
      (children : List (EfiHandle × UnregisterServices))
      (hchildren : ∀ child ∈ children, db.Linked b.agent controller child.1)
      (hreopen : ∀ child ∈ children, child.2.reopen = .ok ()) :
      Run db₀ (b.stop db controller services children).2
  | others {db db' : Handles} (run : Run db₀ db) (hsame : Undisturbed b.agent db db') :
      Run db₀ db'

/-- Every child has one controller, a path and its transport, and there are no other
transports. -/
abbrev Complete (db : Handles) : Prop := db.ChildrenComplete b.getReg b.agent

variable {b} {db : Handles} {controller : EfiHandle}

theorem complete_closeProtocol (h : b.Complete db) (status : EfiStatus) :
    b.Complete (db.closeProtocol status controller .dtIo b.agent controller).2 :=
  h.undisturbed (undisturbed_closeProtocol status fun hself => h.apart hself rfl)

/-- The handles once the controller is open by the driver. -/
def openedByDriver (b : VirtioBinding) (db : Handles) (controller : EfiHandle) : Handles :=
  db.addOpen (controller, .dtIo) ⟨b.agent, controller, .byDriver⟩

inductive StartOutcome (b : VirtioBinding) (db : Handles) (controller : EfiHandle)
    (openDriver close : EfiStatus) : EfiStatus × Handles → Prop
  | refused {e : EfiError} (hopen : (db.openByDriver openDriver b.agent controller).1 = .error e) :
      StartOutcome b db controller openDriver close (.error e, db)
  | opened (hopen : (db.openByDriver openDriver b.agent controller).1 = .ok ()) :
      StartOutcome b db controller openDriver close (.ok (), b.openedByDriver db controller)
  | pathless (hopen : (db.openByDriver openDriver b.agent controller).1 = .ok ())
      (hpath : ¬ ∃ path, db.interface (controller, .devicePath) = some (.devicePath path)) :
      StartOutcome b db controller openDriver close
        (.error .notFound, b.openedByDriver db controller)
  | failed (hopen : (db.openByDriver openDriver b.agent controller).1 = .ok ())
      (hpath : ∃ path, db.interface (controller, .devicePath) = some (.devicePath path))
      (e : EfiError) :
      StartOutcome b db controller openDriver close
        (virtioStartFailed b.agent close controller e (b.openedByDriver db controller))
  | created {reg : DtReg} {path : DevicePath} {db' : Handles}
      (hopen : (db.openByDriver openDriver b.agent controller).1 = .ok ())
      (hreg : b.getReg controller = .ok reg)
      (hadded : (b.openedByDriver db controller).VirtioChildAdded b.gVirtioMmioTransportGuid
        (reg.translatedBase.setWidth 64) controller b.agent path db') :
      StartOutcome b db controller openDriver close (.ok (), db')

theorem start_outcome (services : VirtioStartServices b.agent controller db) (pathEnds : Bool)
    (hclose : services.child.close = .ok ()) (hundo : services.child.undo = .ok ()) :
    b.StartOutcome db controller services.openDriver services.close
      (b.start db controller services pathEnds) := by
  rw [start, virtioDriverStart]
  obtain ⟨openDriver, child, close⟩ := services
  have hcases := openByDriver_cases db openDriver b.agent controller
  dsimp only at child hclose hundo ⊢
  generalize hopen : db.openByDriver openDriver b.agent controller = opened
    at child hclose hundo hcases ⊢
  obtain ⟨e, rfl⟩ | ⟨rfl, -⟩ := hcases
  · exact .refused (congrArg Prod.fst hopen)
  · have hopen := congrArg Prod.fst hopen
    dsimp only at child hclose hundo ⊢
    rw [Database.interface_addOpen]
    split
    · exact .opened hopen
    · split
      · next path hpath =>
          cases hreg : b.getReg controller with
          | error e => exact .failed hopen ⟨path, hpath⟩ e
          | ok reg =>
              dsimp only
              cases hbase : fbpRegToPhysicalAddress reg with
              | error e => exact .failed hopen ⟨path, hpath⟩ e
              | ok regBase =>
                  have hatomic := virtioChildCreate_atomic b.lib b.drivers
                    b.gVirtioMmioTransportGuid
                    (db.addOpen (controller, .dtIo) ⟨b.agent, controller, .byDriver⟩) b.documented
                    child hclose hundo regBase controller b.agent path
                  dsimp only
                  split
                  · next e db' hcreate =>
                      rw [hcreate, atomic_error_iff] at hatomic
                      rw [hatomic]
                      exact .failed hopen ⟨path, hpath⟩ e
                  · next db' hcreate =>
                      rw [hcreate, atomic_ok_iff, ← fbpRegToPhysicalAddress_ok hbase] at hatomic
                      exact .created hopen hreg hatomic
      · next hpath => exact .pathless hopen fun ⟨path, hsome⟩ => hpath path hsome

theorem complete_openedByDriver (h : b.Complete db)
    (hsome : (db.interface (controller, .dtIo)).isSome) :
    b.Complete (b.openedByDriver db controller) :=
  h.undisturbed (undisturbed_addOpen _ _ hsome nofun)

theorem complete_start (h : b.Complete db) (services : VirtioStartServices b.agent controller db)
    (pathEnds : Bool) (hclose : services.child.close = .ok ())
    (hundo : services.child.undo = .ok ()) :
    b.Complete (b.start db controller services pathEnds).2 := by
  have houtcome := start_outcome services pathEnds hclose hundo
  generalize b.start db controller services pathEnds = result at houtcome ⊢
  cases houtcome with
  | refused hopen => exact h
  | opened hopen | pathless hopen hpath =>
      exact complete_openedByDriver h (isSome_of_openByDriver hopen)
  | failed hopen hpath e =>
      exact complete_closeProtocol (complete_openedByDriver h (isSome_of_openByDriver hopen)) _
  | created hopen hreg hadded =>
      exact (complete_openedByDriver h (isSome_of_openByDriver hopen)).created hreg hadded

/-- A child that may be asked to stop: one of the controller, or one that has been stopped. -/
def MayStop (b : VirtioBinding) (controller : EfiHandle) (db : Handles) (child : EfiHandle) :
    Prop :=
  db.Linked b.agent controller child ∨ db.interface (child, .devicePath) = none

theorem stopVirtioChild_complete {reg : DtReg} (hreg : b.getReg controller = .ok reg)
    (s : Bool × Handles) (child : EfiHandle × UnregisterServices) (h : b.Complete s.2)
    (hchild : b.MayStop controller s.2 child.1) (hreopen : child.2.reopen = .ok ()) :
    b.Complete (stopVirtioChild b.lib b.drivers b.agent controller reg s child).2 ∧
      ∀ other, b.MayStop controller s.2 other →
        b.MayStop controller (stopVirtioChild b.lib b.drivers b.agent controller reg s child).2
          other := by
  rw [stopVirtioChild]
  obtain hlinked | hnone := hchild
  · obtain ⟨reg', hreg', htransport⟩ := h.transport hlinked
    obtain rfl := Except.ok.inj (hreg.symm.trans hreg')
    obtain ⟨hcases, hpathless⟩ := virtioChildDestroy_cases b.documented b.leaveChildren child.2
      hreopen (b.reinstalls child.1 _) h hlinked htransport
    generalize s.2.virtioChildDestroy b.lib b.drivers child.2 controller b.agent child.1 _ = result
      at hcases hpathless ⊢
    cases hcases with
    | kept e db' hsame =>
      refine ⟨h.undisturbed hsame, fun other hother => ?_⟩
      exact hother.imp (hsame.links controller other).mpr (hpathless other)
    | gone db' hleft =>
      refine ⟨h.destroyed hleft, fun other hother => ?_⟩
      by_cases heq : other = child.1
      · rw [heq]
        exact .inr hleft.gone
      · exact hother.imp (fun hother => (hleft.links _ _).mpr ⟨hother, heq⟩) (hpathless other)
  · have hdestroy : s.2.virtioChildDestroy b.lib b.drivers child.2 controller b.agent child.1
        (reg.translatedBase.setWidth 64) = (.error .notFound, s.2) := by
      rw [virtioChildDestroy]
      exact if_pos hnone
    rw [hdestroy]
    exact ⟨h, fun _ hother => hother⟩

theorem stopVirtioChildren_complete {reg : DtReg} (hreg : b.getReg controller = .ok reg)
    (children : List (EfiHandle × UnregisterServices)) (s : Bool × Handles) (h : b.Complete s.2)
    (hchildren : ∀ child ∈ children, b.MayStop controller s.2 child.1)
    (hreopen : ∀ child ∈ children, child.2.reopen = .ok ()) :
    b.Complete (children.foldl (stopVirtioChild b.lib b.drivers b.agent controller reg) s).2 := by
  induction children generalizing s with
  | nil => exact h
  | cons child children ih =>
      obtain ⟨hcomplete, hmay⟩ := stopVirtioChild_complete hreg s child h
        (hchildren child List.mem_cons_self) (hreopen child List.mem_cons_self)
      exact ih _ hcomplete
        (fun other hother => hmay _ (hchildren other (List.mem_cons_of_mem _ hother)))
        fun other hother => hreopen other (List.mem_cons_of_mem _ hother)

theorem complete_stop (h : b.Complete db) (services : VirtioStopServices)
    (children : List (EfiHandle × UnregisterServices))
    (hchildren : ∀ child ∈ children, db.Linked b.agent controller child.1)
    (hreopen : ∀ child ∈ children, child.2.reopen = .ok ()) :
    b.Complete (b.stop db controller services children).2 := by
  rw [stop, virtioDriverStop]
  obtain ⟨e, hopen⟩ | ⟨hopen, hsome⟩ := openProtocol_cases db services.openController controller
    .dtIo ⟨b.agent, controller, .getProtocol⟩
  · rw [hopen]
    exact h
  · rw [hopen]
    have hsame : Undisturbed b.agent db
        (db.addOpen (controller, .dtIo) ⟨b.agent, controller, .getProtocol⟩) :=
      undisturbed_addOpen _ _ hsome nofun
    have hopened := h.undisturbed hsame
    dsimp only
    split
    · exact complete_closeProtocol hopened services.close
    · cases hreg : b.getReg controller with
      | error e => exact hopened
      | ok reg =>
          refine stopVirtioChildren_complete hreg children (true, _) hopened ?_ hreopen
          intro child hchild
          exact .inl ((hsame.links _ _).mpr (hchildren child hchild))

/-- Whatever fails in a run of starts and stops, every child of the driver is whole and has one
controller, and no transport is left behind. -/
theorem virtioRun_complete {db₀ : Handles} (h : b.Complete db₀) (run : b.Run db₀ db) :
    b.Complete db := by
  induction run with
  | refl => exact h
  | start run controller services pathEnds hclose hundo ih =>
      exact complete_start ih services pathEnds hclose hundo
  | stop run controller services children hchildren hreopen ih =>
      exact complete_stop ih services children hchildren hreopen
  | others run hsame ih => exact ih.undisturbed hsame

theorem yieldingDrivers_leaveChildren (agent : EfiHandle) :
    LeaveChildren yieldingDrivers agent := fun db child protocol hprotocol =>
  { links := fun c other => by
      rw [Linked, Linked, yieldingDrivers, Database.opens_close,
        if_neg fun hk => hprotocol (Prod.mk.inj hk).2.symm]
    path := fun _ _ _ => rfl
    transport := fun _ => rfl }

/-- A controller `1` that nobody has open. -/
def virtioController : Handles :=
  (Database.empty.install (1, .dtIo) (.dtIo 5)).install (1, .devicePath) (.devicePath [])

def plainBinding : VirtioBinding where
  lib := .plain yieldingDrivers
  drivers := yieldingDrivers
  gVirtioMmioTransportGuid := []
  getReg _ := .ok ⟨0x1000, 0x1000, 0x200, none⟩
  agent := 7
  documented := VirtioMmioDeviceLib.plain_documented yieldingDrivers
  leaveChildren := yieldingDrivers_leaveChildren 7
  reinstalls := VirtioMmioDeviceLib.plain_reinstalls yieldingDrivers

theorem free_openByDriver {agent handle : EfiHandle} (h : db.Free handle) (status : EfiStatus)
    (hne : controller ≠ handle) : (db.openByDriver status agent controller).2.Free handle := by
  obtain ⟨e, hopen⟩ | ⟨hopen, hsome⟩ := openByDriver_cases db status agent controller
  · rw [hopen]
    exact h
  · rw [hopen]
    refine ⟨h.bare, fun k e he => ?_⟩
    rw [Database.opens_addOpen _ _ _ _ hsome] at he
    split at he
    · obtain rfl | he := Multiset.mem_cons.mp he
      · exact hne
      · exact h.unnamed _ e he
    · exact h.unnamed k e he

theorem virtioController_free : virtioController.Free 2 :=
  ⟨fun protocol => by cases protocol <;> rfl, fun _ e he => absurd he (Multiset.notMem_zero e)⟩

/-- The child gets the handle `2`. -/
def plainStart : VirtioStartServices plainBinding.agent 1 virtioController where
  openDriver := .ok ()
  child := ⟨true, true, .ok ⟨2, free_openByDriver virtioController_free _ (by decide)⟩, .ok (),
    .ok (), .ok ()⟩
  close := .ok ()

/-- The path of the child cannot be uninstalled. -/
def startedAndKept : Handles :=
  (plainBinding.stop (plainBinding.start virtioController 1 plainStart false).2 1 ⟨.ok (), .ok ()⟩
    [(2, ⟨.ok (), .error .accessDenied, .ok ()⟩)]).2

theorem virtioRun_complete_kept :
    startedAndKept.Linked 7 1 2 ∧ plainBinding.Complete startedAndKept := by
  have hinitial : plainBinding.Complete virtioController :=
    ⟨fun h => absurd h (Multiset.notMem_zero _), fun h => absurd h (Multiset.notMem_zero _),
      fun h => absurd h (Multiset.notMem_zero _), fun h => absurd h (Multiset.notMem_zero _),
      fun h => absurd (by simp [virtioController, Database.empty]) h⟩
  have hstart : plainBinding.Run virtioController
      (plainBinding.start virtioController 1 plainStart false).2 :=
    .start .refl 1 plainStart false rfl rfl
  have hstop : plainBinding.Run virtioController startedAndKept := by
    refine .stop hstart 1 ⟨.ok (), .ok ()⟩ _ (fun child hchild => ?_) fun child hchild => ?_
    · obtain rfl := List.mem_singleton.mp hchild
      decide
    · obtain rfl := List.mem_singleton.mp hchild
      rfl
  exact ⟨by decide, virtioRun_complete hinitial hstop⟩

section Restores

theorem startFailed_restores_iff {agent : EfiHandle} {attributes : OpenAttributes} (e : EfiError)
    (hsome : (db.interface (controller, .dtIo)).isSome) :
    (virtioStartFailed agent (.ok ()) controller e
        (db.addOpen (controller, .dtIo) ⟨agent, controller, attributes⟩)).2 = db ↔
      db.opensBy controller .dtIo agent controller = 0 := by
  rw [virtioStartFailed, (closeProtocol_done (db.closes_addOpen hsome)).1]
  exact Database.close_addOpen_iff hsome ⟨rfl, rfl⟩

theorem not_refused {status : EfiStatus}
    (h : (db.openByDriver status b.agent controller).1 = .ok ()) :
    ¬ ∃ e, (db.openByDriver status b.agent controller).1 = .error e := by
  rintro ⟨e, hrefused⟩
  exact nomatch h.symm.trans hrefused

/-- A failed start leaves no trace if it was refused, or if the controller has a path and the
agent had nothing open for it; without a path the controller stays open. -/
theorem virtioStart_restores_iff (services : VirtioStartServices b.agent controller db)
    (pathEnds : Bool) (hclose : services.child.close = .ok ())
    (hundo : services.child.undo = .ok ()) (hcontroller : services.close = .ok ()) (e : EfiError)
    (hfailed : (b.start db controller services pathEnds).1 = .error e) :
    (b.start db controller services pathEnds).2 = db ↔
      (∃ e, (db.openByDriver services.openDriver b.agent controller).1 = .error e) ∨
        (∃ path, db.interface (controller, .devicePath) = some (.devicePath path)) ∧
          db.opensBy controller .dtIo b.agent controller = 0 := by
  have houtcome := start_outcome services pathEnds hclose hundo
  rw [hcontroller] at houtcome
  generalize b.start db controller services pathEnds = result at hfailed houtcome ⊢
  cases houtcome with
  | refused hopen => exact iff_of_true rfl (.inl ⟨_, hopen⟩)
  | opened hopen | created hopen hreg hadded => exact nomatch hfailed
  | pathless hopen hpath =>
      rw [or_iff_right (not_refused hopen)]
      exact iff_of_false (Database.addOpen_ne _ (isSome_of_openByDriver hopen)) fun h => hpath h.1
  | failed hopen hpath e =>
      rw [or_iff_right (not_refused hopen), and_iff_right hpath]
      exact startFailed_restores_iff e (isSome_of_openByDriver hopen)

def pathlessController : Handles := Database.empty.install (1, .dtIo) (.dtIo 5)

def pathlessStart : VirtioStartServices plainBinding.agent 1 pathlessController where
  openDriver := .ok ()
  child := ⟨true, true, .error .outOfResources, .ok (), .ok (), .ok ()⟩
  close := .ok ()

theorem virtioStart_restores_iff_pathless :
    (plainBinding.start pathlessController 1 pathlessStart false).1 = .error .notFound ∧
      (plainBinding.start pathlessController 1 pathlessStart false).2 ≠ pathlessController := by
  have hfailed :
      (plainBinding.start pathlessController 1 pathlessStart false).1 = .error .notFound := rfl
  have hiff := virtioStart_restores_iff pathlessStart false rfl rfl rfl .notFound hfailed
  refine ⟨hfailed, fun hrestored => ?_⟩
  obtain ⟨e, hrefused⟩ | ⟨⟨path, hpath⟩, -⟩ := hiff.mp hrestored
  · exact nomatch hrefused
  · exact nomatch hpath

end Restores

end VirtioBinding

end Handles

end FdtBusPkg
