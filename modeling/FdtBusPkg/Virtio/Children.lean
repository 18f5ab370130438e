import FdtBusPkg.DtBus.Handles

/-!
The child handle of a virtio transport, and the registration of children as a whole. A
failed creation leaves no trace. A failed destruction installs the transport again, so the
child is back, but not those who had the transport open: uninstalling it has disconnected
them.
-/
namespace FdtBusPkg

open OpenRecords (Database)

/-- `VIRTIO_TRANSPORT_DEVICE_PATH_NODE`. -/
def virtioTransportPathNode (gVirtioMmioTransportGuid : List U8) (physBase : Uintn) : List U8 :=
  vendorPathNode gVirtioMmioTransportGuid (leBytes 8 physBase)

/-- `VirtioMmioDeviceLib`. -/
structure VirtioMmioDeviceLib where
  installDevice (regBase : Uintn) (handle : EfiHandle) (db : Handles) : EfiStatus × Handles
  uninstallDevice (handle : EfiHandle) (db : Handles) : EfiStatus × Handles

namespace VirtioMmioDeviceLib

/-- The transport is installed on the handle, or nothing happens; it is uninstalled as a protocol
is, unless that is refused at once. -/
structure Documented (lib : VirtioMmioDeviceLib) (drivers : Handles.StopDrivers) : Prop where
  install_error (regBase : Uintn) (handle : EfiHandle) (db : Handles) (e : EfiError)
    (h : (lib.installDevice regBase handle db).1 = .error e) :
    (lib.installDevice regBase handle db).2 = db
  install_ok (regBase : Uintn) (handle : EfiHandle) (db : Handles)
    (h : (lib.installDevice regBase handle db).1 = .ok ()) :
    (lib.installDevice regBase handle db).2 =
      db.install (handle, .virtioDevice) (.virtioDevice regBase)
  uninstall (handle : EfiHandle) (db : Handles) :
    (∃ e, lib.uninstallDevice handle db = (.error e, db)) ∨
      lib.uninstallDevice handle db = db.uninstallProtocol drivers (handle, .virtioDevice)

namespace Documented

variable {lib : VirtioMmioDeviceLib} {drivers : Handles.StopDrivers}
  (hlib : lib.Documented drivers) {regBase : Uintn} {handle : EfiHandle} {db : Handles}

include hlib

theorem installs (h : (lib.installDevice regBase handle db).1 = .ok ()) :
    lib.installDevice regBase handle db =
      (.ok (), db.install (handle, .virtioDevice) (.virtioDevice regBase)) :=
  Prod.ext h (hlib.install_ok regBase handle db h)

theorem install_fails {e : EfiError} (h : (lib.installDevice regBase handle db).1 = .error e) :
    lib.installDevice regBase handle db = (.error e, db) :=
  Prod.ext h (hlib.install_error regBase handle db e h)

theorem uninstalled (handle : EfiHandle) (db : Handles) :
    Handles.Uninstalled drivers db (handle, .virtioDevice) (lib.uninstallDevice handle db) := by
  obtain ⟨e, hrefused⟩ | hservice := hlib.uninstall handle db
  · rw [hrefused]
    exact .kept e
  · rw [hservice]
    exact Handles.uninstallProtocol_uninstalled drivers db _

end Documented

def plain (drivers : Handles.StopDrivers) : VirtioMmioDeviceLib where
  installDevice regBase handle db :=
    if db.interface (handle, .virtioDevice) = none then
      (.ok (), db.install (handle, .virtioDevice) (.virtioDevice regBase))
    else (.error .invalidParameter, db)
  uninstallDevice handle db :=
    if db.interface (handle, .virtioDevice) = none then (.error .unsupported, db)
    else db.uninstallProtocol drivers (handle, .virtioDevice)

theorem plain_documented (drivers : Handles.StopDrivers) : (plain drivers).Documented drivers where
  install_error regBase handle db e h := by
    rw [plain] at h ⊢
    dsimp only at h ⊢
    split_ifs at h ⊢
    rfl
  install_ok regBase handle db h := by
    rw [plain] at h ⊢
    dsimp only at h ⊢
    split_ifs at h ⊢
    rfl
  uninstall handle db := by
    rw [plain]
    dsimp only
    split_ifs
    · exact .inl ⟨_, rfl⟩
    · exact .inr rfl

theorem plain_reinstalls (drivers : Handles.StopDrivers) (handle : EfiHandle) (regBase : Uintn)
    (db : Handles) (hnone : db.interface (handle, .virtioDevice) = none) :
    ((plain drivers).installDevice regBase handle db).1 = .ok () := by
  rw [plain]
  dsimp only
  rw [if_pos hnone]

end VirtioMmioDeviceLib

namespace Handles

variable (lib : VirtioMmioDeviceLib) (drivers : StopDrivers) (gVirtioMmioTransportGuid : List U8)

/-- What the services that `ChildCreate` calls answer; `close` and `undo` are called to
recover. -/
structure ChildCreateServices (db : Handles) where
  createNode : Bool
  appendNode : Bool
  install : EfiResult { handle // db.Free handle }
  openChild : EfiStatus
  close : EfiStatus
  undo : EfiStatus

/-- `ChildCreate` of the virtio driver. -/
def virtioChildCreate (db : Handles) (services : ChildCreateServices db) (regBase : Uintn)
    (controller agent : EfiHandle) (controllerPath : DevicePath) : EfiStatus × Handles :=
  if !services.createNode then
    (.error .outOfResources, db)
  else
    let pathNode := virtioTransportPathNode gVirtioMmioTransportGuid regBase
    match if services.appendNode then appendDevicePathNode controllerPath pathNode else none with
    | none => (.error .outOfResources, db)
    | some handlePath =>
      match services.install with
      | .error e => (.error e, db)
      | .ok ⟨handle, _⟩ =>
        let uninstallPath (db : Handles) : Handles :=
          (db.uninstallMultiple drivers services.undo handle [.devicePath]).2
        let db := db.installMultiple handle [(.devicePath, .devicePath handlePath)]
        match db.openProtocol services.openChild controller .dtIo
            ⟨agent, handle, .byChildController⟩ with
        | (.error e, db) => (.error e, uninstallPath db)
        | (.ok _, db) =>
          match lib.installDevice regBase handle db with
          | (.error e, db) =>
            (.error e, uninstallPath (db.closeProtocol services.close controller .dtIo agent
              handle).2)
          | (.ok _, db) => (.ok (), db)

/-- `ChildDestroy` of the virtio driver; `reopen` and the installation of the transport are
called to recover. `DevicePathFromHandle` is a lookup. -/
def virtioChildDestroy (db : Handles) (services : UnregisterServices) (controller agent : EfiHandle)
    (childHandle : EfiHandle) (regBase : Uintn) : EfiStatus × Handles :=
  let recoverVirtio (status : EfiError) (db : Handles) : EfiStatus × Handles :=
    match lib.installDevice regBase childHandle db with
    | (.error e2, db) => (.error e2, db)
    | (.ok _, db) => (.error status, db)
  if db.interface (childHandle, .devicePath) = none then
    (.error .notFound, db)
  else
    match lib.uninstallDevice childHandle db with
    | (.error e, db) => (.error e, db)
    | (.ok _, db) =>
      match db.closeProtocol services.close controller .dtIo agent childHandle with
      | (.error e, db) => recoverVirtio e db
      | (.ok _, db) =>
        match db.uninstallMultiple drivers services.uninstall childHandle [.devicePath] with
        | (.ok _, db) => (.ok (), db)
        | (.error e, db) =>
          match db.openProtocol services.reopen controller .dtIo
              ⟨agent, childHandle, .byChildController⟩ with
          | (.error e2, db) => (.error e2, db)
          | (.ok _, db) => recoverVirtio e db

section Create

variable (db : Handles)

theorem ChildAdded.install {db' : Handles} {handle agent : EfiHandle}
    {controller : Option EfiHandle} {interfaces : List (ProtocolGuid × ProtocolInterface)}
    (h : ChildAdded db db' handle interfaces controller agent) (protocol : ProtocolGuid)
    (i : ProtocolInterface) (hnew : protocol ∉ interfaces.map Prod.fst) :
    ChildAdded db (db'.install (handle, protocol) i) handle (interfaces ++ [(protocol, i)])
      controller agent where
  free := h.free
  opens := h.opens
  interface k := by
    obtain ⟨handle', protocol'⟩ := k
    rw [Database.interface_install, h.interface, List.lookup_append]
    by_cases hhandle : handle' = handle
    · by_cases hprotocol : protocol' = protocol
      · rw [hhandle, hprotocol, if_pos rfl, if_pos rfl, lookup_eq_none hnew]
        simp
      · simp [hhandle, hprotocol, List.lookup_cons, beq_eq_false_iff_ne.mpr hprotocol]
    · simp [hhandle]

/-- A child of the virtio driver has its path and its transport. -/
def VirtioChildAdded (regBase : Uintn) (controller agent : EfiHandle)
    (controllerPath : DevicePath) (db' : Handles) : Prop :=
  ∃ handle handlePath,
    appendDevicePathNode controllerPath (virtioTransportPathNode gVirtioMmioTransportGuid regBase) =
      some handlePath ∧
    ChildAdded db db' handle
      [(.devicePath, .devicePath handlePath), (.virtioDevice, .virtioDevice regBase)]
      (some controller) agent

theorem opensBy_of_free {handle : EfiHandle} (hfree : db.Free handle) (controller agent : EfiHandle)
    (protocol : ProtocolGuid) : db.opensBy controller protocol agent handle = 0 := by
  rw [opensBy, Multiset.filter_eq_nil]
  intro e he hby
  exact hfree.unnamed _ e he hby.2

/-- The path of a child has been installed on a new handle, and can be taken away again. -/
structure PathInstalled (drivers : StopDrivers) (db db' : Handles) (handle : EfiHandle)
    (handlePath : DevicePath) (controller agent : EfiHandle) : Prop where
  added : ChildAdded db db' handle [(.devicePath, .devicePath handlePath)] none agent
  undone : (db'.uninstallMultiple drivers (.ok ()) handle [.devicePath]).2 = db
  unopened : db'.opensBy controller .dtIo agent handle = 0

theorem pathInstalled {handle : EfiHandle} (hfree : db.Free handle) (handlePath : DevicePath)
    (controller agent : EfiHandle) :
    PathInstalled drivers db (db.installMultiple handle [(.devicePath, .devicePath handlePath)])
      handle handlePath controller agent where
  added := db.childAdded_install handle hfree [(.devicePath, .devicePath handlePath)]
    (List.nodup_singleton _) agent
  undone := congrArg Prod.snd (db.uninstallMultiple_installMultiple drivers hfree
    [(.devicePath, .devicePath handlePath)] (List.nodup_singleton _))
  unopened := by
    rw [opensBy, opens_installMultiple]
    exact db.opensBy_of_free hfree controller agent .dtIo

theorem closes_addOpen {controller agent handle : EfiHandle} {attributes : OpenAttributes}
    (hsome : (db.interface (controller, .dtIo)).isSome) :
    Closes (db.addOpen (controller, .dtIo) ⟨agent, handle, attributes⟩) (.ok ()) controller .dtIo
      agent handle := by
  refine ⟨fun hzero => ?_, rfl⟩
  rw [opensBy, Database.opens_addOpen _ _ _ _ hsome, if_pos rfl,
    Multiset.filter_cons_of_pos _ ⟨rfl, rfl⟩] at hzero
  exact Multiset.cons_ne_zero hzero

theorem closeProtocol_addOpen {controller agent handle : EfiHandle}
    (hsome : (db.interface (controller, .dtIo)).isSome)
    (hnone : db.opensBy controller .dtIo agent handle = 0) :
    Handles.closeProtocol (db.addOpen (controller, .dtIo) ⟨agent, handle, .byChildController⟩)
      (.ok ()) controller .dtIo agent handle = (.ok (), db) := by
  rw [(closeProtocol_done (db.closes_addOpen hsome)).1,
    Database.close_addOpen hsome ⟨rfl, rfl⟩ hnone]

theorem virtioChildCreate_atomic (hlib : lib.Documented drivers) (services : ChildCreateServices db)
    (hclose : services.close = .ok ()) (hundo : services.undo = .ok ()) (regBase : Uintn)
    (controller agent : EfiHandle) (controllerPath : DevicePath) :
    Atomic db
      (db.VirtioChildAdded gVirtioMmioTransportGuid regBase controller agent controllerPath)
      (db.virtioChildCreate lib drivers gVirtioMmioTransportGuid services regBase controller agent
        controllerPath) := by
  rw [virtioChildCreate, hclose, hundo]
  split
  · exact atomic_error_iff.mpr rfl
  · dsimp only
    split
    · exact atomic_error_iff.mpr rfl
    · next handlePath hpath =>
        have hpath : appendDevicePathNode controllerPath
            (virtioTransportPathNode gVirtioMmioTransportGuid regBase) = some handlePath := by
          split at hpath
          · exact hpath
          · exact nomatch hpath
        cases services.install with
        | error e => exact atomic_error_iff.mpr rfl
        | ok new =>
            obtain ⟨handle, hfree⟩ := new
            have hinstalled := pathInstalled drivers db hfree handlePath controller agent
            dsimp only
            generalize db.installMultiple handle [(.devicePath, .devicePath handlePath)] = db₁
              at hinstalled ⊢
            obtain ⟨e, hopen⟩ | ⟨hopen, hsome⟩ := openProtocol_cases db₁
              services.openChild controller .dtIo ⟨agent, handle, .byChildController⟩
            · rw [hopen]
              exact atomic_error_iff.mpr hinstalled.undone
            · rw [hopen]
              dsimp only
              cases hinstall : (lib.installDevice regBase handle
                (db₁.addOpen (controller, .dtIo) ⟨agent, handle, .byChildController⟩)).1 with
              | error e =>
                  rw [hlib.install_fails hinstall]
                  refine atomic_error_iff.mpr ?_
                  rw [db₁.closeProtocol_addOpen hsome hinstalled.unopened]
                  exact hinstalled.undone
              | ok u =>
                  rw [hlib.installs hinstall]
                  exact atomic_ok_iff.mpr ⟨handle, handlePath, hpath,
                    (hinstalled.added.link controller hsome).install _ .virtioDevice _
                      (by decide : ProtocolGuid.virtioDevice ∉ [ProtocolGuid.devicePath])⟩

end Create

section Destroy

variable (db : Handles) (services : UnregisterServices) (controller agent childHandle : EfiHandle)
  (regBase : Uintn)

/-- What installing the transport again brings back: the transport that was there, if nobody
had it open. -/
def TransportUnused : Prop :=
  db.interface (childHandle, .virtioDevice) = some (.virtioDevice regBase) ∧
    db.opens (childHandle, .virtioDevice) = 0

def Reinstalls : Prop :=
  ∀ db : Handles, db.interface (childHandle, .virtioDevice) = none →
    (lib.installDevice regBase childHandle db).1 = .ok ()

/-- A failed uninstall of the transport closes nothing, or does not come to it. -/
def TransportSpared : Prop :=
  lib.uninstallDevice childHandle db =
      db.uninstallProtocol drivers (childHandle, .virtioDevice) →
    db.ClosesNone drivers (childHandle, .virtioDevice)

def transportGone : Handles := (lib.uninstallDevice childHandle db).2

/-- A failure after the transport has been uninstalled: of the close, or of the uninstall of
the device path after the close. -/
inductive FailsLate : Prop
  | close (h : ¬ db.Closes services.close controller .dtIo agent childHandle)
  | uninstall (hcloses : db.Closes services.close controller .dtIo agent childHandle)
      (hrefused : Refused drivers (db.close (controller, .dtIo) (OpenEntry.IsBy agent childHandle))
        services.uninstall childHandle [.devicePath])

/-- A close that comes before takes the open by child controller alone, and the uninstall of the
device path closes nothing. -/
def LateSpared : Prop :=
  db.Closes services.close controller .dtIo agent childHandle →
    db.OnlyChildOpen controller agent childHandle ∧
      Spares drivers (db.close (controller, .dtIo) (OpenEntry.IsBy agent childHandle))
        services.uninstall childHandle [.devicePath]

/-- The uninstall of the transport fails and closes opens; or the destruction fails later, and the
transport was in use or other opens were closed. -/
inductive DestroyLoses : Prop
  | transport (hpath : db.interface (childHandle, .devicePath) ≠ none)
      (hrefused : (lib.uninstallDevice childHandle db).1 ≠ .ok ())
      (hlost : ¬ TransportSpared lib drivers db childHandle)
  | late (hpath : db.interface (childHandle, .devicePath) ≠ none)
      (huninstalled : (lib.uninstallDevice childHandle db).1 = .ok ())
      (hlate : FailsLate drivers (transportGone lib db childHandle) services controller agent
        childHandle)
      (hlost : ¬ (db.TransportUnused childHandle regBase ∧
        LateSpared drivers (transportGone lib db childHandle) services controller agent
          childHandle))

theorem ChildTaken.uninstall {db db' : Handles} {handle agent : EfiHandle}
    {controller : Option EfiHandle} {protocols : List ProtocolGuid} {protocol : ProtocolGuid}
    (h : ChildTaken (db.uninstall (handle, protocol)) db' handle protocols controller agent) :
    ChildTaken db db' handle (protocol :: protocols) controller agent where
  interface k := by
    obtain ⟨handle', protocol'⟩ := k
    rw [h.interface, Database.interface_uninstall]
    by_cases hhandle : handle' = handle <;> by_cases hprotocol : protocol' = protocol <;>
      simp [hhandle, hprotocol]
  opens k := by
    obtain ⟨handle', protocol'⟩ := k
    rw [h.opens, Database.opens_uninstall]
    by_cases hhandle : handle' = handle <;> by_cases hprotocol : protocol' = protocol <;>
      simp [hhandle, hprotocol]

theorem ChildGone.uninstalled {drivers : StopDrivers} {db db₁ db' : Handles}
    {handle agent : EfiHandle} {controller : Option EfiHandle} {protocols : List ProtocolGuid}
    {protocol : ProtocolGuid}
    (hfirst : Uninstalled drivers db (handle, protocol) (.ok (), db₁))
    (h : ChildGone db₁ db' handle protocols controller agent) :
    ChildGone db db' handle (protocol :: protocols) controller agent where
  interface := List.forall_mem_cons.mpr ⟨h.shrinks.none (hfirst.gone rfl), h.interface⟩
  link := h.link
  shrinks := hfirst.shrinks.trans h.shrinks
  undriven hundriven := by
    rw [List.forall_mem_cons] at hundriven
    have htaken := h.undriven fun other hother =>
      hfirst.shrinks.undriven (hundriven.2 other hother)
    rw [(Prod.mk.inj (hfirst.eq_uninstall rfl hundriven.1)).2] at htaken
    exact htaken.uninstall

theorem Uninstalled.install_iff {drivers : StopDrivers} {db db₁ : Handles}
    {k : EfiHandle × ProtocolGuid}
    (h : Uninstalled drivers db k (.ok (), db₁)) (i : ProtocolInterface) :
    db₁.install k i = db ↔ db.interface k = some i ∧ db.opens k = 0 := by
  have hsame (hopens : db.opens k = 0) : db₁ = db.uninstall k := by
    have hundriven : db.Undriven k := fun e he => by simp [hopens] at he
    exact (Prod.mk.inj (h.eq_uninstall rfl hundriven)).2
  constructor
  · intro hrestored
    have hopens : db.opens k = 0 := by
      rw [← hrestored, Database.opens_install]
      exact db₁.closed k (h.gone rfl)
    rw [hsame hopens] at hrestored
    exact (Database.install_uninstall_iff db k i).mp hrestored
  · intro hunused
    rw [hsame hunused.2]
    exact (Database.install_uninstall_iff db k i).mpr hunused

theorem Uninstalled.reopened_install_iff {drivers : StopDrivers} {db db₁ db' : Handles}
    {controller agent childHandle : EfiHandle} {k : EfiHandle × ProtocolGuid}
    (h : Uninstalled drivers db k (.ok (), db₁)) (i : ProtocolInterface)
    (hsome : (db₁.interface (controller, .dtIo)).isSome)
    (hshrinks : Shrinks (db₁.close (controller, .dtIo) (OpenEntry.IsBy agent childHandle)) db') :
    ((db'.openProtocol (.ok ()) controller .dtIo
        ⟨agent, childHandle, .byChildController⟩).2).install k i = db ↔
      (db.interface k = some i ∧ db.opens k = 0) ∧
        db₁.OnlyChildOpen controller agent childHandle ∧
          db' = db₁.close (controller, .dtIo) (OpenEntry.IsBy agent childHandle) := by
  have hreopened := db₁.reopened_eq_iff childHandle agent controller hsome hshrinks
  have hcases := openProtocol_cases db' (.ok ()) controller .dtIo
    ⟨agent, childHandle, .byChildController⟩
  generalize db'.openProtocol (.ok ()) controller .dtIo ⟨agent, childHandle, .byChildController⟩ =
    reopened at hreopened hcases ⊢
  rw [← hreopened, ← h.install_iff i]
  have hinterface : reopened.2.interface k = db'.interface k := by
    obtain ⟨e, rfl⟩ | ⟨rfl, -⟩ := hcases <;> rfl
  constructor
  · intro hrestored
    have hnone : reopened.2.interface k = none := by
      rw [hinterface]
      exact hshrinks.none (h.gone rfl)
    have hsame := Database.eq_uninstall_of_install hrestored hnone
    have hopens : db.opens k = 0 := by
      rw [← hrestored, Database.opens_install]
      exact reopened.2.closed k hnone
    have hundriven : db.Undriven k := fun e he => by simp [hopens] at he
    have hfirst := (Prod.mk.inj (h.eq_uninstall rfl hundriven)).2
    rw [← hfirst] at hsame
    rw [hsame] at hrestored
    exact ⟨hrestored, hsame⟩
  · rintro ⟨hrestored, hsame⟩
    rw [hsame]
    exact hrestored

theorem openProtocol_isSome {db₁ db' : Handles} {e : EfiError} {entry : OpenEntry}
    (hopen : db'.openProtocol (.ok ()) controller .dtIo entry = (.error e, db'))
    (hsome : (db₁.interface (controller, .dtIo)).isSome) :
    db'.interface (controller, .dtIo) ≠ db₁.interface (controller, .dtIo) := by
  intro hsame
  rw [openProtocol_ok db' entry (hsame ▸ hsome)] at hopen
  exact nomatch hopen

theorem uninstallDevice_restores_iff (hlib : lib.Documented drivers)
    (h : (lib.uninstallDevice childHandle db).1 ≠ .ok ()) :
    (lib.uninstallDevice childHandle db).2 = db ↔ TransportSpared lib drivers db childHandle := by
  rw [TransportSpared]
  have hservice (hsame : lib.uninstallDevice childHandle db =
      db.uninstallProtocol drivers (childHandle, .virtioDevice)) :
      (lib.uninstallDevice childHandle db).2 = db ↔
        db.ClosesNone drivers (childHandle, .virtioDevice) := by
    rw [hsame] at h ⊢
    exact uninstallProtocol_restores_iff h
  obtain ⟨e, hrefused⟩ | hsame := hlib.uninstall childHandle db
  · refine iff_of_true (by rw [hrefused]) fun hsame => ?_
    rw [← hservice hsame, hrefused]
  · rw [hservice hsame]
    exact ⟨fun hnone _ => hnone, fun hnone => hnone hsame⟩

theorem destroy_recovers_iff (hlib : lib.Documented drivers)
    (hreinstall : Reinstalls lib childHandle regBase) {db₁ db' : Handles}
    (hfirst : Uninstalled drivers db (childHandle, .virtioDevice) (.ok (), db₁))
    (hsome : (db₁.interface (controller, .dtIo)).isSome)
    (hshrinks : Shrinks (db₁.close (controller, .dtIo) (OpenEntry.IsBy agent childHandle)) db')
    (e : EfiError) (completed : Handles → Prop) :
    Atomic db completed
        (match db'.openProtocol (.ok ()) controller .dtIo
            ⟨agent, childHandle, .byChildController⟩ with
        | (.error e2, db) => (.error e2, db)
        | (.ok _, db) =>
          match lib.installDevice regBase childHandle db with
          | (.error e2, db) => (.error e2, db)
          | (.ok _, db) => (.error e, db)) ↔
      db.TransportUnused childHandle regBase ∧ db₁.OnlyChildOpen controller agent childHandle ∧
        db' = db₁.close (controller, .dtIo) (OpenEntry.IsBy agent childHandle) := by
  have hrestores := hfirst.reopened_install_iff (.virtioDevice regBase) hsome hshrinks
  rw [TransportUnused, ← hrestores]
  obtain ⟨e2, hopen⟩ | ⟨hopen, -⟩ := openProtocol_cases db' (.ok ()) controller .dtIo
    ⟨agent, childHandle, .byChildController⟩
  · have hlost := openProtocol_isSome controller hopen hsome
    rw [hrestores, hopen]
    dsimp only
    rw [atomic_error_iff]
    refine iff_of_false (fun hsame => hlost ?_) fun hkept => hlost (by rw [hkept.2.2]; rfl)
    obtain hkept | hgone := hfirst.shrinks.interface (controller, .dtIo)
    · rw [hsame]
      exact hkept.symm
    · dsimp only at hgone
      rw [hgone] at hsome
      exact nomatch hsome
  · have hnone : (db'.addOpen (controller, .dtIo)
        ⟨agent, childHandle, .byChildController⟩).interface (childHandle, .virtioDevice) = none :=
      hshrinks.none (hfirst.gone rfl)
    rw [hopen]
    dsimp only
    rw [hlib.installs (hreinstall _ hnone)]
    exact atomic_error_iff

variable {lib drivers db childHandle} in
theorem destroyLoses_failed_iff (hpath : db.interface (childHandle, .devicePath) ≠ none)
    (hfailed : (lib.uninstallDevice childHandle db).1 ≠ .ok ()) :
    db.DestroyLoses lib drivers services controller agent childHandle regBase ↔
      ¬ TransportSpared lib drivers db childHandle := by
  refine ⟨fun hloses => ?_, .transport hpath hfailed⟩
  cases hloses with
  | transport _ _ hlost => exact hlost
  | late _ hdone _ _ => exact absurd hdone hfailed

variable {lib db childHandle} in
theorem destroyLoses_done_iff (hpath : db.interface (childHandle, .devicePath) ≠ none)
    (hdone : (lib.uninstallDevice childHandle db).1 = .ok ()) :
    db.DestroyLoses lib drivers services controller agent childHandle regBase ↔
      FailsLate drivers (transportGone lib db childHandle) services controller agent
          childHandle ∧
        ¬ (db.TransportUnused childHandle regBase ∧ LateSpared drivers
          (transportGone lib db childHandle) services controller agent childHandle) := by
  refine ⟨fun hloses => ?_, fun h => .late hpath hdone h.1 h.2⟩
  cases hloses with
  | transport _ hfailed _ => exact absurd hdone hfailed
  | late _ _ hlate hlost => exact ⟨hlate, hlost⟩

theorem virtioChildDestroy_atomic_iff (hlib : lib.Documented drivers)
    (hreopen : services.reopen = .ok ()) (hreinstall : Reinstalls lib childHandle regBase) :
    Atomic db (fun db' => ChildGone db db' childHandle [.virtioDevice, .devicePath]
        (some controller) agent)
        (db.virtioChildDestroy lib drivers services controller agent childHandle regBase) ↔
      ¬ db.DestroyLoses lib drivers services controller agent childHandle regBase := by
  rw [virtioChildDestroy]
  dsimp only
  by_cases hpath : db.interface (childHandle, .devicePath) = none
  · rw [if_pos hpath]
    refine iff_of_true (atomic_error_iff.mpr rfl) fun hloses => ?_
    cases hloses with
    | transport hsome _ _ => exact hsome hpath
    | late hsome _ _ _ => exact hsome hpath
  rw [if_neg hpath]
  have hfirst := hlib.uninstalled childHandle db
  have hspared := uninstallDevice_restores_iff lib drivers db childHandle hlib
  cases huninstall : (lib.uninstallDevice childHandle db).1 with
  | error e =>
      have hfailed : (lib.uninstallDevice childHandle db).1 ≠ .ok () := by
        rw [huninstall]
        exact nofun
      rw [destroyLoses_failed_iff services controller agent regBase hpath hfailed, not_not,
        ← hspared hfailed, ← Prod.eta (lib.uninstallDevice childHandle db), huninstall]
      exact atomic_error_iff
  | ok u =>
      have hgone : lib.uninstallDevice childHandle db =
          (.ok (), transportGone lib db childHandle) := Prod.ext huninstall rfl
      rw [destroyLoses_done_iff drivers services controller agent regBase hpath huninstall, hgone]
      rw [hgone] at hfirst
      generalize transportGone lib db childHandle = db₁ at hfirst ⊢
      dsimp only
      by_cases hcloses : db₁.Closes services.close controller .dtIo agent childHandle
      · obtain ⟨hclose, hsome⟩ := closeProtocol_done hcloses
        rw [hclose]
        dsimp only
        by_cases hrefused : Refused drivers (db₁.close (controller, .dtIo)
          (OpenEntry.IsBy agent childHandle)) services.uninstall childHandle [.devicePath]
        · obtain ⟨e, hfails⟩ := uninstallMultiple_refused hrefused
          have hrecovers := destroy_recovers_iff lib drivers db controller agent childHandle regBase
            hlib hreinstall hfirst hsome (uninstallMultiple_shrinks drivers _ services.uninstall
              childHandle [.devicePath]).1 e
              (fun db' => ChildGone db db' childHandle [.virtioDevice, .devicePath]
                (some controller) agent)
          rw [uninstallMultiple_restores_iff hrefused] at hrecovers
          rw [hfails, hreopen]
          refine hrecovers.trans ?_
          rw [and_iff_right (FailsLate.uninstall hcloses hrefused), not_not, LateSpared]
          exact and_congr_right fun _ => ⟨fun h _ => h, fun h => h hcloses⟩
        · rw [uninstallMultiple_done hrefused]
          refine iff_of_true (atomic_ok_iff.mpr ?_) fun hloses => ?_
          · exact (childGone_close_uninstall db₁ drivers services.uninstall childHandle
              [.devicePath] agent controller hrefused).uninstalled hfirst
          · cases hloses.1 with
            | close h => exact h hcloses
            | uninstall _ h => exact hrefused h
      · obtain ⟨e, hclose⟩ := closeProtocol_refused hcloses
        rw [hclose]
        dsimp only
        rw [hlib.installs (hreinstall db₁ (hfirst.gone rfl)), atomic_error_iff,
          hfirst.install_iff (.virtioDevice regBase), and_iff_right (FailsLate.close hcloses),
          not_not, TransportUnused]
        exact ⟨fun hunused => ⟨hunused, fun h => absurd h hcloses⟩, fun h => h.1⟩

end Destroy

/-- The four operations on a child, where the services that are called only to recover
succeed: which of them are atomic, and when. -/
structure AtomicWhere (db : Handles) (controller agent : EfiHandle) : Prop where
  register (dtDevice : DtDeviceRecord) (parent : Option EfiHandle) (services : RegisterServices db)
    (hundo : services.undo = .ok ()) :
    Atomic db
      (fun db' => ∃ handle, ChildAdded db db' handle (deviceInterfaces dtDevice) parent agent)
      (db.dtDeviceRegister drivers services dtDevice parent agent)
  unregister (handle : EfiHandle) (parent : Option EfiHandle) (services : UnregisterServices)
    (hreopen : services.reopen = .ok ()) :
    Atomic db (fun db' => ChildGone db db' handle deviceProtocols parent agent)
        (db.dtDeviceUnregister drivers services handle parent agent) ↔
      ¬ db.UnregisterLoses drivers handle agent services parent
  childCreate (regBase : Uintn) (controllerPath : DevicePath) (services : ChildCreateServices db)
    (hclose : services.close = .ok ()) (hundo : services.undo = .ok ()) :
    Atomic db
      (db.VirtioChildAdded gVirtioMmioTransportGuid regBase controller agent controllerPath)
      (db.virtioChildCreate lib drivers gVirtioMmioTransportGuid services regBase controller agent
        controllerPath)
  childDestroy (childHandle : EfiHandle) (regBase : Uintn) (services : UnregisterServices)
    (hreopen : services.reopen = .ok ()) (hreinstall : Reinstalls lib childHandle regBase) :
    Atomic db (fun db' => ChildGone db db' childHandle [.virtioDevice, .devicePath]
        (some controller) agent)
        (db.virtioChildDestroy lib drivers services controller agent childHandle regBase) ↔
      ¬ db.DestroyLoses lib drivers services controller agent childHandle regBase

/-- A child `2` of the controller `1`, whose transport the driver `8` has open. -/
def usedChild : Handles :=
  ((((Database.empty.install (1, .dtIo) (.dtIo 5)).install (2, .devicePath)
    (.devicePath [])).install (2, .virtioDevice) (.virtioDevice 0x1000)).addOpen (1, .dtIo)
      ⟨7, 2, .byChildController⟩).addOpen (2, .virtioDevice) ⟨8, 2, .byDriver⟩

/-- The destruction of the child, with the result of the uninstall of its path. -/
def usedChildDestroyed (uninstall : EfiStatus) : EfiStatus × Handles :=
  usedChild.virtioChildDestroy (.plain yieldingDrivers) yieldingDrivers ⟨.ok (), uninstall, .ok ()⟩
    1 7 2 0x1000

end Handles

end FdtBusPkg
