import Mathlib.Logic.Function.Basic
import FdtBusPkg.Library.LongestPrefix
import FdtBusPkg.Library.Loop
import FdtBusPkg.DtBus.Create
import FdtBusPkg.DtBus.DevicePath
import FdtBusPkg.DtBus.DmaRuns

/-!
Registered devices: the handles that carry a device path and the devicetree I/O
protocol, who has the protocol open, and the creation, registration, scanning and
removal of devices. The handle services follow their documented behaviour: an open
is recorded with its agent, controller and attributes, and `CloseProtocol` closes
by agent and controller.
-/
namespace FdtBusPkg

/-- The devicetree as libfdt presents it to the bus driver. -/
structure DtTree extends Fdt where
  rootNode : Int
  subnodes : Int → List Int
  /-- The negative value that ends the loop over the subnodes. -/
  subnodesEnd : Int → Int
  /-- `fdt_get_name`; `none` is a negative length. -/
  getName : Int → Option AsciiStr
  nodeCheckCompatible : Int → String → Int
  getAlias : AsciiStr → Option AsciiStr

def FDT_ERR_NOTFOUND : Int := 1

/-- The devicetree and the build settings of the bus driver. -/
structure DtBusDriver where
  tree : DtTree
  isCoherent : Bool
  uninit : DtProperty

/-- `DT_DEVICE` with its name and its path. -/
structure DtDeviceRecord where
  created : CreatedDevice
  name : AsciiStr
  devicePath : DevicePath
  deriving DecidableEq

namespace DtDeviceRecord

def device (r : DtDeviceRecord) : DtDevice := r.created.device
def dtIo (r : DtDeviceRecord) : DtIoRef := r.device.info.dtIo
def handle (r : DtDeviceRecord) : EfiHandle := r.device.info.handle
def fdtNode (r : DtDeviceRecord) : Int := r.device.info.fdtNode
def isCritical (r : DtDeviceRecord) : Bool := r.created.isCritical

def withHandle (r : DtDeviceRecord) (handle : EfiHandle) : DtDeviceRecord :=
  { r with created := { r.created with device := r.device.setInfo fun i => { i with handle } } }

end DtDeviceRecord

inductive OpenAttributes
  | byHandleProtocol
  | getProtocol
  | testProtocol
  | byChildController
  | byDriver
  deriving DecidableEq, Repr

/-- `EFI_OPEN_PROTOCOL_INFORMATION_ENTRY`. -/
structure OpenEntry where
  agent : EfiHandle
  controller : EfiHandle
  attributes : OpenAttributes
  deriving DecidableEq, Repr

/-- An open that does not keep the protocol from being uninstalled. -/
def OpenEntry.IsTransient (e : OpenEntry) : Prop :=
  e.attributes = .byHandleProtocol ∨ e.attributes = .getProtocol ∨ e.attributes = .testProtocol

instance : DecidablePred OpenEntry.IsTransient :=
  fun e => inferInstanceAs (Decidable (e.attributes = _ ∨ _ ∨ _))

/-- The handles with the devicetree I/O protocol, its opens on each of them, and
`gCriticalDevices`. -/
@[ext]
structure Registry where
  devices : List DtDeviceRecord
  opens : EfiHandle → List OpenEntry
  criticalDevices : List DtIoRef

/-- `DisconnectController` for the drivers that have the protocol of a handle open, and
`ConnectController` for those that were disconnected. -/
structure DriverServices where
  disconnect : Registry → EfiHandle → EfiStatus × Registry
  connect : Registry → EfiHandle → Registry

namespace Registry

def handles (σ : Registry) : List EfiHandle := σ.devices.map (·.handle)

def find (σ : Registry) (handle : EfiHandle) : Option DtDeviceRecord :=
  σ.devices.find? (fun d => d.handle = handle)

def addOpen (σ : Registry) (handle : EfiHandle) (entry : OpenEntry) : Registry :=
  { σ with opens := Function.update σ.opens handle (σ.opens handle ++ [entry]) }

/-- `OpenProtocol` of the devicetree I/O protocol, when it has what `available` says. -/
def openProtocol (σ : Registry) (available : EfiStatus) (handle : EfiHandle)
    (entry : OpenEntry) : EfiStatus × Registry :=
  if handle ∉ σ.handles then
    (.error .unsupported, σ)
  else
    match available with
    | .error e => (.error e, σ)
    | .ok _ => (.ok (), σ.addOpen handle entry)

/-- The agent has the protocol on a handle open for the controller. -/
def isOpenBy (σ : Registry) (handle agent controller : EfiHandle) : Bool :=
  (σ.opens handle).any fun e => e.agent = agent && e.controller = controller

def close (σ : Registry) (handle agent controller : EfiHandle) : Registry :=
  { σ with
    opens := Function.update σ.opens handle
      ((σ.opens handle).filter fun e => !(e.agent = agent && e.controller = controller)) }

/-- `CloseProtocol`: every open by the agent for the controller is closed. -/
def closeProtocol (σ : Registry) (handle agent controller : EfiHandle) : EfiStatus × Registry :=
  if σ.isOpenBy handle agent controller then
    (.ok (), σ.close handle agent controller)
  else
    (.error .notFound, σ)

/-- `InstallMultipleProtocolInterfaces` on a new handle. -/
def install (σ : Registry) (record : DtDeviceRecord) : Registry :=
  { σ with
    devices := σ.devices ++ [record]
    opens := Function.update σ.opens record.handle [] }

def hasDriver (σ : Registry) (handle : EfiHandle) : Bool :=
  (σ.opens handle).any fun e => e.attributes = .byDriver

def closeTransient (σ : Registry) (handle : EfiHandle) : Registry :=
  { σ with
    opens := Function.update σ.opens handle
      ((σ.opens handle).filter fun e => ¬ e.IsTransient) }

def drop (σ : Registry) (handle : EfiHandle) : Registry :=
  { σ with
    devices := σ.devices.eraseP fun d => d.handle = handle
    opens := Function.update σ.opens handle [] }

/-- `UninstallProtocolInterface` once no driver is left to disconnect: the opens that do not
count are closed, and any other keeps the protocol. -/
def release (σ : Registry) (handle : EfiHandle) : EfiStatus × Registry :=
  let σ := σ.closeTransient handle
  if σ.opens handle ≠ [] then
    (.error .invalidParameter, σ)
  else
    (.ok (), σ.drop handle)

/-- `UninstallMultipleProtocolInterfaces` of the device path, of result `status`, and of the
devicetree I/O protocol, whose drivers are connected again when it stays. -/
def uninstall (σ : Registry) (drivers : DriverServices) (status : EfiStatus)
    (handle : EfiHandle) : EfiStatus × Registry :=
  match status with
  | .error e => (.error e, σ)
  | .ok _ =>
    if σ.hasDriver handle then
      match drivers.disconnect σ handle with
      | (.error _, σ) => (.error .invalidParameter, drivers.connect σ handle)
      | (.ok _, σ) =>
        match σ.release handle with
        | (.error e, σ) => (.error e, drivers.connect σ handle)
        | (.ok _, σ) => (.ok (), σ)
    else
      σ.release handle

/-- The tail insertion of a critical device into `gCriticalDevices`. -/
def insertCritical (σ : Registry) (record : DtDeviceRecord) : Registry :=
  if record.isCritical then
    { σ with criticalDevices := σ.criticalDevices ++ [record.dtIo] }
  else
    σ

/-- `LocateDevicePath`: the handle with the longest matching path, and what remains. -/
def locateDevicePath (σ : Registry) (path : DevicePath) : Option (DtDeviceRecord × DevicePath) :=
  (LongestPrefix.search (·.devicePath) path σ.devices).map fun d =>
    (d, path.drop d.devicePath.length)

end Registry

section PathToHandle

/-- `ConnectController` on a handle with a remaining path. -/
abbrev ConnectController := Registry → EfiHandle → DevicePath → EfiStatus × Registry

/-- One iteration of `DtPathToHandle`, from the previous handle. `connect` is `none` when
`Connect` is `FALSE`. -/
def dtPathToHandleBody (connect : Option ConnectController) (path : DevicePath) :
    Option EfiHandle × Registry →
      Loop.Step (Option EfiHandle × Registry) (EfiResult EfiHandle × Registry)
  | (previous, σ) =>
    match σ.locateDevicePath path with
    | none => .exit (.error .notFound, σ)
    | some (found, remaining) =>
      let result (status : EfiError) : EfiResult EfiHandle :=
        if remaining = [] then .ok found.handle else .error status
      match connect with
      | none => .exit (result .notFound, σ)
      | some connectController =>
        if previous = some found.handle then
          .exit (result .notFound, σ)
        else
          match connectController σ found.handle remaining with
          | (.error e, σ) => .exit (result e, σ)
          | (.ok _, σ) =>
            if remaining = [] then .exit (.ok found.handle, σ)
            else .next (some found.handle, σ)

def dtPathToHandle (connect : Option ConnectController) (path : DevicePath) (fuel : Nat)
    (σ : Registry) : Option (EfiResult EfiHandle × Registry) :=
  Loop.run (dtPathToHandleBody connect path) fuel (none, σ)

end PathToHandle

/-- What the services that a scan uses answer. Memory and handles that are handed out
belong to no registered device. -/
structure ScanServices where
  allocateNode : Registry → Int → Bool
  allocatePath : Registry → Int → Bool
  allocateDevice : Registry → Int → Option DtIoRef
  installHandle : Registry → Int → EfiResult EfiHandle
  openChild : Registry → Int → EfiStatus
  device_fresh (σ : Registry) (node : Int) (dtIo : DtIoRef)
    (h : allocateDevice σ node = some dtIo) : dtIo ∉ σ.devices.map (·.dtIo)
  handle_fresh (σ : Registry) (node : Int) (handle : EfiHandle)
    (h : installHandle σ node = .ok handle) : handle ∉ σ.handles

/-- The path under which the devices below a parent are created. -/
def pathOfParent : Option DtDeviceRecord → DevicePath
  | none => []
  | some parent => parent.devicePath

theorem next_not_mem (l : List Nat) : l.foldr max 0 + 1 ∉ l := by
  have hle (n : Nat) (hn : n ∈ l) : n ≤ l.foldr max 0 := by
    induction l with
    | nil => exact nomatch hn
    | cons m l ih =>
        cases hn with
        | head => exact Nat.le_max_left _ _
        | tail _ hn => exact Nat.le_trans (ih hn) (Nat.le_max_right _ _)
  intro hmem
  exact Nat.lt_irrefl _ (hle _ hmem)

/-- Services that never fail and hand out the next number. -/
def nextServices : ScanServices where
  allocateNode _ _ := true
  allocatePath _ _ := true
  allocateDevice σ _ := some ((σ.devices.map (·.dtIo)).foldr max 0 + 1)
  installHandle σ _ := .ok (σ.handles.foldr max 0 + 1)
  openChild _ _ := .ok ()
  device_fresh _ _ _ h := Option.some.inj h ▸ next_not_mem _
  handle_fresh _ _ _ h := Except.ok.inj h ▸ next_not_mem _

section Create

variable (bus : DtBusDriver) (services : ScanServices) (σ : Registry)

def dtDeviceCreate (fdtNode : Int) (name : AsciiStr) (parent : Option DtDeviceRecord)
    (parentFlags : Uintn) : EfiResult DtDeviceRecord × Registry :=
  if !services.allocateNode σ fdtNode then
    (.error .outOfResources, σ)
  else
    match appendDevicePathNode (pathOfParent parent) (fbpPathNodeCreate name) with
    | none => (.error .outOfResources, σ)
    | some fullPath =>
      if !services.allocatePath σ fdtNode then
        (.error .outOfResources, σ)
      else
        match dtPathToHandle none fullPath 1 σ with
        | some (.ok _, σ) => (.error .alreadyStarted, σ)
        | _ =>
          match services.allocateDevice σ fdtNode with
          | none => (.error .outOfResources, σ)
          | some dtIo =>
            let created := dtDevicePopulate bus.isCoherent bus.uninit bus.tree.toFdt dtIo fdtNode
              (parent.map (·.device)) parentFlags
            let record : DtDeviceRecord := ⟨created, name, fullPath⟩
            (.ok record, σ.insertCritical record)

def dtDeviceCleanup (σ : Registry) (record : DtDeviceRecord) : Registry :=
  if record.isCritical then
    { σ with criticalDevices := σ.criticalDevices.erase record.dtIo }
  else
    σ

def dtDeviceRegister (record : DtDeviceRecord) (controller : Option EfiHandle)
    (agent : EfiHandle) : EfiStatus × DtDeviceRecord × Registry :=
  match services.installHandle σ record.fdtNode with
  | .error e => (.error e, record, σ)
  | .ok handle =>
    let record := record.withHandle handle
    let σ := σ.install record
    match controller with
    | none => (.ok (), record, σ)
    | some controller =>
      match σ.openProtocol (services.openChild σ record.fdtNode) controller
          ⟨agent, handle, .byChildController⟩ with
      | (.error e, σ) => (.error e, record, (σ.release handle).2)
      | (.ok _, σ) => (.ok (), record, σ)

inductive ScanOutcome
  | unnamed
  | skipped
  | seen
  | failed (e : EfiError)
  | created
  deriving DecidableEq, Repr

/-- One iteration of the loop of `DtDeviceScan`. -/
def dtDeviceScanNode (agent : EfiHandle) (parent : DtDeviceRecord)
    (remaining : Option DevicePath) (node : Int) : ScanOutcome × Registry :=
  match bus.tree.getName node with
  | none => (.unnamed, σ)
  | some name =>
    if remaining.any fun path => devicePathNodeName path ≠ name then
      (.skipped, σ)
    else
      match dtDeviceCreate bus services σ node name (some parent) parent.device.info.flags with
      | (.error e, σ) => (if e = .alreadyStarted then .seen else .failed e, σ)
      | (.ok record, σ) =>
        match dtDeviceRegister services σ record (some parent.handle) agent with
        | (.error e, record, σ) => (.failed e, dtDeviceCleanup σ record)
        | (.ok _, _, σ) => (.created, σ)

/-- The loop of `DtDeviceScan` over some subnodes. -/
def dtDeviceScanNodes (agent : EfiHandle) (parent : DtDeviceRecord)
    (remaining : Option DevicePath) (nodes : List Int) : Registry :=
  nodes.foldl (fun σ node => (dtDeviceScanNode bus services σ agent parent remaining node).2) σ

def dtDeviceScan (agent : EfiHandle) (parent : DtDeviceRecord)
    (remaining : Option DevicePath) : EfiStatus × Registry :=
  if remaining.any fun path => !isDtDevicePathNode path then
    (.ok (), σ)
  else
    let nodes := bus.tree.subnodes parent.fdtNode
    let σ := dtDeviceScanNodes bus services σ agent parent remaining nodes
    if bus.tree.subnodesEnd parent.fdtNode ≠ -FDT_ERR_NOTFOUND then
      (.error .deviceError, σ)
    else
      (.ok (), σ)

def dtIoScanChildren (device : Option DtDeviceRecord) (agent : EfiHandle)
    (remaining : Option DevicePath) : EfiStatus × Registry :=
  match device with
  | none => (.error .invalidParameter, σ)
  | some device => dtDeviceScan bus services σ agent device remaining

end Create

/-- What a removal finds: the `Maps` list, the drivers of the device, and the results of
uninstalling the device path and of opening the parent again. -/
structure RemoveServices where
  mapsEmpty : Bool
  drivers : DriverServices
  devicePath : EfiStatus
  reopen : EfiStatus

section Remove

variable (services : RemoveServices) (σ : Registry)

def dtDeviceUnregister (record : DtDeviceRecord) (controller : Option EfiHandle)
    (agent : EfiHandle) : EfiStatus × Registry :=
  match controller with
  | none => σ.uninstall services.drivers services.devicePath record.handle
  | some controller =>
    match σ.closeProtocol controller agent record.handle with
    | (.error e, σ) => (.error e, σ)
    | (.ok _, σ) =>
      match σ.uninstall services.drivers services.devicePath record.handle with
      | (.ok _, σ) => (.ok (), σ)
      | (.error e, σ) =>
        match σ.openProtocol services.reopen controller
            ⟨agent, record.handle, .byChildController⟩ with
        | (.error e2, σ) => (.error e2, σ)
        | (.ok _, σ) => (.error e, σ)

/-- `DtDeviceRemove` on the registered devices. -/
def dtDeviceRemoveHandle (deviceHandle parentHandle agent : EfiHandle) : EfiStatus × Registry :=
  match σ.find deviceHandle with
  | none => (.error .unsupported, σ)
  | some record =>
    let (opened, σ) := σ.openProtocol (.ok ()) deviceHandle ⟨agent, parentHandle, .getProtocol⟩
    dtDeviceRemove opened services.mapsEmpty
      (fun σ => dtDeviceUnregister services σ record (some parentHandle) agent)
      (fun σ => dtDeviceCleanup σ record) σ

def dtIoRemoveChild (device : DtDeviceRecord) (childHandle agent : EfiHandle) :
    EfiStatus × Registry :=
  dtDeviceRemoveHandle services σ childHandle device.handle agent

end Remove

/-- `CreateRootHandle`, over a registry that holds no device. -/
def createRootHandle (bus : DtBusDriver) (services : ScanServices) (σ : Registry)
    (rootName : AsciiStr) (deviceFlags : Uintn) : EfiResult DtDeviceRecord × Registry :=
  if bus.tree.rootNode < 0 then
    (.error .notFound, σ)
  else
    match dtDeviceCreate bus services σ bus.tree.rootNode rootName none deviceFlags with
    | (.error _, σ) => (.error .outOfResources, σ)
    | (.ok record, σ) =>
      match dtDeviceRegister services σ record none 0 with
      | (.error e, record, σ) => (.error e, dtDeviceCleanup σ record)
      | (.ok _, record, σ) => (.ok record, σ)

end FdtBusPkg
