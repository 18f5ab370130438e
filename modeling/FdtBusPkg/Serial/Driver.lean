import FdtBusPkg.Serial.Port

/-!
The driver binding of the serial driver on one controller. A controller has one UART, or, on PCI,
as many as the table of the platform lists for it; each gets a child handle of its own. The
children of a PCI controller share a count, and the attributes that the controller had before the
first of them.
-/
namespace FdtBusPkg

/-- `PCI_SERIAL_PARAMETER`. -/
structure PciSerialParameter where
  vendorId : BitVec 16
  deviceId : BitVec 16
  clockRate : U32
  offset : U64
  barIndex : U8
  registerStride : U8
  receiveFifoDepth : BitVec 16
  transmitFifoDepth : BitVec 16
  deriving DecidableEq, Repr

/-- `PCI_DEVICE_INFO`. -/
structure PciDeviceInfo where
  childCount : Uintn
  pciAttributes : U64
  deriving DecidableEq, Repr

inductive SerialParent
  | sio
  | pci
  | dt
  deriving DecidableEq, Repr

/-- The nodes of a remaining device path: the controller node, when there is one, the UART node,
and the flow control node, when there is one. -/
structure SerialPath where
  controllerNumber : Option U32
  uart : UartDevicePath
  flowControlMap : Option U32

/-- `RemainingDevicePath`. -/
inductive RemainingPath
  | null
  | endNode
  | node (path : SerialPath)

/-- The platform and the controller: its configuration, `PcdPciSerialParameters` up to the entry
that ends it, and what identifies the controller. -/
structure SerialPlatform where
  pcds : UartPcds
  serialClockRate : U32
  pciSerialParameters : List PciSerialParameter
  pciSerialParameters_length : pciSerialParameters.length < 2 ^ 32
  parent : SerialParent
  acpiUid : U32
  vendorId : BitVec 16
  deviceId : BitVec 16

/-- A `SERIAL_DEV` on its handle, open by child on the controller. -/
structure SerialChild where
  handle : EfiHandle
  port : SerialPort
  baseAddress : U64
  mmioAccess : Bool
  registerStride : U8
  containsControllerNode : Bool
  instanceNumber : U32
  pciDeviceInfo : Option Nat

/-- A controller as the driver leaves it: what it has open by driver, its children, the
`PCI_DEVICE_INFO` blocks in the pool, and the attributes of the PCI device. -/
structure SerialController where
  devicePathOpen : Bool
  parentIoOpen : Bool
  children : List SerialChild
  pool : Nat → Option PciDeviceInfo
  pciAttributes : U64

inductive AcpiResource
  | ioPort (baseAddressMin : BitVec 16) (length : U8)
  | fixedIoPort (baseAddress : BitVec 16) (length : U8)
  | addressSpace (resType : U8) (addrRangeMin addrLen : U64)
  | other
  deriving DecidableEq, Repr

def AcpiResource.ACPI_ADDRESS_SPACE_TYPE_MEM : U8 := 0

structure UartRegisters where
  lcr : U8
  ier : U8
  dll : U8
  dlm : U8
  fcr : U8
  scr : U8
  mcr : U8

/-- What the environment contributes to the creation of a child. -/
structure CreateServices where
  clockFrequency : Option U32
  getReg : EfiStatus
  resources : U8 → EfiResult (List AcpiResource)
  line : SerialLine
  registers : UartRegisters
  serialPresent : Bool
  stackDivisor : U64
  installProtocols : EfiResult EfiHandle
  openChild : EfiStatus

/-- What the environment contributes to `SerialControllerDriverStart`; `create` is by the number
of the UART. -/
structure SerialStartServices where
  openDevicePath : EfiStatus
  pciRead : EfiStatus
  pciDeviceInfo : Nat
  poolContents : U64
  getAttributes : EfiStatus
  supportedAttributes : EfiResult U64
  enableAttributes : EfiStatus
  setAttributes : EfiStatus
  stackFifoDepths : BitVec 16 × BitVec 16
  create : U32 → CreateServices
  line : SerialLine
  fuel : Nat
  stackDivisor : U64
  reinstallAttributes : EfiStatus
  reinstallControl : EfiStatus

structure SerialStopServices where
  uninstall : EfiHandle → EfiStatus
  setAttributes : EfiStatus

def UartDevicePath.settings (uart : UartDevicePath) : UartSettings where
  baudRate := uart.baudRate
  dataBits := uart.dataBits
  parity := uart.parity.setWidth 32
  stopBits := uart.stopBits.setWidth 32

/-- The base address, and whether it is for memory, from the first descriptor that gives one. -/
def serialBaseAddress (offset : U64) : List AcpiResource → U64 × Bool → U64 × Bool
  | [], found => found
  | resource :: resources, (baseAddress, mmioAccess) =>
    if baseAddress ≠ 0 then
      (baseAddress, mmioAccess)
    else
      match resource with
      | .ioPort base length =>
        serialBaseAddress offset resources
          (if length ≠ 0 then base.setWidth 64 else baseAddress, mmioAccess)
      | .fixedIoPort base length =>
        serialBaseAddress offset resources
          (if length ≠ 0 then base.setWidth 64 else baseAddress, mmioAccess)
      | .addressSpace resType base length =>
        if length ≠ 0 then
          serialBaseAddress offset resources
            (base + offset,
              if resType = AcpiResource.ACPI_ADDRESS_SPACE_TYPE_MEM then true else mmioAccess)
        else
          serialBaseAddress offset resources (baseAddress, mmioAccess)
      | .other => serialBaseAddress offset resources (baseAddress, mmioAccess)

section Driver

variable (d : SerialPlatform)

/-- `gSerialDevTemplate`, with the UART node of the path. -/
def serialDevTemplate (path : Option SerialPath) : SerialDev where
  clockRate := d.serialClockRate
  receiveFifoDepth := 16
  transmitFifoDepth := 16
  softwareLoopbackEnable := false
  hardwareFlowControl := false
  mode :=
    { timeout := SERIAL_PORT_DEFAULT_TIMEOUT
      baudRate := d.pcds.uartDefaultBaudRate
      receiveFifoDepth := 16
      dataBits := d.pcds.uartDefaultDataBits.setWidth 32
      parity := d.pcds.uartDefaultParity.setWidth 32
      stopBits := d.pcds.uartDefaultStopBits.setWidth 32 }
  uartDevicePath :=
    match path with
    | some path => path.uart
    | none =>
      ⟨d.pcds.uartDefaultBaudRate, d.pcds.uartDefaultDataBits, d.pcds.uartDefaultParity,
        d.pcds.uartDefaultStopBits⟩
  installed := none

/-- The clock and the FIFOs that a table entry gives a device. -/
def PciSerialParameter.apply (p : PciSerialParameter) (dev : SerialDev) : SerialDev :=
  { dev with
    clockRate := if p.clockRate ≠ 0 then p.clockRate else dev.clockRate
    receiveFifoDepth :=
      if p.receiveFifoDepth ≠ 0 then p.receiveFifoDepth else dev.receiveFifoDepth
    transmitFifoDepth :=
      if p.transmitFifoDepth ≠ 0 then p.transmitFifoDepth else dev.transmitFifoDepth }

def PciSerialParameter.stride (p : PciSerialParameter) : U8 :=
  if p.registerStride ≠ 0 then p.registerStride else 1

/-- Where the registers are: by `GetReg`, or by the resources of the controller. -/
def serialRegisters (parameter : Option PciSerialParameter) (s : CreateServices) :
    EfiResult (U64 × Bool) :=
  match d.parent with
  | .dt =>
    match s.getReg with
    | .error e => .error e
    | .ok _ => .ok (0, false)
  | _ =>
    let barIndex :=
      match parameter with
      | some p => if p.barIndex = 0xFF then 0 else p.barIndex
      | none => 0
    let offset :=
      match parameter with
      | some p => p.offset
      | none => 0
    let found :=
      match s.resources barIndex with
      | .error _ => (0, false)
      | .ok resources => serialBaseAddress offset resources (0, false)
    if found.1 = 0 then .error .invalidParameter else .ok found

def newPort (s : CreateServices) (dev : SerialDev) (flowControlMap : Option U32) : SerialPort :=
  let first : Fin SERIAL_MAX_FIFO_SIZE := ⟨0, SERIAL_MAX_FIFO_SIZE_pos⟩
  let r := s.registers
  { dev, flowControlMap
    lcr := r.lcr, ier := r.ier, dll := r.dll, dlm := r.dlm, fcr := r.fcr, scr := r.scr
    state :=
      { receive := ⟨first, first, fun _ => 0⟩
        transmit := ⟨first, first, fun _ => 0⟩
        mcr := r.mcr, lsrReads := 0, msrReads := 0, rbrReads := 0
        taken := [], handed := [], arrived := [] } }

/-- `CreateSerialDevice`; `none` when the rates divide by zero. A child that is not created leaves
nothing behind. -/
def createSerialDevice (path : Option SerialPath) (createControllerNode : Bool)
    (instanceNumber : U32) (parameter : Option PciSerialParameter) (pciDeviceInfo : Option Nat)
    (s : CreateServices) : Option (EfiResult SerialChild) := do
  let dev := serialDevTemplate d path
  let dev :=
    match d.parent with
    | .dt => { dev with clockRate := s.clockFrequency.getD dev.clockRate }
    | .pci => parameter.elim dev (·.apply dev)
    | .sio => dev
  let flowControlMap := path.bind (·.flowControlMap)
  let verdict ← verifyUartParameters dev.clockRate dev.uartDevicePath.settings false false
  if verdict.accepted = false then
    some (.error .invalidParameter)
  else
    match serialRegisters d parameter s with
    | .error e => some (.error e)
    | .ok (baseAddress, mmioAccess) =>
      if s.serialPresent = false then
        some (.error .deviceError)
      else
        let uart := dev.uartDevicePath.settings
        let dev := { dev with
          hardwareFlowControl := flowControlMap.getD 0 = UART_FLOW_CONTROL_HARDWARE
          mode := { dev.mode with
            baudRate := uart.baudRate
            dataBits := uart.dataBits.setWidth 32
            parity := uart.parity
            stopBits := uart.stopBits } }
        match ← serialReset d.pcds s.line s.stackDivisor (.ok ()) (.ok ())
            (newPort s dev flowControlMap) with
        | (.error e, _) => some (.error e)
        | (.ok _, port) =>
          match s.installProtocols, s.openChild with
          | .error e, _ => some (.error e)
          | .ok _, .error e => some (.error e)
          | .ok handle, .ok _ =>
            some (.ok
              { handle, baseAddress, mmioAccess, instanceNumber, pciDeviceInfo
                port := { port with dev.installed := some dev.uartDevicePath }
                registerStride := parameter.elim 1 (·.stride)
                containsControllerNode := createControllerNode })

def SerialPlatform.Lists (p : PciSerialParameter) : Prop :=
  p.vendorId = d.vendorId ∧ p.deviceId = d.deviceId

instance SerialPlatform.instDecidableLists (p : PciSerialParameter) : Decidable (d.Lists p) :=
  inferInstanceAs (Decidable (_ ∧ _))

/-- The entries for this controller, one for each of its UARTs. -/
def SerialPlatform.listed : List PciSerialParameter :=
  d.pciSerialParameters.filter fun p => d.Lists p

/-- `DefaultPciSerialParameter`, whose FIFO depths are what the stack held. -/
def defaultPciSerialParameter (s : SerialStartServices) : PciSerialParameter where
  vendorId := d.vendorId
  deviceId := d.deviceId
  clockRate := 0
  offset := 0
  barIndex := 0
  registerStride := 0
  receiveFifoDepth := s.stackFifoDepths.1
  transmitFifoDepth := s.stackFifoDepths.2

def SerialPath.Names (path : SerialPath) (child : SerialChild) : Prop :=
  (child.containsControllerNode = false ∧ path.controllerNumber = none) ∨
    (child.containsControllerNode = true ∧ path.controllerNumber = some child.instanceNumber)

instance SerialPath.instDecidableNames (path : SerialPath) (child : SerialChild) :
    Decidable (path.Names child) := inferInstanceAs (Decidable (_ ∨ _))

/-- The attributes of the path, for a child that exists, unless the check refuses them. -/
def setPathAttributes (s : SerialStartServices) (uart : UartDevicePath) (accepted : Bool)
    (port : SerialPort) : Option (EfiStatus × SerialPort) :=
  if accepted then
    portSetAttributes d.pcds s.line
      ⟨uart.settings, port.dev.mode.receiveFifoDepth, port.dev.mode.timeout⟩ s.stackDivisor
      s.reinstallAttributes port
  else
    some (.error .invalidParameter, port)

def setPathFlowControl (s : SerialStartServices) (flowControlMap : Option U32)
    (status : EfiStatus) (port : SerialPort) : Option (EfiStatus × SerialPort) :=
  match status, flowControlMap with
  | .ok _, some map => do
    let (control, state) ← serialGetControl port.dev s.line s.fuel port.state
    let control :=
      if map = UART_FLOW_CONTROL_HARDWARE then
        control ||| EFI_SERIAL_HARDWARE_FLOW_CONTROL_ENABLE
      else
        control &&& ~~~EFI_SERIAL_HARDWARE_FLOW_CONTROL_ENABLE
    some (serialSetControl s.line (control &&& settableControl) s.reinstallControl
      { port with state })
  | status, _ => some (status, port)

def updateChild (s : SerialStartServices) (path : SerialPath) (child : SerialChild) :
    Option (EfiStatus × SerialChild) := do
  let verdict ← verifyUartParameters child.port.dev.clockRate path.uart.settings false false
  let (status, port) ← setPathAttributes d s path.uart verdict.accepted child.port
  let (status, port) ← setPathFlowControl s path.flowControlMap status port
  some (status, { child with port })

namespace SerialController

variable (c : SerialController)

def putInfo (p : Nat) (info : Option PciDeviceInfo) : SerialController :=
  { c with pool := Function.update c.pool p info }

/-- `PciDeviceInfo->ChildCount`, changed. -/
def recount (p : Option Nat) (f : Uintn → Uintn) : SerialController :=
  match p with
  | none => c
  | some p =>
    match c.pool p with
    | none => c
    | some info => c.putInfo p (some { info with childCount := f info.childCount })

def addChild (child : SerialChild) : SerialController :=
  { c with children := c.children ++ [child] }.recount child.pciDeviceInfo (· + 1)

def closed : SerialController := { c with devicePathOpen := false, parentIoOpen := false }

/-- The attributes go back to what they were, and the block to the pool. -/
def restore (p : Nat) (info : PciDeviceInfo) (setAttributes : EfiStatus) : SerialController :=
  match setAttributes with
  | .error _ => c.putInfo p none
  | .ok _ => { c.putInfo p none with pciAttributes := info.pciAttributes }

end SerialController

def EFI_PCI_IO_ATTRIBUTE_IO : U64 := 0x0100
def EFI_PCI_IO_ATTRIBUTE_MEMORY : U64 := 0x0200

/-- The attributes once decoding has been enabled, as far as that succeeds. -/
def enabledAttributes (s : SerialStartServices) (attributes : U64) : U64 :=
  match s.getAttributes, s.supportedAttributes, s.enableAttributes with
  | .ok _, .ok supports, .ok _ =>
    attributes ||| supports &&& ( EFI_PCI_IO_ATTRIBUTE_IO ||| EFI_PCI_IO_ATTRIBUTE_MEMORY)
  | _, _, _ => attributes

/-- The block of the children: a new one for the first child, the one they share for another. -/
def shareDeviceInfo (s : SerialStartServices) (c : SerialController) :
    Option Nat × SerialController :=
  match c.children with
  | [] =>
    let original :=
      match s.getAttributes with
      | .ok _ => c.pciAttributes
      | .error _ => s.poolContents
    (some s.pciDeviceInfo,
      { c.putInfo s.pciDeviceInfo (some ⟨0, original⟩) with
        pciAttributes := enabledAttributes s c.pciAttributes })
  | child :: _ => (child.pciDeviceInfo, c)

/-- The loop over the table for a controller with several UARTs. The count is of the entries that
were taken. -/
def createUarts (s : SerialStartServices) (path : Option SerialPath) (p : Option Nat) :
    List PciSerialParameter → U32 → EfiStatus → SerialController →
      Option (EfiStatus × SerialController)
  | [], _, status, c => some (status, c)
  | parameter :: rest, count, status, c =>
    if d.Lists parameter ∧ (path.isNone ∨ path.bind (·.controllerNumber) = some count) then do
      match ← createSerialDevice d path true count (some parameter) p (s.create count) with
      | .error e => createUarts s path p rest (count + 1) (.error e) c
      | .ok child => createUarts s path p rest (count + 1) (.ok ()) (c.addChild child)
    else
      createUarts s path p rest count status c

def createUart (s : SerialStartServices) (path : Option SerialPath) (instanceNumber : U32)
    (parameter : Option PciSerialParameter) (p : Option Nat) (c : SerialController) :
    Option (EfiStatus × SerialController) :=
  if (path.bind (·.controllerNumber)).isSome then
    some (.error .notFound, c)
  else do
    match ← createSerialDevice d path false instanceNumber parameter p
        (s.create instanceNumber) with
    | .error e => some (.error e, c)
    | .ok child => some (.ok (), c.addChild child)

def createPciUarts (s : SerialStartServices) (path : Option SerialPath) (p : Option Nat)
    (c : SerialController) : Option (EfiStatus × SerialController) :=
  if d.listed.length ≤ 1 then
    let parameter :=
      if d.listed.length = 0 then some (defaultPciSerialParameter d s)
      else d.pciSerialParameters.head?
    createUart d s path 0 parameter p c
  else if path.isNone ∨ (path.bind (·.controllerNumber)).isSome then
    createUarts d s path p d.pciSerialParameters 0 (.error .notFound) c
  else
    some (.error .notFound, c)

/-- The end of `SerialControllerDriverStart`. -/
def finishStart (s : SerialStartServices) (hadChildren : Bool) (p : Option Nat)
    (status : EfiStatus) (c : SerialController) : EfiStatus × SerialController :=
  match p, p.bind c.pool, status with
  | some p, some info, status =>
    if info.childCount ≠ 0 then
      (.ok (), c)
    else
      match status with
      | .ok _ => (.ok (), c)
      | .error e =>
        if hadChildren then (.error e, c)
        else (s.setAttributes, (c.restore p info s.setAttributes).closed)
  | _, _, .ok _ => (.ok (), c)
  | _, _, .error e => if hadChildren then (.error e, c) else (.error e, c.closed)

/-- `SerialControllerDriverStart`, from where it creates children. -/
def startCreate (s : SerialStartServices) (path : Option SerialPath) (c : SerialController) :
    Option (EfiStatus × SerialController) :=
  let hadChildren := !c.children.isEmpty
  match d.parent with
  | .sio => do
    let (status, c) ← createUart d s path d.acpiUid none none c
    some (finishStart s hadChildren none status c)
  | .dt => do
    let (status, c) ← createUart d s path 0 none none c
    some (finishStart s hadChildren none status c)
  | .pci =>
    match s.pciRead with
    | .error e => some (finishStart s hadChildren none (.error e) c)
    | .ok _ => do
      let (p, c) := shareDeviceInfo s c
      let (status, c) ← createPciUarts d s path p c
      some (finishStart s hadChildren p status c)

/-- `SerialControllerDriverStart`. -/
def serialStart (s : SerialStartServices) (remaining : RemainingPath) (c : SerialController) :
    Option (EfiStatus × SerialController) :=
  match c.devicePathOpen, s.openDevicePath with
  | false, .error e => some (.error e, c)
  | _, _ =>
    let c := { c with devicePathOpen := true, parentIoOpen := true }
    match remaining with
    | .endNode => some (.ok (), c)
    | .null => if c.children.isEmpty then startCreate d s none c else some (.ok (), c)
    | .node path =>
      match c.children.findIdx? (path.Names ·) with
      | none => startCreate d s (some path) c
      | some i => do
        let child ← c.children[i]?
        let (status, child) ← updateChild d s path child
        some (status, { c with children := c.children.set i child })

/-- One turn of the loop of `SerialControllerDriverStop`. -/
def stopSerialChild (s : SerialStopServices) :
    Bool × Option Nat × SerialController → EfiHandle → Bool × Option Nat × SerialController
  | (allStopped, p, c), handle =>
    match c.children.find? (·.handle = handle) with
    | none => (false, p, c)
    | some child =>
      let rest := c.children.eraseP (·.handle = handle)
      match s.uninstall handle with
      | .error _ => (false, child.pciDeviceInfo, { c with children := rest ++ [child] })
      | .ok _ =>
        (allStopped, child.pciDeviceInfo,
          { c with children := rest }.recount child.pciDeviceInfo (· - 1))

/-- `SerialControllerDriverStop`. -/
def serialStop (s : SerialStopServices) (childHandles : List EfiHandle) (c : SerialController) :
    EfiStatus × SerialController :=
  if childHandles.isEmpty then
    (.ok (), c.closed)
  else
    let (allStopped, p, c) := childHandles.foldl (stopSerialChild s) (true, none, c)
    if !allStopped then
      (.error .deviceError, c)
    else
      match p, p.bind c.pool with
      | some p, some info =>
        if info.childCount = 0 then (.ok (), c.restore p info s.setAttributes) else (.ok (), c)
      | _, _ => (.ok (), c)

end Driver

end FdtBusPkg
