import FdtBusPkg.Library.Session
import FdtBusPkg.Serial.Conservation

/-!
The whole serial I/O protocol on one port: its registers, its device and its FIFOs, with all
six calls. Registers 0 and 1 are the divisor latches while `DLAB` is set, so a call that left
it set would turn the next byte sent into half a divisor.
-/
namespace FdtBusPkg

def SERIAL_REGISTER_IER : Nat := 1
def SERIAL_REGISTER_FCR : Nat := 2
def SERIAL_REGISTER_SCR : Nat := 7

def UART_FLOW_CONTROL_HARDWARE : U32 := 1

namespace Lsr

def Temt : Nat := 6

end Lsr

namespace Lcr

def DLab : Nat := 7

end Lcr

namespace Mcr

def Out1 : Nat := 2
def Out2 : Nat := 3

end Mcr

/-- A `SERIAL_DEV` with the registers of its UART; `flowControlMap` is what stands in the flow
control node of its device path, when `SerialSetControl` finds one there. -/
structure SerialPort where
  dev : SerialDev
  state : SerialState
  lcr : U8
  ier : U8
  dll : U8
  dlm : U8
  fcr : U8
  scr : U8
  flowControlMap : Option U32

namespace SerialPort

/-- `SerialWriteRegister`, for the registers that no history records. -/
def writeRegister (p : SerialPort) (w : RegisterWrite) : SerialPort :=
  if w.register = SERIAL_REGISTER_LCR then
    { p with lcr := w.value }
  else if w.register = SERIAL_REGISTER_FCR then
    { p with fcr := w.value }
  else if w.register = SERIAL_REGISTER_SCR then
    { p with scr := w.value }
  else if p.lcr.getLsbD Lcr.DLab then
    if w.register = SERIAL_REGISTER_DLL then
      { p with dll := w.value }
    else if w.register = SERIAL_REGISTER_DLM then
      { p with dlm := w.value }
    else
      p
  else if w.register = SERIAL_REGISTER_IER then
    { p with ier := w.value }
  else
    p

end SerialPort

section Flush

variable (line : SerialLine)

/-- The wait of `SerialFlushTransmitFifo`, with the reads that it may still make. -/
def flushWait : Nat → U8 → SerialState → EfiStatus × SerialState
  | 0, lsr, s =>
    if lsr.getLsbD Lsr.Temt = false ∨ lsr.getLsbD Lsr.Thre = false then (.error .timeout, s)
    else (.ok (), s)
  | reads + 1, lsr, s =>
    if lsr.getLsbD Lsr.Temt = false ∨ lsr.getLsbD Lsr.Thre = false then
      let (lsr, s) := s.readLsr line
      flushWait reads lsr s
    else
      (.ok (), s)

def flushTimeout (dev : SerialDev) : Uintn :=
  let timeout : Uintn :=
    if 2640000 > SERIAL_PORT_DEFAULT_TIMEOUT then 2640000
    else SERIAL_PORT_DEFAULT_TIMEOUT.setWidth 64
  let current := dev.mode.timeout.setWidth 64
  if timeout > current then timeout else current

/-- The wait reads again after every stall, until the stalls amount to the timeout. -/
def serialFlushTransmitFifo (dev : SerialDev) (s : SerialState) : EfiStatus × SerialState :=
  let (lsr, s) := s.readLsr line
  let interval := TIMEOUT_STALL_INTERVAL.toNat
  flushWait line (((flushTimeout dev).toNat + (interval - 1)) / interval) lsr s

/-- The port after the wait; no caller looks at whether it has timed out. -/
def SerialPort.flush (p : SerialPort) : SerialPort :=
  { p with state := (serialFlushTransmitFifo line p.dev p.state).2 }

end Flush

section Calls

variable (pcds : UartPcds) (line : SerialLine)

/-- `SerialSetAttributes`, with what it waits for and writes. -/
def portSetAttributes (a : SerialAttributes) (stackDivisor : U64) (reinstall : EfiStatus)
    (p : SerialPort) : Option (EfiStatus × SerialPort) := do
  let run ← serialSetAttributes pcds p.dev a p.lcr stackDivisor reinstall
  match run.writes with
  | [] => some (run.status, { p with dev := run.dev })
  | writes =>
    some (run.status,
      writes.foldl SerialPort.writeRegister { p.flush line with dev := run.dev })

def hasBits (control bits : U32) : Bool := control &&& bits = bits

/-- The bits that `SerialSetControl` accepts. -/
def settableControl : U32 :=
  EFI_SERIAL_REQUEST_TO_SEND ||| EFI_SERIAL_DATA_TERMINAL_READY |||
    EFI_SERIAL_HARDWARE_LOOPBACK_ENABLE ||| EFI_SERIAL_SOFTWARE_LOOPBACK_ENABLE |||
    EFI_SERIAL_HARDWARE_FLOW_CONTROL_ENABLE

/-- `SerialSetControl`. -/
def serialSetControl (control : U32) (reinstall : EfiStatus) (p : SerialPort) :
    EfiStatus × SerialPort :=
  if control &&& ~~~settableControl ≠ 0 then
    (.error .unsupported, p)
  else
    let p := p.flush line
    let mcr := putBit p.state.mcr Mcr.DtrC (hasBits control EFI_SERIAL_DATA_TERMINAL_READY)
    let mcr := putBit mcr Mcr.Rts (hasBits control EFI_SERIAL_REQUEST_TO_SEND)
    let mcr := putBit mcr Mcr.Lme (hasBits control EFI_SERIAL_HARDWARE_LOOPBACK_ENABLE)
    let hardware := hasBits control EFI_SERIAL_HARDWARE_FLOW_CONTROL_ENABLE
    let dev := { p.dev with
      hardwareFlowControl := hardware
      softwareLoopbackEnable := hasBits control EFI_SERIAL_SOFTWARE_LOOPBACK_ENABLE }
    let p := { p with dev := dev, state.mcr := mcr }
    match dev.installed, p.flowControlMap with
    | some _, some map =>
      if decide (map = UART_FLOW_CONTROL_HARDWARE) ≠ hardware then
        (reinstall, { p with
          flowControlMap := some (if hardware then UART_FLOW_CONTROL_HARDWARE else 0) })
      else
        (.ok (), p)
    | _, _ => (.ok (), p)

/-- The attributes of the mode, as `SerialReset` sets them again. -/
def SerialIoMode.attributes (m : SerialIoMode) : SerialAttributes where
  uart := ⟨m.baudRate, m.dataBits.setWidth 8, m.parity, m.stopBits⟩
  receiveFifoDepth := m.receiveFifoDepth
  timeout := m.timeout

def clearDlab (p : SerialPort) : SerialPort :=
  p.writeRegister ⟨SERIAL_REGISTER_LCR, putBit p.lcr Lcr.DLab false⟩

def disableInterrupts (p : SerialPort) : SerialPort :=
  p.writeRegister ⟨SERIAL_REGISTER_IER,
    putBit (putBit (putBit (putBit p.ier 0 false) 1 false) 2 false) 3 false⟩

def clearModemControl (p : SerialPort) : SerialPort :=
  { p with
    state.mcr :=
      putBit (putBit (putBit p.state.mcr Mcr.Out1 false) Mcr.Out2 false) Mcr.Lme false }

/-- `TrFIFOE`, `TrFIFO64` for a deep FIFO, `ResetRF` and `ResetTF`. -/
def enableFifo (dev : SerialDev) : U8 :=
  putBit (putBit (putBit (putBit 0 0 true) 5 (decide (dev.receiveFifoDepth > 16))) 1 true) 2 true

/-- The register writes of `SerialReset`, up to the attributes. -/
def resetRegisters (p : SerialPort) : SerialPort :=
  let p := (disableInterrupts (clearDlab p)).writeRegister ⟨SERIAL_REGISTER_FCR, 0⟩
  ((clearModemControl p).writeRegister ⟨SERIAL_REGISTER_SCR, 0⟩).writeRegister
    ⟨SERIAL_REGISTER_FCR, enableFifo p.dev⟩

/-- The control bits that `SerialReset` sets again. -/
def resetControl (dev : SerialDev) : U32 :=
  controlBits [(dev.hardwareFlowControl, EFI_SERIAL_HARDWARE_FLOW_CONTROL_ENABLE),
    (dev.softwareLoopbackEnable, EFI_SERIAL_SOFTWARE_LOOPBACK_ENABLE)]

theorem SERIAL_MAX_FIFO_SIZE_pos : 0 < SERIAL_MAX_FIFO_SIZE := Nat.succ_pos 16

def SerialState.resetFifos (s : SerialState) : SerialState :=
  let first : Fin SERIAL_MAX_FIFO_SIZE := ⟨0, SERIAL_MAX_FIFO_SIZE_pos⟩
  { s with
    receive := { s.receive with head := first, tail := first }
    transmit := { s.transmit with head := first, tail := first } }

/-- `SerialReset`; the statuses are those of the two times that the device path may be
installed again. -/
def serialReset (stackDivisor : U64) (reinstallAttributes reinstallControl : EfiStatus)
    (p : SerialPort) : Option (EfiStatus × SerialPort) := do
  let p := resetRegisters (p.flush line)
  match ← portSetAttributes pcds line p.dev.mode.attributes stackDivisor reinstallAttributes p with
  | (.error _, p) => some (.error .deviceError, p)
  | (.ok _, p) =>
    match serialSetControl line (resetControl p.dev) reinstallControl p with
    | (.error _, p) => some (.error .deviceError, p)
    | (.ok _, p) => some (.ok (), { p with state := p.state.resetFifos })

end Calls

/-- The calls of the protocol, with what the environment contributes to each. -/
inductive PortCall
  | reset (stackDivisor : U64) (reinstallAttributes reinstallControl : EfiStatus)
  | setAttributes (attributes : SerialAttributes) (stackDivisor : U64) (reinstall : EfiStatus)
  | setControl (control : U32) (reinstall : EfiStatus)
  | getControl
  | write (buffer : Nat → U8) (bufferSize : Uintn)
  | read (buffer : Nat → U8) (bufferSize : Uintn)

inductive PortAnswer
  | status (status : EfiStatus)
  | control (control : U32)
  | transferred (status : EfiStatus) (bufferSize : Uintn)
  deriving DecidableEq

section Runs

variable (pcds : UartPcds) (line : SerialLine)

def SerialPort.call (fuel : Nat) (p : SerialPort) : PortCall → Option (PortAnswer × SerialPort)
  | .reset stackDivisor reinstallAttributes reinstallControl => do
    let (status, p) ← serialReset pcds line stackDivisor reinstallAttributes reinstallControl p
    some (.status status, p)
  | .setAttributes attributes stackDivisor reinstall => do
    let (status, p) ← portSetAttributes pcds line attributes stackDivisor reinstall p
    some (.status status, p)
  | .setControl control reinstall =>
    let (status, p) := serialSetControl line control reinstall p
    some (.status status, p)
  | .getControl => do
    let (control, s) ← serialGetControl p.dev line fuel p.state
    some (.control control, { p with state := s })
  | .write buffer bufferSize => do
    let r ← serialWrite p.dev line fuel buffer bufferSize p.state
    some (.transferred r.status r.bufferSize, { p with state := r.state })
  | .read buffer bufferSize => do
    let r ← serialRead p.dev line fuel buffer bufferSize p.state
    some (.transferred r.status r.bufferSize, { p with state := r.state })

def SerialPort.Calls (c : PortCall) (p : SerialPort) (answer : PortAnswer) (q : SerialPort) :
    Prop :=
  ∃ fuel, p.call pcds line fuel c = some (answer, q)

end Runs

end FdtBusPkg
