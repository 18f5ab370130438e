import FdtBusPkg.Library.PartialLoop
import FdtBusPkg.Library.RingBuffer
import FdtBusPkg.Serial.Attributes

/-!
The transfer of bytes through a serial port. What the registers of the line return is given by
streams, one value a read. The loops wait for the line, so a call returns when its fuel
suffices, and never when the line makes it wait for ever.
-/
namespace FdtBusPkg

abbrev SERIAL_MAX_FIFO_SIZE : Nat := 17

def TIMEOUT_STALL_INTERVAL : Uintn := 10

abbrev SerialDevFifo := RingBuffer U8 SERIAL_MAX_FIFO_SIZE

/-- `SerialFifoAdd`. -/
def serialFifoAdd (fifo : SerialDevFifo) (data : U8) : EfiStatus × SerialDevFifo :=
  if fifo.IsFull then (.error .outOfResources, fifo) else (.ok (), fifo.push data)

/-- `SerialFifoRemove`. -/
def serialFifoRemove (fifo : SerialDevFifo) : EfiResult U8 × SerialDevFifo :=
  if fifo.IsEmpty then (.error .outOfResources, fifo) else (.ok (fifo.data fifo.head), fifo.pop)

namespace Lsr

def Dr : Nat := 0
def Pe : Nat := 2
def Fe : Nat := 3
def Bi : Nat := 4
def Thre : Nat := 5
def FIFOe : Nat := 7

end Lsr

namespace Msr

def Cts : Nat := 4
def Dsr : Nat := 5
def Ri : Nat := 6
def Dcd : Nat := 7

end Msr

namespace Mcr

def DtrC : Nat := 0
def Rts : Nat := 1
def Lme : Nat := 4

end Mcr

/-- What the reads of the line status, modem status and receive registers return, in order,
and the flow control that the platform is built with. -/
structure SerialLine where
  lsr : Nat → U8
  msr : Nat → U8
  rbr : Nat → U8
  useHalfHandshake : Bool

/-- No read of the line status shows an error of the byte that waits. -/
def SerialLine.NoReceiveErrors (line : SerialLine) : Prop :=
  ∀ k, ∀ bit ∈ [Lsr.FIFOe, Lsr.Pe, Lsr.Fe, Lsr.Bi], (line.lsr k).getLsbD bit = false

/-- The FIFOs of a `SERIAL_DEV` and its line: what was read so far, the modem control register,
and three histories. Bytes are `taken` from the transmit FIFO, `handed` to the transmitter or
to the receive FIFO, and have `arrived` from the line or by loopback. -/
structure SerialState where
  receive : SerialDevFifo
  transmit : SerialDevFifo
  mcr : U8
  lsrReads : Nat
  msrReads : Nat
  rbrReads : Nat
  taken : List U8
  handed : List U8
  arrived : List U8

namespace SerialState

def setRts (s : SerialState) (value : Bool) : SerialState :=
  { s with mcr := putBit s.mcr Mcr.Rts value }

/-- Remove a byte to transmit; `Data` stays zero where there is none. -/
def removeTransmit (s : SerialState) : U8 × SerialState :=
  match serialFifoRemove s.transmit with
  | (.ok data, transmit) => (data, { s with transmit := transmit, taken := s.taken ++ [data] })
  | (.error _, _) => (0, s)

/-- `WRITE_THR`. -/
def writeThr (s : SerialState) (data : U8) : SerialState :=
  { s with handed := s.handed ++ [data] }

/-- `SerialFifoAdd` to the receive FIFO of a byte that arrives. -/
def addReceived (s : SerialState) (data : U8) : SerialState :=
  { s with receive := (serialFifoAdd s.receive data).2, arrived := s.arrived ++ [data] }

/-- `SerialFifoAdd` to the transmit FIFO. -/
def addTransmit (s : SerialState) (data : U8) : SerialState :=
  { s with transmit := (serialFifoAdd s.transmit data).2 }

def readLsr (line : SerialLine) (s : SerialState) : U8 × SerialState :=
  (line.lsr s.lsrReads, { s with lsrReads := s.lsrReads + 1 })

def readMsr (line : SerialLine) (s : SerialState) : U8 × SerialState :=
  (line.msr s.msrReads, { s with msrReads := s.msrReads + 1 })

def readRbr (line : SerialLine) (s : SerialState) : U8 × SerialState :=
  (line.rbr s.rbrReads, { s with rbrReads := s.rbrReads + 1 })

end SerialState

section ReceiveTransmit

variable (dev : SerialDev) (line : SerialLine)

/-- One iteration of the loop of the software loopback. -/
def loopbackBody (s : SerialState) : Loop.Step SerialState (EfiStatus × SerialState) :=
  if s.transmit.IsEmpty then
    .exit (.ok (), s)
  else
    let (data, t) := s.removeTransmit
    if s.receive.IsFull then
      .exit (.error .outOfResources, t)
    else
      let t := (t.addReceived data).writeThr data
      if t.transmit.IsEmpty then .exit (.ok (), t) else .next t

/-- The byte that waits, which is dropped when it came with an error. -/
def receiveByte (lsr : U8) (s : SerialState) : SerialState :=
  let (data, s) := s.readRbr line
  if lsr.getLsbD Lsr.FIFOe ∨ lsr.getLsbD Lsr.Pe ∨ lsr.getLsbD Lsr.Fe ∨ lsr.getLsbD Lsr.Bi then
    s
  else
    let s := s.addReceived data
    if dev.hardwareFlowControl ∧ ¬ line.useHalfHandshake ∧ s.receive.IsFull then
      s.setRts false
    else
      s

/-- The wait goes on while the peer is there and not ready. -/
def waitsForCts (msr : U8) : Prop :=
  msr.getLsbD Msr.Dcd = true ∧ (!msr.getLsbD Msr.Cts ^^ line.useHalfHandshake) = true

instance (msr : U8) : Decidable (waitsForCts line msr) := inferInstanceAs (Decidable (_ ∧ _))

/-- The wait for CTS, with the number of reads that it may still make. -/
def waitForCts : Nat → U8 → SerialState → U8 × SerialState
  | 0, msr, s => (msr, s)
  | reads + 1, msr, s =>
    if waitsForCts line msr then
      let (msr, s) := s.readMsr line
      waitForCts reads msr s
    else
      (msr, s)

def sendByte (s : SerialState) : SerialState :=
  let (data, s) := s.removeTransmit
  s.writeThr data

/-- Half handshake asserts RTS before a byte is sent, and tells the peer after it. -/
def setHandshake (value : Bool) (s : SerialState) : SerialState :=
  if line.useHalfHandshake then s.setRts value else s

/-- Make sure that the transmit data will not be missed. -/
def sendWhenClear (s : SerialState) : SerialState :=
  let (msr, s) := (setHandshake line false s).readMsr line
  let (msr, s) := waitForCts line 5 msr s
  setHandshake line true
    (if ¬ msr.getLsbD Msr.Dcd ∨ (msr.getLsbD Msr.Cts ^^ line.useHalfHandshake) then sendByte s
      else s)

def transmitByte (lsr : U8) (s : SerialState) : SerialState :=
  if lsr.getLsbD Lsr.Thre ∧ ¬ s.transmit.IsEmpty then
    if dev.hardwareFlowControl then sendWhenClear line s else sendByte s
  else
    s

/-- The condition of the `do ... while` over the line. -/
def lineWhile (lsr : U8) (receiveFifoFull : Bool) (s : SerialState) :
    Loop.Step (SerialState × Bool) SerialState :=
  if lsr.getLsbD Lsr.Thre ∧ ¬ s.transmit.IsEmpty then .next (s, receiveFifoFull) else .exit s

/-- One iteration over the line, with `ReceiveFifoFull`. -/
def lineBody : SerialState × Bool → Loop.Step (SerialState × Bool) SerialState
  | (s, receiveFifoFull) =>
    let (lsr, s) := s.readLsr line
    if lsr.getLsbD Lsr.Dr ∧ ¬ receiveFifoFull then
      if s.receive.IsFull then
        lineWhile lsr true (transmitByte dev line lsr s)
      else
        lineWhile lsr false (receiveByte dev line lsr s)
    else
      lineWhile lsr receiveFifoFull (transmitByte dev line lsr s)

/-- `SerialReceiveTransmit`. -/
def serialReceiveTransmit (fuel : Nat) (s : SerialState) : Option (EfiStatus × SerialState) :=
  if dev.softwareLoopbackEnable then
    Loop.run loopbackBody fuel s
  else
    let receiveFifoFull := decide s.receive.IsFull
    let s :=
      if dev.hardwareFlowControl ∧ ¬ line.useHalfHandshake ∧ ¬ receiveFifoFull then s.setRts true
      else s
    (Loop.run (lineBody dev line) fuel (s, receiveFifoFull)).map fun s => (.ok (), s)

end ReceiveTransmit

section Calls

variable (dev : SerialDev) (line : SerialLine) (fuel : Nat)

/-- The microseconds that `SerialWrite` waits for a byte. -/
def writeTimeout : Option Uintn := do
  let stopBits := if dev.mode.stopBits = TwoStopBits then 2 else dev.mode.stopBits
  let bitsPerCharacter : Uintn := (1 + dev.mode.dataBits + stopBits).setWidth 64
  let (flush, _) ← divU64x64Remainder
    (bitsPerCharacter * (dev.transmitFifoDepth.setWidth 64 + 1) * 1000000) dev.mode.baudRate
  let timeout := dev.mode.timeout.setWidth 64
  some (if timeout > flush then timeout else flush)

/-- One attempt to get a byte out; the loop says whether it has got out. -/
def waitBody (timeout : Uintn) :
    Uintn × SerialState → Option (Loop.Step (Uintn × SerialState) (Bool × SerialState))
  | (elapsed, s) => do
    let (status, s) ← serialReceiveTransmit dev line fuel s
    if status ≠ .ok () ∨ ¬ s.transmit.IsEmpty then
      if elapsed ≥ timeout then
        some (.exit (false, s))
      else
        some (.next (elapsed + TIMEOUT_STALL_INTERVAL, s))
    else
      some (.exit (true, s))

/-- The variables of the loop of `SerialWrite`. -/
structure WriteLoop where
  index : U32
  actualWrite : Uintn
  state : SerialState

/-- What a call returns through `BufferSize`, and the state that it leaves. -/
structure TransferResult where
  status : EfiStatus
  bufferSize : Uintn
  state : SerialState

def writeBody (timeout : Uintn) (buffer : Nat → U8) (bufferSize : Uintn) (w : WriteLoop) :
    Option (Loop.Step WriteLoop TransferResult) :=
  if w.index.setWidth 64 < bufferSize then do
    let s := w.state.addTransmit (buffer w.index.toNat)
    match ← PartialLoop.run (waitBody dev line fuel timeout) fuel (0, s) with
    | (false, s) => some (.exit ⟨.error .timeout, w.actualWrite, s⟩)
    | (true, s) => some (.next ⟨w.index + 1, w.actualWrite + 1, s⟩)
  else
    some (.exit ⟨.ok (), bufferSize, w.state⟩)

/-- `SerialWrite`. -/
def serialWrite (buffer : Nat → U8) (bufferSize : Uintn) (s : SerialState) :
    Option TransferResult :=
  if bufferSize = 0 then
    some ⟨.ok (), 0, s⟩
  else do
    let timeout ← writeTimeout dev
    PartialLoop.run (writeBody dev line fuel timeout buffer bufferSize) fuel ⟨0, 0, s⟩

/-- The variables of the loops of `SerialRead`. -/
structure ReadLoop where
  index : U32
  elapsed : Uintn
  buffer : Nat → U8
  state : SerialState

/-- A result of `SerialRead`, with the buffer. -/
structure ReadResult extends TransferResult where
  buffer : Nat → U8

/-- One attempt to take a byte from the receive FIFO. -/
def readBody (bufferSize : Uintn) (r : ReadLoop) : Option (Loop.Step ReadLoop ReadResult) :=
  if r.index.setWidth 64 < bufferSize then
    match serialFifoRemove r.state.receive with
    | (.ok data, receive) =>
      some (.next ⟨r.index + 1, 0, Function.update r.buffer r.index.toNat data,
        { r.state with receive := receive }⟩)
    | (.error _, _) =>
      if r.elapsed ≥ dev.mode.timeout.setWidth 64 then
        some (.exit ⟨⟨.error .timeout, r.index.setWidth 64, r.state⟩, r.buffer⟩)
      else do
        let (status, s) ← serialReceiveTransmit dev line fuel r.state
        if status = .error .deviceError then
          some (.exit ⟨⟨.error .deviceError, r.index.setWidth 64, s⟩, r.buffer⟩)
        else
          some (.next { r with elapsed := r.elapsed + TIMEOUT_STALL_INTERVAL, state := s })
  else do
    let (_, s) ← serialReceiveTransmit dev line fuel r.state
    some (.exit ⟨⟨.ok (), bufferSize, s⟩, r.buffer⟩)

/-- `SerialRead`. -/
def serialRead (buffer : Nat → U8) (bufferSize : Uintn) (s : SerialState) : Option ReadResult :=
  if bufferSize = 0 then
    some ⟨⟨.ok (), 0, s⟩, buffer⟩
  else do
    let (status, s) ← serialReceiveTransmit dev line fuel s
    match status with
    | .error _ => some ⟨⟨.error .deviceError, 0, s⟩, buffer⟩
    | .ok () => PartialLoop.run (readBody dev line fuel bufferSize) fuel ⟨0, 0, buffer, s⟩

def EFI_SERIAL_DATA_TERMINAL_READY : U32 := 0x0001
def EFI_SERIAL_REQUEST_TO_SEND : U32 := 0x0002
def EFI_SERIAL_CLEAR_TO_SEND : U32 := 0x0010
def EFI_SERIAL_DATA_SET_READY : U32 := 0x0020
def EFI_SERIAL_RING_INDICATE : U32 := 0x0040
def EFI_SERIAL_CARRIER_DETECT : U32 := 0x0080
def EFI_SERIAL_INPUT_BUFFER_EMPTY : U32 := 0x0100
def EFI_SERIAL_OUTPUT_BUFFER_EMPTY : U32 := 0x0200
def EFI_SERIAL_HARDWARE_LOOPBACK_ENABLE : U32 := 0x1000
def EFI_SERIAL_SOFTWARE_LOOPBACK_ENABLE : U32 := 0x2000
def EFI_SERIAL_HARDWARE_FLOW_CONTROL_ENABLE : U32 := 0x4000

/-- The control bits of the conditions that hold. -/
def controlBits (bits : List (Bool × U32)) : U32 :=
  bits.foldl (fun control bit => if bit.1 then control ||| bit.2 else control) 0

/-- `SerialGetControl`. -/
def serialGetControl (s : SerialState) : Option (U32 × SerialState) := do
  let (msr, s) := s.readMsr line
  let mcr := s.mcr
  let (_, s) ← serialReceiveTransmit dev line fuel s
  some (controlBits
    [(msr.getLsbD Msr.Cts, EFI_SERIAL_CLEAR_TO_SEND),
      (msr.getLsbD Msr.Dsr, EFI_SERIAL_DATA_SET_READY),
      (msr.getLsbD Msr.Ri, EFI_SERIAL_RING_INDICATE),
      (msr.getLsbD Msr.Dcd, EFI_SERIAL_CARRIER_DETECT),
      (mcr.getLsbD Mcr.DtrC, EFI_SERIAL_DATA_TERMINAL_READY),
      (mcr.getLsbD Mcr.Rts, EFI_SERIAL_REQUEST_TO_SEND),
      (mcr.getLsbD Mcr.Lme, EFI_SERIAL_HARDWARE_LOOPBACK_ENABLE),
      (dev.hardwareFlowControl, EFI_SERIAL_HARDWARE_FLOW_CONTROL_ENABLE),
      (s.transmit.IsEmpty, EFI_SERIAL_OUTPUT_BUFFER_EMPTY),
      (s.receive.IsEmpty, EFI_SERIAL_INPUT_BUFFER_EMPTY),
      (dev.softwareLoopbackEnable, EFI_SERIAL_SOFTWARE_LOOPBACK_ENABLE)], s)

end Calls

end FdtBusPkg
