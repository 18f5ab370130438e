import FdtBusPkg.Serial.BaudRate

/-!
The attributes of a serial port. They are checked, with the divisor as an output of the check,
and programmed; for a clock of unknown rate the check accepts them without a divisor.
-/
namespace FdtBusPkg

/-- `EFI_SERIAL_IO_MODE`. -/
structure SerialIoMode where
  timeout : U32
  baudRate : U64
  receiveFifoDepth : U32
  dataBits : U32
  parity : U32
  stopBits : U32
  deriving DecidableEq, Repr

/-- `UART_DEVICE_PATH`. -/
structure UartDevicePath where
  baudRate : U64
  dataBits : U8
  parity : U8
  stopBits : U8
  deriving DecidableEq, Repr

/-- The attributes of a `SERIAL_DEV`; `installed` is the UART node of the device path on its
handle, when it has a handle. -/
structure SerialDev where
  clockRate : U32
  receiveFifoDepth : BitVec 16
  transmitFifoDepth : BitVec 16
  softwareLoopbackEnable : Bool
  hardwareFlowControl : Bool
  mode : SerialIoMode
  uartDevicePath : UartDevicePath
  installed : Option UartDevicePath
  deriving DecidableEq, Repr

structure UartPcds where
  uartDefaultBaudRate : U64
  uartDefaultParity : U8
  uartDefaultDataBits : U8
  uartDefaultStopBits : U8
  deriving DecidableEq, Repr

structure SerialAttributes where
  uart : UartSettings
  receiveFifoDepth : U32
  timeout : U32
  deriving DecidableEq, Repr

def SERIAL_PORT_DEFAULT_TIMEOUT : U32 := 1000000
def SERIAL_PORT_MIN_TIMEOUT : U32 := 1
def SERIAL_PORT_MAX_TIMEOUT : U32 := 100000000

def SERIAL_REGISTER_DLL : Nat := 0
def SERIAL_REGISTER_DLM : Nat := 1
def SERIAL_REGISTER_LCR : Nat := 3

def SerialAttributes.withDefaults (pcds : UartPcds) (dev : SerialDev) (a : SerialAttributes) :
    SerialAttributes where
  uart :=
    { baudRate := if a.uart.baudRate = 0 then pcds.uartDefaultBaudRate else a.uart.baudRate
      dataBits := if a.uart.dataBits = 0 then pcds.uartDefaultDataBits else a.uart.dataBits
      parity :=
        if a.uart.parity = 0 then pcds.uartDefaultParity.setWidth 32 else a.uart.parity
      stopBits :=
        if a.uart.stopBits = 0 then pcds.uartDefaultStopBits.setWidth 32 else a.uart.stopBits }
  receiveFifoDepth :=
    if a.receiveFifoDepth = 0 then dev.receiveFifoDepth.setWidth 32 else a.receiveFifoDepth
  timeout := if a.timeout = 0 then SERIAL_PORT_DEFAULT_TIMEOUT else a.timeout

/-- The depth and the timeout are within what the device supports. -/
def SerialAttributes.InRange (dev : SerialDev) (a : SerialAttributes) : Prop :=
  ¬ (a.receiveFifoDepth = 0 ∨ a.receiveFifoDepth > dev.receiveFifoDepth.setWidth 32) ∧
    ¬ (a.timeout < SERIAL_PORT_MIN_TIMEOUT ∨ a.timeout > SERIAL_PORT_MAX_TIMEOUT)

instance (dev : SerialDev) (a : SerialAttributes) : Decidable (a.InRange dev) :=
  inferInstanceAs (Decidable (_ ∧ _))

def putBit (data : U8) (bit : Nat) (value : Bool) : U8 :=
  if value then data ||| (1 : U8) <<< bit else data &&& ~~~((1 : U8) <<< bit)

/-- `Lcr` with the bits `ParEn`, `EvenPar` and `SticPar`. -/
def lcrParity (lcr : U8) (parity : U32) : U8 :=
  let put (parEn evenPar sticPar : Bool) :=
    putBit (putBit (putBit lcr 3 parEn) 4 evenPar) 5 sticPar
  if parity = NoParity then put false false false
  else if parity = EvenParity then put true true false
  else if parity = OddParity then put true false false
  else if parity = SpaceParity then put true true true
  else if parity = MarkParity then put true false true
  else lcr

/-- `Lcr` with the bit `StopB`. -/
def lcrStopBits (lcr : U8) (stopBits : U32) : U8 :=
  if stopBits = OneStopBit then putBit lcr 2 false
  else if stopBits = OneFiveStopBits ∨ stopBits = TwoStopBits then putBit lcr 2 true
  else lcr

/-- `Lcr` with the field `SerialDB`. -/
def lcrDataBits (lcr : U8) (dataBits : U8) : U8 :=
  lcr &&& ~~~0x03 ||| (dataBits - 5) &&& 0x03

structure RegisterWrite where
  register : Nat
  value : U8
  deriving DecidableEq, Repr

structure SetAttributesRun where
  status : EfiStatus
  dev : SerialDev
  writes : List RegisterWrite
  deriving DecidableEq, Repr

def divisorWrites (divisor : U64) : List RegisterWrite :=
  [⟨SERIAL_REGISTER_DLL, divisor.setWidth 8⟩,
    ⟨SERIAL_REGISTER_DLM, (divisor.setWidth 16 >>> 8).setWidth 8⟩]

/-- The registers that are programmed, starting from what `LCR` holds. -/
def attributeWrites (lcr : U8) (uart : UartSettings) (divisor : U64) : List RegisterWrite :=
  let lcr := putBit lcr 7 true
  let final := lcrDataBits
    (lcrStopBits (lcrParity (putBit lcr 7 false) uart.parity) uart.stopBits) uart.dataBits
  ⟨SERIAL_REGISTER_LCR, lcr⟩ :: divisorWrites divisor ++ [⟨SERIAL_REGISTER_LCR, final⟩]

def applyAttributes (dev : SerialDev) (a : SerialAttributes) (reinstall : EfiStatus) :
    EfiStatus × SerialDev :=
  let uart := a.uart
  let dev := { dev with
    mode := ⟨a.timeout, uart.baudRate, a.receiveFifoDepth, uart.dataBits.setWidth 32,
      uart.parity, uart.stopBits⟩ }
  let path := dev.uartDevicePath
  if path.baudRate = uart.baudRate ∧ path.dataBits = uart.dataBits ∧
      path.parity.setWidth 32 = uart.parity ∧ path.stopBits.setWidth 32 = uart.stopBits then
    (.ok (), dev)
  else
    let path : UartDevicePath :=
      ⟨uart.baudRate, uart.dataBits, uart.parity.setWidth 8, uart.stopBits.setWidth 8⟩
    match dev.installed with
    | none => (.ok (), { dev with uartDevicePath := path })
    | some _ => (reinstall, { dev with uartDevicePath := path, installed := some path })

/-- `SerialSetAttributes`; `stackDivisor` is what the uninitialised `Divisor` holds, and
`reinstall` the status of `ReinstallProtocolInterface`. -/
def serialSetAttributes (pcds : UartPcds) (dev : SerialDev) (a : SerialAttributes) (lcr : U8)
    (stackDivisor : U64) (reinstall : EfiStatus) : Option SetAttributesRun := do
  let a := a.withDefaults pcds dev
  let verdict ← verifyUartParameters dev.clockRate a.uart true true
  if verdict.accepted = false then
    some ⟨.error .invalidParameter, dev, []⟩
  else if a.InRange dev then
    let divisor := verdict.divisor.getD stackDivisor
    let uart := { a.uart with baudRate := verdict.actualBaudRate.getD a.uart.baudRate }
    let (status, dev) := applyAttributes dev { a with uart := uart } reinstall
    some ⟨status, dev, attributeWrites lcr uart divisor⟩
  else
    some ⟨.error .invalidParameter, dev, []⟩

/-- Whatever the stack held, the latches get the divisor that this call's check computed. -/
def ProgramsVerified (pcds : UartPcds) (dev : SerialDev) (a : SerialAttributes) : Prop :=
  ∀ lcr stackDivisor reinstall run,
    serialSetAttributes pcds dev a lcr stackDivisor reinstall = some run →
      ∀ w ∈ run.writes, w.register ≠ SERIAL_REGISTER_LCR →
        ∃ v d,
          verifyUartParameters dev.clockRate (a.withDefaults pcds dev).uart true true = some v ∧
            v.divisor = some d ∧ w ∈ divisorWrites d

/-- The clock has a known rate, or the attributes are refused. -/
def ProgramsVerifiedWhen (pcds : UartPcds) (dev : SerialDev) (a : SerialAttributes) : Prop :=
  dev.clockRate = 0 →
    (a.withDefaults pcds dev).uart.Malformed ∨ ¬ (a.withDefaults pcds dev).InRange dev

section SetAttributes

variable (pcds : UartPcds) (dev : SerialDev) (a : SerialAttributes) (lcr : U8)
  (stackDivisor : U64) (reinstall : EfiStatus)

/-- A call that returns has refused the attributes and left everything as it was, or has
programmed what the check stored or, where it stored nothing, what the stack held. -/
theorem serialSetAttributes_cases {run : SetAttributesRun}
    (h : serialSetAttributes pcds dev a lcr stackDivisor reinstall = some run) :
    ∃ v, verifyUartParameters dev.clockRate (a.withDefaults pcds dev).uart true true = some v ∧
      ((run = ⟨.error .invalidParameter, dev, []⟩ ∧
          (v.accepted = false ∨ ¬ (a.withDefaults pcds dev).InRange dev)) ∨
        (v.accepted = true ∧ (a.withDefaults pcds dev).InRange dev ∧
          ∃ uart, run.writes = attributeWrites lcr uart (v.divisor.getD stackDivisor))) := by
  rw [serialSetAttributes] at h
  dsimp only at h
  cases hverify : verifyUartParameters dev.clockRate (a.withDefaults pcds dev).uart true true with
  | none =>
      rw [hverify] at h
      exact nomatch h
  | some v =>
      refine ⟨v, rfl, ?_⟩
      rw [hverify] at h
      dsimp only [bind, Option.bind] at h
      split at h
      · next hrefused => exact .inl ⟨(Option.some.inj h).symm, .inl hrefused⟩
      · next haccepted =>
          split at h
          · next hrange =>
              obtain rfl := Option.some.inj h
              exact .inr ⟨Bool.not_eq_false _ ▸ haccepted, hrange, _, rfl⟩
          · next hrange => exact .inl ⟨(Option.some.inj h).symm, .inr hrange⟩

theorem mem_attributeWrites {uart : UartSettings} {divisor : U64} {w : RegisterWrite}
    (h : w.register ≠ SERIAL_REGISTER_LCR) (hw : w ∈ attributeWrites lcr uart divisor) :
    w ∈ divisorWrites divisor := by
  rw [attributeWrites, List.mem_append, List.mem_cons, List.mem_singleton] at hw
  rcases hw with (rfl | hw) | rfl
  · exact absurd rfl h
  · exact hw
  · exact absurd rfl h

theorem programsVerified_iff :
    ProgramsVerified pcds dev a ↔ ProgramsVerifiedWhen pcds dev a := by
  constructor
  · intro h hclock
    by_contra hprograms
    push Not at hprograms
    obtain ⟨hformat, hrange⟩ := hprograms
    have hverify : verifyUartParameters dev.clockRate (a.withDefaults pcds dev).uart true true =
        some ⟨true, none, none⟩ := by
      rw [hclock]
      exact verify_of_unknown_clock _ true true hformat
    have hrun : ∃ run, serialSetAttributes pcds dev a 0 0 (.ok ()) = some run ∧
        ⟨SERIAL_REGISTER_DLL, 0⟩ ∈ run.writes := by
      rw [serialSetAttributes]
      dsimp only
      rw [hverify]
      refine ⟨_, if_pos hrange, ?_⟩
      exact List.mem_append_left _ (List.mem_cons_of_mem _ List.mem_cons_self)
    obtain ⟨run, hrun, hw⟩ := hrun
    obtain ⟨v, d, hv, hd, -⟩ := h 0 0 (.ok ()) run hrun _ hw (by decide)
    rw [hverify] at hv
    cases hv
    exact nomatch hd
  · intro h lcr stackDivisor reinstall run hrun w hw hlatch
    obtain ⟨v, hverify, ⟨rfl, -⟩ | ⟨haccepted, hrange, uart, hwrites⟩⟩ :=
      serialSetAttributes_cases pcds dev a lcr stackDivisor reinstall hrun
    · exact absurd hw List.not_mem_nil
    have hclock : dev.clockRate ≠ 0 := by
      intro hclock
      rcases h hclock with hformat | hout
      · rw [verify_of_malformed _ _ true true hformat] at hverify
        cases hverify
        exact nomatch haccepted
      · exact hout hrange
    obtain ⟨d, hd⟩ := exists_divisor_of_accepted hclock hverify haccepted
    rw [hwrites, hd] at hw
    exact ⟨v, d, hverify, hd, mem_attributeWrites lcr hlatch hw⟩

end SetAttributes

/-- The check, for every request, and the call that programs the UART, for every device. -/
theorem uartSettings_honest_iff (clockRate : U32) (s : UartSettings) (wantsActual : Bool)
    (pcds : UartPcds) (dev : SerialDev) (a : SerialAttributes) :
    (VerdictHonest clockRate s wantsActual ↔ VerdictHonestWhen clockRate s wantsActual) ∧
      (ProgramsVerified pcds dev a ↔ ProgramsVerifiedWhen pcds dev a) :=
  ⟨verdictHonest_iff clockRate s wantsActual, programsVerified_iff pcds dev a⟩

end FdtBusPkg
