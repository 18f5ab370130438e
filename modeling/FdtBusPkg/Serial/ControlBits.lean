import FdtBusPkg.Serial.Port

/-!
The control bits that can be read back: the loopbacks and the hardware flow control. Over any
session they are what the last call that set them left, whatever is transferred in between.
-/
namespace FdtBusPkg

/-- The control bits that the source marks as read and write. -/
def readWriteControl : U32 :=
  EFI_SERIAL_HARDWARE_LOOPBACK_ENABLE ||| EFI_SERIAL_SOFTWARE_LOOPBACK_ENABLE |||
    EFI_SERIAL_HARDWARE_FLOW_CONTROL_ENABLE

namespace SerialPort

def readWriteBits (p : SerialPort) : U32 :=
  controlBits [(p.state.mcr.getLsbD Mcr.Lme, EFI_SERIAL_HARDWARE_LOOPBACK_ENABLE),
    (p.dev.softwareLoopbackEnable, EFI_SERIAL_SOFTWARE_LOOPBACK_ENABLE),
    (p.dev.hardwareFlowControl, EFI_SERIAL_HARDWARE_FLOW_CONTROL_ENABLE)]

end SerialPort

/-- The bits after a call: those of an accepted `SetControl`, and after a reset those before
it without the hardware loopback. -/
def bitsAfter (bits : U32) : PortCall → U32
  | .setControl control _ =>
    if control &&& ~~~settableControl ≠ 0 then bits else control &&& readWriteControl
  | .reset .. =>
    bits &&& (EFI_SERIAL_SOFTWARE_LOOPBACK_ENABLE ||| EFI_SERIAL_HARDWARE_FLOW_CONTROL_ENABLE)
  | _ => bits

section Bits

theorem getLsbD_putBit (data : U8) (bit : Nat) (value : Bool) (i : Nat) :
    (putBit data bit value).getLsbD i =
      if i = bit ∧ i < 8 then value else data.getLsbD i := by
  have hone : ((1 : U8) <<< bit).getLsbD i = decide (i = bit ∧ i < 8) := by
    rw [show (1 : U8) <<< bit = BitVec.twoPow 8 bit from (BitVec.twoPow_eq 8 bit).symm,
      BitVec.getLsbD_twoPow]
    by_cases h : bit = i
    · rw [h]
      simp
    · simp [h, Ne.symm h]
  rw [putBit]
  by_cases h : i = bit ∧ i < 8
  · rw [decide_eq_true h] at hone
    rw [if_pos h]
    cases value with
    | true => rw [if_pos rfl, BitVec.getLsbD_or, hone, Bool.or_true]
    | false =>
        rw [if_neg Bool.false_ne_true, BitVec.getLsbD_and, BitVec.getLsbD_not, hone,
          Bool.not_true, Bool.and_false, Bool.and_false]
  · rw [decide_eq_false h] at hone
    rw [if_neg h]
    cases value with
    | true => rw [if_pos rfl, BitVec.getLsbD_or, hone, Bool.or_false]
    | false =>
        rw [if_neg Bool.false_ne_true, BitVec.getLsbD_and, BitVec.getLsbD_not, hone,
          Bool.not_false, Bool.and_true]
        by_cases hi : i < 8
        · rw [decide_eq_true hi, Bool.and_true]
        · rw [BitVec.getLsbD_of_ge _ _ (Nat.not_lt.mp hi), Bool.false_and]

theorem getLsbD_putBit_of_ne (data : U8) {bit i : Nat} (value : Bool) (h : i ≠ bit) :
    (putBit data bit value).getLsbD i = data.getLsbD i := by
  rw [getLsbD_putBit, if_neg (fun hboth => h hboth.1)]

theorem getLsbD_putBit_self (data : U8) {bit : Nat} (value : Bool) (h : bit < 8) :
    (putBit data bit value).getLsbD bit = value := by
  rw [getLsbD_putBit, if_pos ⟨rfl, h⟩]

def bitIf (condition : Bool) (bit : U32) : U32 := if condition then bit else 0

theorem controlBits_foldl (bits : List (Bool × U32)) (control : U32) :
    bits.foldl (fun control bit => if bit.1 then control ||| bit.2 else control) control =
      control ||| controlBits bits := by
  induction bits generalizing control with
  | nil => simp [controlBits]
  | cons bit bits ih =>
      rw [controlBits, List.foldl_cons, List.foldl_cons, ih, ih]
      cases bit.1 <;> simp [BitVec.or_assoc]

theorem controlBits_cons (condition : Bool) (bit : U32) (bits : List (Bool × U32)) :
    controlBits ((condition, bit) :: bits) = bitIf condition bit ||| controlBits bits := by
  rw [controlBits, List.foldl_cons, controlBits_foldl]
  cases condition <;> simp [bitIf]

theorem controlBits_nil : controlBits [] = 0 := rfl

theorem bitIf_and (condition : Bool) (bit mask : U32) :
    bitIf condition bit &&& mask = bitIf condition (bit &&& mask) := by
  cases condition <;> simp [bitIf]

theorem bitIf_zero (condition : Bool) : bitIf condition 0 = 0 := by
  cases condition <;> rfl

theorem bitIf_hasBits (control : U32) (k : Nat) :
    bitIf (hasBits control (BitVec.twoPow 32 k)) (BitVec.twoPow 32 k) =
      control &&& BitVec.twoPow 32 k := by
  rw [hasBits, BitVec.and_twoPow, bitIf]
  cases control.getLsbD k with
  | true => simp
  | false =>
      rw [if_neg Bool.false_ne_true]
      refine ite_eq_right_iff.mpr fun hzero => ?_
      exact (of_decide_eq_true hzero).symm

end Bits

section Transfers

def SerialState.lme (s : SerialState) : Bool := s.mcr.getLsbD Mcr.Lme

variable (dev : SerialDev) (line : SerialLine)

@[simp] theorem lme_setRts (s : SerialState) (value : Bool) : (s.setRts value).lme = s.lme :=
  getLsbD_putBit_of_ne _ _ (by decide)

@[simp] theorem lme_readLsr (s : SerialState) : (s.readLsr line).2.lme = s.lme := rfl
@[simp] theorem lme_readMsr (s : SerialState) : (s.readMsr line).2.lme = s.lme := rfl
@[simp] theorem lme_readRbr (s : SerialState) : (s.readRbr line).2.lme = s.lme := rfl
@[simp] theorem lme_writeThr (s : SerialState) (data : U8) : (s.writeThr data).lme = s.lme := rfl
@[simp] theorem lme_addReceived (s : SerialState) (data : U8) :
    (s.addReceived data).lme = s.lme := rfl
@[simp] theorem lme_addTransmit (s : SerialState) (data : U8) :
    (s.addTransmit data).lme = s.lme := rfl

@[simp] theorem lme_removeTransmit (s : SerialState) : s.removeTransmit.2.lme = s.lme := by
  rw [SerialState.removeTransmit]
  split <;> rfl

@[simp] theorem lme_sendByte (s : SerialState) : (sendByte s).lme = s.lme := by
  simp [sendByte]

@[simp] theorem lme_waitForCts (reads : Nat) (msr : U8) (s : SerialState) :
    (waitForCts line reads msr s).2.lme = s.lme := by
  induction reads generalizing msr s with
  | zero => rfl
  | succ reads ih =>
      rw [waitForCts]
      split
      · exact ih _ _
      · rfl

@[simp] theorem lme_setHandshake (value : Bool) (s : SerialState) :
    (setHandshake line value s).lme = s.lme := by
  rw [setHandshake]
  split <;> simp

@[simp] theorem lme_sendWhenClear (s : SerialState) : (sendWhenClear line s).lme = s.lme := by
  rw [sendWhenClear]
  dsimp only
  rw [lme_setHandshake]
  split <;> simp

@[simp] theorem lme_transmitByte (lsr : U8) (s : SerialState) :
    (transmitByte dev line lsr s).lme = s.lme := by
  rw [transmitByte]
  split
  · split <;> simp
  · rfl

@[simp] theorem lme_receiveByte (lsr : U8) (s : SerialState) :
    (receiveByte dev line lsr s).lme = s.lme := by
  rw [receiveByte]
  dsimp only
  split
  · rfl
  · split <;> simp

@[simp] theorem lme_flushWait (reads : Nat) (lsr : U8) (s : SerialState) :
    (flushWait line reads lsr s).2.lme = s.lme := by
  induction reads generalizing lsr s with
  | zero =>
      rw [flushWait]
      split <;> rfl
  | succ reads ih =>
      rw [flushWait]
      split
      · exact ih _ _
      · rfl

@[simp] theorem lme_flush (s : SerialState) :
    (serialFlushTransmitFifo line dev s).2.lme = s.lme := by
  simp [serialFlushTransmitFifo]

theorem lineBody_lme (s : SerialState) (receiveFifoFull : Bool) :
    ∃ lsr full t, lineBody dev line (s, receiveFifoFull) = lineWhile lsr full t ∧
      t.lme = s.lme := by
  rw [lineBody]
  dsimp only
  split
  · split
    · exact ⟨_, _, _, rfl, by simp⟩
    · exact ⟨_, _, _, rfl, by simp⟩
  · exact ⟨_, _, _, rfl, by simp⟩

theorem lme_loopback {fuel : Nat} {s t : SerialState} {status : EfiStatus}
    (h : Loop.run loopbackBody fuel s = some (status, t)) : t.lme = s.lme := by
  have hbody (u : SerialState) (hu : u.lme = s.lme) :
      (∀ v, loopbackBody u = .next v → v.lme = s.lme) ∧
        ∀ r, loopbackBody u = .exit r → r.2.lme = s.lme := by
    have hremoved := (lme_removeTransmit u).trans hu
    rw [loopbackBody]
    dsimp only
    split_ifs <;> refine ⟨?_, ?_⟩ <;> rintro v ⟨⟩ <;> first | exact hu | exact hremoved
  obtain ⟨u, hu, hexit⟩ := Loop.exit_of_run _ (fun u => u.lme = s.lme)
    (fun u v hu hv => (hbody u hu).1 v hv) fuel s (status, t) rfl h
  exact (hbody u hu).2 _ hexit

theorem lme_receiveTransmit {fuel : Nat} {s t : SerialState} {status : EfiStatus}
    (h : serialReceiveTransmit dev line fuel s = some (status, t)) : t.lme = s.lme := by
  rw [serialReceiveTransmit] at h
  split at h
  · exact lme_loopback h
  · obtain ⟨u, hrun, hu⟩ := Option.map_eq_some_iff.mp h
    cases hu
    have hstep (x y : SerialState × Bool) (hx : x.1.lme = s.lme)
        (hy : lineBody dev line x = .next y) : y.1.lme = s.lme := by
      obtain ⟨lsr, full, v, hbody, hv⟩ := lineBody_lme dev line x.1 x.2
      rw [lineWhile_next (hbody.symm.trans hy), hv, hx]
    obtain ⟨x, hx, hexit⟩ := Loop.exit_of_run _ (fun x => x.1.lme = s.lme) hstep fuel _ t
      (by dsimp only; split <;> simp) hrun
    obtain ⟨lsr, full, v, hbody, hv⟩ := lineBody_lme dev line x.1 x.2
    rw [lineWhile_exit (hbody.symm.trans hexit), hv, hx]

end Transfers

section Calls

variable (pcds : UartPcds) (dev : SerialDev) (line : SerialLine) {fuel : Nat}

theorem lme_wait {timeout : Uintn} {s t : SerialState} {out : Bool}
    (h : PartialLoop.run (waitBody dev line fuel timeout) fuel (0, s) = some (out, t)) :
    t.lme = s.lme := by
  have hbody (x : Uintn × SerialState) (hx : x.2.lme = s.lme)
      (step : Loop.Step (Uintn × SerialState) (Bool × SerialState))
      (hstep : waitBody dev line fuel timeout x = some step) :
      (∃ y, step = .next y ∧ y.2.lme = s.lme) ∨ ∃ r, step = .exit r ∧ r.2.lme = s.lme := by
    obtain ⟨⟨status, u⟩, hattempt, hrest⟩ := Option.bind_eq_some_iff.mp hstep
    have hu := (lme_receiveTransmit dev line hattempt).trans hx
    dsimp only at hrest
    split_ifs at hrest
    · exact .inr ⟨_, (Option.some.inj hrest).symm, hu⟩
    · exact .inl ⟨_, (Option.some.inj hrest).symm, hu⟩
    · exact .inr ⟨_, (Option.some.inj hrest).symm, hu⟩
  exact PartialLoop.run_spec_of_cases _ (fun r => r.2.lme = s.lme)
    (fun x step hx hstep => hbody x hx step hstep) rfl h

theorem lme_write {buffer : Nat → U8} {bufferSize : Uintn} {s : SerialState} {r : TransferResult}
    (h : serialWrite dev line fuel buffer bufferSize s = some r) : r.state.lme = s.lme := by
  rw [serialWrite] at h
  split at h
  · cases h
    rfl
  obtain ⟨timeout, -, hrun⟩ := Option.bind_eq_some_iff.mp h
  have hbody (w : WriteLoop) (hw : w.state.lme = s.lme) (step : Loop.Step WriteLoop TransferResult)
      (hstep : writeBody dev line fuel timeout buffer bufferSize w = some step) :
      (∃ v, step = .next v ∧ v.state.lme = s.lme) ∨ ∃ q, step = .exit q ∧ q.state.lme = s.lme := by
    rw [writeBody] at hstep
    split at hstep
    · obtain ⟨⟨out, u⟩, hwait, hrest⟩ := Option.bind_eq_some_iff.mp hstep
      have hu := (lme_wait dev line hwait).trans ((lme_addTransmit _ _).trans hw)
      cases out with
      | false => exact .inr ⟨_, (Option.some.inj hrest).symm, hu⟩
      | true => exact .inl ⟨_, (Option.some.inj hrest).symm, hu⟩
    · exact .inr ⟨_, (Option.some.inj hstep).symm, hw⟩
  exact PartialLoop.run_spec_of_cases _ (fun r => r.state.lme = s.lme)
    (fun w step hw hstep => hbody w hw step hstep) rfl hrun

theorem lme_read {buffer : Nat → U8} {bufferSize : Uintn} {s : SerialState} {r : ReadResult}
    (h : serialRead dev line fuel buffer bufferSize s = some r) : r.state.lme = s.lme := by
  rw [serialRead] at h
  split at h
  · cases h
    rfl
  obtain ⟨⟨status, u⟩, hfirst, hrest⟩ := Option.bind_eq_some_iff.mp h
  have hu := lme_receiveTransmit dev line hfirst
  cases status with
  | error e =>
      cases hrest
      exact hu
  | ok =>
      have hbody (x : ReadLoop) (hx : x.state.lme = s.lme) (step : Loop.Step ReadLoop ReadResult)
          (hstep : readBody dev line fuel bufferSize x = some step) :
          (∃ y, step = .next y ∧ y.state.lme = s.lme) ∨
            ∃ q, step = .exit q ∧ q.state.lme = s.lme := by
        rw [readBody] at hstep
        split at hstep
        · split at hstep
          · exact .inl ⟨_, (Option.some.inj hstep).symm, hx⟩
          · split at hstep
            · exact .inr ⟨_, (Option.some.inj hstep).symm, hx⟩
            · obtain ⟨⟨status, v⟩, hattempt, hnext⟩ := Option.bind_eq_some_iff.mp hstep
              have hv := (lme_receiveTransmit dev line hattempt).trans hx
              dsimp only at hnext
              split at hnext
              · exact .inr ⟨_, (Option.some.inj hnext).symm, hv⟩
              · exact .inl ⟨_, (Option.some.inj hnext).symm, hv⟩
        · obtain ⟨⟨status, v⟩, hattempt, hnext⟩ := Option.bind_eq_some_iff.mp hstep
          exact .inr ⟨_, (Option.some.inj hnext).symm,
            (lme_receiveTransmit dev line hattempt).trans hx⟩
      exact PartialLoop.run_spec_of_cases _ (fun r => r.state.lme = s.lme)
        (fun x step hx hstep => hbody x hx step hstep) hu hrest

end Calls

section Port

open SerialPort

variable (pcds : UartPcds) (line : SerialLine)

/-- The loopbacks and the flow control, apart from what else a port holds. -/
theorem readWriteBits_eq (p : SerialPort) :
    p.readWriteBits =
      bitIf p.state.lme EFI_SERIAL_HARDWARE_LOOPBACK_ENABLE |||
        (bitIf p.dev.softwareLoopbackEnable EFI_SERIAL_SOFTWARE_LOOPBACK_ENABLE |||
          bitIf p.dev.hardwareFlowControl EFI_SERIAL_HARDWARE_FLOW_CONTROL_ENABLE) := by
  rw [readWriteBits, controlBits_cons, controlBits_cons, controlBits_cons, controlBits_nil,
    SerialState.lme]
  simp

theorem readWriteBits_congr {p q : SerialPort} (hlme : q.state.lme = p.state.lme)
    (hsoftware : q.dev.softwareLoopbackEnable = p.dev.softwareLoopbackEnable)
    (hhardware : q.dev.hardwareFlowControl = p.dev.hardwareFlowControl) :
    q.readWriteBits = p.readWriteBits := by
  rw [readWriteBits_eq, readWriteBits_eq, hlme, hsoftware, hhardware]

theorem getControl_reports {fuel : Nat} {p : SerialPort} {control : U32} {s : SerialState}
    (h : serialGetControl p.dev line fuel p.state = some (control, s)) :
    control &&& readWriteControl = p.readWriteBits ∧ s.lme = p.state.lme := by
  obtain ⟨⟨status, t⟩, hmoved, hrest⟩ := Option.bind_eq_some_iff.mp h
  cases hrest
  refine ⟨?_, (lme_receiveTransmit p.dev line hmoved).trans (lme_readMsr line p.state)⟩
  have hnone (bit : U32) (hbit : bit &&& readWriteControl = 0) (condition : Bool) :
      bitIf condition bit &&& readWriteControl = 0 := by
    rw [bitIf_and, hbit, bitIf_zero]
  have hkept (bit : U32) (hbit : bit &&& readWriteControl = bit) (condition : Bool) :
      bitIf condition bit &&& readWriteControl = bitIf condition bit := by
    rw [bitIf_and, hbit]
  have hzero (x : U32) : 0 ||| x = x := BitVec.zero_or
  have hzero' (x : U32) : x ||| 0 = x := BitVec.or_zero
  simp only [controlBits_cons, controlBits_nil, BitVec.and_or_distrib_right,
    hnone EFI_SERIAL_CLEAR_TO_SEND rfl, hnone EFI_SERIAL_DATA_SET_READY rfl,
    hnone EFI_SERIAL_RING_INDICATE rfl, hnone EFI_SERIAL_CARRIER_DETECT rfl,
    hnone EFI_SERIAL_DATA_TERMINAL_READY rfl, hnone EFI_SERIAL_REQUEST_TO_SEND rfl,
    hkept EFI_SERIAL_HARDWARE_LOOPBACK_ENABLE rfl,
    hkept EFI_SERIAL_HARDWARE_FLOW_CONTROL_ENABLE rfl,
    hnone EFI_SERIAL_OUTPUT_BUFFER_EMPTY rfl, hnone EFI_SERIAL_INPUT_BUFFER_EMPTY rfl,
    hkept EFI_SERIAL_SOFTWARE_LOOPBACK_ENABLE rfl, hzero, hzero']
  rw [readWriteBits_eq, SerialState.lme]
  exact congrArg _ (BitVec.or_comm _ _)

/-- The port that `SerialSetControl` leaves has the bits that were asked for. -/
theorem readWriteBits_setControl (control : U32) (reinstall : EfiStatus) (p : SerialPort)
    (h : ¬ control &&& ~~~settableControl ≠ 0) :
    (serialSetControl line control reinstall p).2.readWriteBits =
      control &&& readWriteControl := by
  have hlme (mcr : U8) (dtr rts value : Bool) :
      (putBit (putBit (putBit mcr Mcr.DtrC dtr) Mcr.Rts rts) Mcr.Lme value).getLsbD Mcr.Lme =
        value :=
    getLsbD_putBit_self _ _ (by decide)
  have hport : (serialSetControl line control reinstall p).2.state.lme =
        hasBits control EFI_SERIAL_HARDWARE_LOOPBACK_ENABLE ∧
      (serialSetControl line control reinstall p).2.dev.softwareLoopbackEnable =
        hasBits control EFI_SERIAL_SOFTWARE_LOOPBACK_ENABLE ∧
      (serialSetControl line control reinstall p).2.dev.hardwareFlowControl =
        hasBits control EFI_SERIAL_HARDWARE_FLOW_CONTROL_ENABLE := by
    rw [serialSetControl, if_neg h]
    dsimp only
    split
    · split <;> exact ⟨hlme _ _ _ _, rfl, rfl⟩
    · exact ⟨hlme _ _ _ _, rfl, rfl⟩
  rw [readWriteBits_eq, hport.1, hport.2.1, hport.2.2]
  have hhardware := bitIf_hasBits control 12
  have hsoftware := bitIf_hasBits control 13
  have hflow := bitIf_hasBits control 14
  rw [readWriteControl, BitVec.and_or_distrib_left, BitVec.and_or_distrib_left, BitVec.or_assoc]
  exact congrArg₂ _ hhardware (congrArg₂ _ hsoftware hflow)

theorem readWriteBits_setAttributes {a : SerialAttributes} {stackDivisor : U64}
    {reinstall status : EfiStatus} {p q : SerialPort}
    (h : portSetAttributes pcds line a stackDivisor reinstall p = some (status, q)) :
    q.readWriteBits = p.readWriteBits ∧
      q.dev.softwareLoopbackEnable = p.dev.softwareLoopbackEnable ∧
      q.dev.hardwareFlowControl = p.dev.hardwareFlowControl := by
  have hwrites (writes : List RegisterWrite) (r : SerialPort) :
      (writes.foldl writeRegister r).dev = r.dev ∧
        (writes.foldl writeRegister r).state = r.state := by
    induction writes generalizing r with
    | nil => exact ⟨rfl, rfl⟩
    | cons w writes ih =>
        have hfirst : (r.writeRegister w).dev = r.dev ∧ (r.writeRegister w).state = r.state := by
          rw [writeRegister]
          split_ifs <;> exact ⟨rfl, rfl⟩
        rw [List.foldl_cons, (ih _).1, (ih _).2]
        exact hfirst
  obtain ⟨run, hrun, hrest⟩ := Option.bind_eq_some_iff.mp h
  have hflags : run.dev.softwareLoopbackEnable = p.dev.softwareLoopbackEnable ∧
      run.dev.hardwareFlowControl = p.dev.hardwareFlowControl := by
    obtain ⟨v, -, hcases⟩ := Option.bind_eq_some_iff.mp hrun
    dsimp only at hcases
    split_ifs at hcases
    · cases hcases
      exact ⟨rfl, rfl⟩
    · cases hcases
      rw [applyAttributes]
      dsimp only
      split_ifs
      · exact ⟨rfl, rfl⟩
      · cases p.dev.installed <;> exact ⟨rfl, rfl⟩
    · cases hcases
      exact ⟨rfl, rfl⟩
  split at hrest
  · cases hrest
    exact ⟨readWriteBits_congr rfl hflags.1 hflags.2, hflags⟩
  · cases hrest
    rw [(hwrites _ _).1]
    refine ⟨readWriteBits_congr ?_ ?_ ?_, hflags⟩
    · rw [(hwrites _ _).2]
      exact lme_flush p.dev line p.state
    · rw [(hwrites _ _).1]
      exact hflags.1
    · rw [(hwrites _ _).1]
      exact hflags.2

theorem readWriteBits_without_lme (p : SerialPort) :
    p.readWriteBits &&&
        (EFI_SERIAL_SOFTWARE_LOOPBACK_ENABLE ||| EFI_SERIAL_HARDWARE_FLOW_CONTROL_ENABLE) =
      bitIf p.dev.softwareLoopbackEnable EFI_SERIAL_SOFTWARE_LOOPBACK_ENABLE |||
        bitIf p.dev.hardwareFlowControl EFI_SERIAL_HARDWARE_FLOW_CONTROL_ENABLE := by
  rw [readWriteBits_eq]
  cases p.state.lme <;> cases p.dev.softwareLoopbackEnable <;> cases p.dev.hardwareFlowControl <;>
    rfl

theorem readWriteBits_reset {stackDivisor : U64}
    {reinstallAttributes reinstallControl status : EfiStatus} {p q : SerialPort}
    (h : serialReset pcds line stackDivisor reinstallAttributes reinstallControl p =
      some (status, q)) :
    q.readWriteBits = p.readWriteBits &&&
      (EFI_SERIAL_SOFTWARE_LOOPBACK_ENABLE ||| EFI_SERIAL_HARDWARE_FLOW_CONTROL_ENABLE) := by
  rw [readWriteBits_without_lme]
  have hregisters (r : SerialPort) : (resetRegisters r).dev = r.dev ∧
      (resetRegisters r).state.lme = false := by
    have hwrite (x : SerialPort) (w : RegisterWrite) :
        (x.writeRegister w).dev = x.dev ∧ (x.writeRegister w).state = x.state := by
      rw [writeRegister]
      split_ifs <;> exact ⟨rfl, rfl⟩
    rw [resetRegisters, (hwrite _ _).1, (hwrite _ _).1, (hwrite _ _).2, (hwrite _ _).2]
    refine ⟨?_, ?_⟩
    · rw [clearModemControl, (hwrite _ _).1, disableInterrupts, (hwrite _ _).1, clearDlab,
        (hwrite _ _).1]
    · exact getLsbD_putBit_self _ _ (by decide)
  obtain ⟨⟨first, r⟩, hattributes, hrest⟩ := Option.bind_eq_some_iff.mp h
  obtain ⟨hbits, hsoftware, hhardware⟩ := readWriteBits_setAttributes pcds line hattributes
  have hcleared := hregisters (p.flush line)
  have hkept : r.readWriteBits =
      bitIf p.dev.softwareLoopbackEnable EFI_SERIAL_SOFTWARE_LOOPBACK_ENABLE |||
        bitIf p.dev.hardwareFlowControl EFI_SERIAL_HARDWARE_FLOW_CONTROL_ENABLE := by
    rw [hbits, readWriteBits_eq, hcleared.1, hcleared.2]
    exact BitVec.zero_or
  rw [hcleared.1] at hsoftware hhardware
  cases first with
  | error e =>
      cases hrest
      exact hkept
  | ok =>
      have hset : (serialSetControl line (resetControl r.dev) reinstallControl r).2.readWriteBits =
          bitIf p.dev.softwareLoopbackEnable EFI_SERIAL_SOFTWARE_LOOPBACK_ENABLE |||
            bitIf p.dev.hardwareFlowControl EFI_SERIAL_HARDWARE_FLOW_CONTROL_ENABLE := by
        have hcontrol : resetControl r.dev =
            bitIf p.dev.hardwareFlowControl EFI_SERIAL_HARDWARE_FLOW_CONTROL_ENABLE |||
              bitIf p.dev.softwareLoopbackEnable EFI_SERIAL_SOFTWARE_LOOPBACK_ENABLE := by
          rw [resetControl, controlBits_cons, controlBits_cons, controlBits_nil, hsoftware,
            hhardware]
          exact congrArg _ BitVec.or_zero
        rw [readWriteBits_setControl line _ reinstallControl r, hcontrol]
        · cases p.dev.softwareLoopbackEnable <;> cases p.dev.hardwareFlowControl <;> rfl
        · rw [hcontrol]
          cases p.dev.softwareLoopbackEnable <;> cases p.dev.hardwareFlowControl <;> decide
      dsimp only at hrest
      rcases hcall : serialSetControl line (resetControl r.dev) reinstallControl r with
        ⟨second, u⟩
      rw [hcall] at hset hrest
      cases second with
      | error e =>
          cases hrest
          exact hset
      | ok =>
          cases hrest
          exact (readWriteBits_congr rfl rfl rfl).trans hset

theorem readWriteBits_call (c : PortCall) (p : SerialPort) (answer : PortAnswer) (q : SerialPort)
    (h : p.Calls pcds line c answer q) : q.readWriteBits = bitsAfter p.readWriteBits c := by
  obtain ⟨fuel, h⟩ := h
  cases c with
  | reset stackDivisor reinstallAttributes reinstallControl =>
      obtain ⟨⟨status, r⟩, hcall, hrest⟩ := Option.bind_eq_some_iff.mp h
      cases hrest
      exact readWriteBits_reset pcds line hcall
  | setAttributes attributes stackDivisor reinstall =>
      obtain ⟨⟨status, r⟩, hcall, hrest⟩ := Option.bind_eq_some_iff.mp h
      cases hrest
      exact (readWriteBits_setAttributes pcds line hcall).1
  | setControl control reinstall =>
      have hq : (serialSetControl line control reinstall p).2 = q :=
        congrArg Prod.snd (Option.some.inj h)
      rw [bitsAfter, ← hq]
      by_cases hunsupported : control &&& ~~~settableControl ≠ 0
      · rw [if_pos hunsupported, serialSetControl, if_pos hunsupported]
      · rw [if_neg hunsupported]
        exact readWriteBits_setControl line control reinstall p hunsupported
  | getControl =>
      obtain ⟨⟨control, s⟩, hcall, hrest⟩ := Option.bind_eq_some_iff.mp h
      cases hrest
      exact readWriteBits_congr (getControl_reports line hcall).2 rfl rfl
  | write buffer bufferSize =>
      obtain ⟨r, hcall, hrest⟩ := Option.bind_eq_some_iff.mp h
      cases hrest
      exact readWriteBits_congr (lme_write p.dev line hcall) rfl rfl
  | read buffer bufferSize =>
      obtain ⟨r, hcall, hrest⟩ := Option.bind_eq_some_iff.mp h
      cases hrest
      exact readWriteBits_congr (lme_read p.dev line hcall) rfl rfl

end Port

/-- After any session, `GetControl` reports the bits that the calls of the session leave. -/
theorem serialSession_control (pcds : UartPcds) (line : SerialLine) (p q r : SerialPort)
    (calls : List PortCall) (control : U32)
    (h : Session.Trace (fun c s => s.Calls pcds line c) p calls q)
    (hget : q.Calls pcds line .getControl (.control control) r) :
    control &&& readWriteControl = calls.foldl bitsAfter p.readWriteBits := by
  obtain ⟨fuel, hcall⟩ := hget
  obtain ⟨⟨reported, s⟩, hget, hrest⟩ := Option.bind_eq_some_iff.mp hcall
  cases hrest
  rw [(getControl_reports line hget).1]
  exact h.view SerialPort.readWriteBits bitsAfter (readWriteBits_call pcds line)

/-- A line whose transmitter is always empty. -/
def idleLine : SerialLine := ⟨fun _ => 0x60, fun _ => 0, fun _ => 0, false⟩

def idlePort : SerialPort :=
  ⟨loopbackDev, resetSession.state, 0x03, 0, 1, 0, 0, 0, none⟩

def defaultPcds : UartPcds := ⟨115200, 1, 8, 1⟩

/-- Both loopbacks are set, and the reset keeps the one in software. -/
theorem serialSession_control_reset : ∃ q r control,
    SerialPort.Calls defaultPcds idleLine .getControl q (.control control) r ∧
      control &&& readWriteControl = EFI_SERIAL_SOFTWARE_LOOPBACK_ENABLE := by
  have hrun : ((((idlePort.call defaultPcds idleLine 1 (.setControl 0x3000 (.ok ()))).bind
      fun x => x.2.call defaultPcds idleLine 1 (.reset 0 (.ok ()) (.ok ()))).bind
      fun x => x.2.call defaultPcds idleLine 1 .getControl).map fun x => x.1) =
        some (.control 0x2300) := by
    decide
  obtain ⟨⟨answer, r⟩, hget, rfl⟩ := Option.map_eq_some_iff.mp hrun
  obtain ⟨⟨statusReset, q⟩, hreset, hget⟩ := Option.bind_eq_some_iff.mp hget
  obtain ⟨⟨statusSet, p⟩, hset, hreset⟩ := Option.bind_eq_some_iff.mp hreset
  refine ⟨q, r, 0x2300, ⟨1, hget⟩, ?_⟩
  exact serialSession_control defaultPcds idleLine idlePort q r
    [.setControl 0x3000 (.ok ()), .reset 0 (.ok ()) (.ok ())] 0x2300
    (.cons statusSet ⟨1, hset⟩ (.cons statusReset ⟨1, hreset⟩ (.nil q))) ⟨1, hget⟩

end FdtBusPkg
