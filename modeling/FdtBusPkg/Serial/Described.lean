import FdtBusPkg.Serial.ControlBits

/-!
The registers against the mode. Once attributes have been accepted with a known clock, the
latches hold a divisor that gives the rate of the mode, and the line control register encodes
its frame; no call of the protocol changes one without the other.
-/
namespace FdtBusPkg

/-- The parity that `ParEn`, `EvenPar` and `SticPar` stand for. -/
def parityOf (lcr : U8) : U32 :=
  if lcr.getLsbD 3 = false then NoParity
  else if lcr.getLsbD 5 then (if lcr.getLsbD 4 then SpaceParity else MarkParity)
  else if lcr.getLsbD 4 then EvenParity else OddParity

/-- The rate of the divisor is this one, or this one within the window that the driver computes
in 64 bits. -/
def BaudRate.Runs (clock divisor baud : Nat) : Prop :=
  baud = BaudRate.rate clock divisor ∨
    BaudRate.PercentAccepted (baud * 100 % 2 ^ 64 / BaudRate.rate clock divisor)

namespace SerialPort

def divisor (p : SerialPort) : Nat := p.dlm.toNat * 256 + p.dll.toNat

/-- The registers hold what the mode says, with the latches out of the way. -/
structure Described (p : SerialPort) : Prop where
  dlab : p.lcr.getLsbD Lcr.DLab = false
  dataBits : ((p.lcr &&& 0x03) + 5).setWidth 32 = p.dev.mode.dataBits
  parity : parityOf p.lcr = p.dev.mode.parity
  stopBits : p.lcr.getLsbD 2 = decide (p.dev.mode.stopBits ≠ OneStopBit)
  programmable : 1 ≤ p.divisor
  rate : BaudRate.Runs p.dev.clockRate.toNat p.divisor p.dev.mode.baudRate.toNat

/-- The same frame and divisor, in the registers and in the mode. -/
structure SameFrame (p q : SerialPort) : Prop where
  lcr : q.lcr = p.lcr
  dll : q.dll = p.dll
  dlm : q.dlm = p.dlm
  mode : q.dev.mode = p.dev.mode
  clockRate : q.dev.clockRate = p.dev.clockRate

theorem SameFrame.refl (p : SerialPort) : p.SameFrame p := ⟨rfl, rfl, rfl, rfl, rfl⟩

/-- The FIFOs and the modem control register are no part of the frame. -/
theorem SameFrame.ofState (p : SerialPort) (state : SerialState) :
    p.SameFrame { p with state } := ⟨rfl, rfl, rfl, rfl, rfl⟩

theorem SameFrame.trans {p q r : SerialPort} (h : p.SameFrame q) (h' : q.SameFrame r) :
    p.SameFrame r where
  lcr := h'.lcr.trans h.lcr
  dll := h'.dll.trans h.dll
  dlm := h'.dlm.trans h.dlm
  mode := h'.mode.trans h.mode
  clockRate := h'.clockRate.trans h.clockRate

theorem SameFrame.described {p q : SerialPort} (h : p.SameFrame q) (hp : p.Described) :
    q.Described := by
  have hdivisor : q.divisor = p.divisor := by rw [divisor, divisor, h.dll, h.dlm]
  refine ⟨?_, ?_, ?_, ?_, ?_, ?_⟩
  · rw [h.lcr]
    exact hp.dlab
  · rw [h.lcr, h.mode]
    exact hp.dataBits
  · rw [h.lcr, h.mode]
    exact hp.parity
  · rw [h.lcr, h.mode]
    exact hp.stopBits
  · rw [hdivisor]
    exact hp.programmable
  · rw [hdivisor, h.mode, h.clockRate]
    exact hp.rate

end SerialPort

section Frame

variable (lcr : U8)

theorem getLsbD_lcrDataBits (dataBits : U8) (i : Nat)
    (hhigh : (~~~(0x03 : U8)).getLsbD i = true) (hlow : (0x03 : U8).getLsbD i = false) :
    (lcrDataBits lcr dataBits).getLsbD i = lcr.getLsbD i := by
  rw [lcrDataBits, BitVec.getLsbD_or, BitVec.getLsbD_and, BitVec.getLsbD_and, hhigh, hlow,
    Bool.and_true, Bool.and_false, Bool.or_false]

theorem lcrDataBits_and (dataBits : U8) :
    lcrDataBits lcr dataBits &&& 0x03 = (dataBits - 5) &&& 0x03 := by
  have hnone : ~~~(0x03 : U8) &&& 0x03 = 0 := by decide
  have hall : (0x03 : U8) &&& 0x03 = 0x03 := by decide
  rw [lcrDataBits, BitVec.and_or_distrib_right, BitVec.and_assoc, hnone, BitVec.and_assoc, hall]
  exact (congrArg (· ||| _) BitVec.and_zero).trans BitVec.zero_or

theorem getLsbD_lcrStopBits (stopBits : U32) (i : Nat) (hi : i ≠ 2) :
    (lcrStopBits lcr stopBits).getLsbD i = lcr.getLsbD i := by
  rw [lcrStopBits]
  split_ifs
  · exact getLsbD_putBit_of_ne _ _ hi
  · exact getLsbD_putBit_of_ne _ _ hi
  · rfl

theorem getLsbD_lcrParity (parity : U32) (i : Nat) (h3 : i ≠ 3) (h4 : i ≠ 4) (h5 : i ≠ 5) :
    (lcrParity lcr parity).getLsbD i = lcr.getLsbD i := by
  have hput (parEn evenPar sticPar : Bool) :
      (putBit (putBit (putBit lcr 3 parEn) 4 evenPar) 5 sticPar).getLsbD i = lcr.getLsbD i := by
    rw [getLsbD_putBit_of_ne _ _ h5, getLsbD_putBit_of_ne _ _ h4, getLsbD_putBit_of_ne _ _ h3]
  rw [lcrParity]
  dsimp only
  split_ifs <;> first | exact hput _ _ _ | rfl

theorem parityOf_lcrParity (parity : U32) (hlow : ¬ parity < NoParity)
    (hhigh : ¬ parity > SpaceParity) : parityOf (lcrParity lcr parity) = parity := by
  have hput (parEn evenPar sticPar : Bool) :
      parityOf (putBit (putBit (putBit lcr 3 parEn) 4 evenPar) 5 sticPar) =
        if parEn = false then NoParity
        else if sticPar then (if evenPar then SpaceParity else MarkParity)
        else if evenPar then EvenParity else OddParity := by
    rw [parityOf, getLsbD_putBit_self _ _ (by decide),
      getLsbD_putBit_of_ne _ _ (by decide : 3 ≠ 5), getLsbD_putBit_of_ne _ _ (by decide : 3 ≠ 4),
      getLsbD_putBit_self _ _ (by decide), getLsbD_putBit_of_ne _ _ (by decide : 4 ≠ 5),
      getLsbD_putBit_self _ _ (by decide)]
  rw [lcrParity]
  dsimp only
  split_ifs with hno heven hodd hspace hmark
  · rw [hput, hno]
    rfl
  · rw [hput, heven]
    rfl
  · rw [hput, hodd]
    rfl
  · rw [hput, hspace]
    rfl
  · rw [hput, hmark]
    rfl
  · exfalso
    have hone : NoParity.toNat = 1 := rfl
    have hfive : SpaceParity.toNat = 5 := rfl
    rw [BitVec.lt_def] at hlow
    rw [gt_iff_lt, BitVec.lt_def] at hhigh
    have hcases : parity.toNat = 1 ∨ parity.toNat = 2 ∨ parity.toNat = 3 ∨ parity.toNat = 4 ∨
        parity.toNat = 5 := by omega
    rcases hcases with h | h | h | h | h
    · exact hno (BitVec.eq_of_toNat_eq h)
    · exact heven (BitVec.eq_of_toNat_eq h)
    · exact hodd (BitVec.eq_of_toNat_eq h)
    · exact hmark (BitVec.eq_of_toNat_eq h)
    · exact hspace (BitVec.eq_of_toNat_eq h)

theorem parityOf_congr (lcr lcr' : U8) (h3 : lcr.getLsbD 3 = lcr'.getLsbD 3)
    (h4 : lcr.getLsbD 4 = lcr'.getLsbD 4) (h5 : lcr.getLsbD 5 = lcr'.getLsbD 5) :
    parityOf lcr = parityOf lcr' := by
  rw [parityOf, parityOf, h3, h4, h5]

theorem getLsbD_lcrStopBits_self (stopBits : U32) (hlow : ¬ stopBits < OneStopBit)
    (hhigh : ¬ stopBits > TwoStopBits) :
    (lcrStopBits lcr stopBits).getLsbD 2 = decide (stopBits ≠ OneStopBit) := by
  rw [lcrStopBits]
  split_ifs with hone hmore
  · rw [getLsbD_putBit_self _ _ (by decide), decide_eq_false (not_not_intro hone)]
  · rw [getLsbD_putBit_self _ _ (by decide), decide_eq_true hone]
  · exfalso
    have hfirst : OneStopBit.toNat = 1 := rfl
    have hthird : TwoStopBits.toNat = 3 := rfl
    rw [BitVec.lt_def] at hlow
    rw [gt_iff_lt, BitVec.lt_def] at hhigh
    have hcases : stopBits.toNat = 1 ∨ stopBits.toNat = 2 ∨ stopBits.toNat = 3 := by omega
    rcases hcases with h | h | h
    · exact hone (BitVec.eq_of_toNat_eq h)
    · exact hmore (.inl (BitVec.eq_of_toNat_eq h))
    · exact hmore (.inr (BitVec.eq_of_toNat_eq h))

theorem dataBits_decode (dataBits : U8) (hlow : ¬ dataBits < 5) (hhigh : ¬ dataBits > 8) :
    ((dataBits - 5) &&& 0x03) + 5 = dataBits := by
  have hfive : (5 : U8).toNat = 5 := rfl
  have height : (8 : U8).toNat = 8 := rfl
  rw [BitVec.lt_def] at hlow
  rw [gt_iff_lt, BitVec.lt_def] at hhigh
  have hcases : dataBits.toNat = 5 ∨ dataBits.toNat = 6 ∨ dataBits.toNat = 7 ∨
      dataBits.toNat = 8 := by omega
  rcases hcases with h | h | h | h
  · rw [show dataBits = 5 from BitVec.eq_of_toNat_eq h]
    decide
  · rw [show dataBits = 6 from BitVec.eq_of_toNat_eq h]
    decide
  · rw [show dataBits = 7 from BitVec.eq_of_toNat_eq h]
    decide
  · rw [show dataBits = 8 from BitVec.eq_of_toNat_eq h]
    decide

end Frame

section Attributes

open SerialPort

variable (pcds : UartPcds) (line : SerialLine)

theorem runs_of_outcome {clock baud d actual : Nat}
    (h : BaudRate.outcome clock baud = some (d, actual)) :
    1 ≤ d ∧ d ≤ 65535 ∧ BaudRate.Runs clock d actual := by
  rw [BaudRate.outcome] at h
  split_ifs at h with hrefused hpercent hbelow hlast
  · cases h
    exact ⟨BaudRate.one_le_divisor, BaudRate.divisor_le fun hbig => hrefused (.inl hbig),
      .inr hpercent⟩
  · cases h
    exact ⟨BaudRate.one_le_divisor, BaudRate.divisor_le fun hbig => hrefused (.inl hbig),
      .inl rfl⟩
  · cases h
    have hle := BaudRate.divisor_le fun hbig => hrefused (.inl hbig)
    exact ⟨Nat.le_add_left 1 _, by omega, .inl rfl⟩

/-- With a known clock, accepted settings are well formed and have an outcome. -/
theorem outcome_of_accepted {clockRate : U32} {s : UartSettings} {v : UartVerdict}
    (hclock : clockRate ≠ 0) (hverify : verifyUartParameters clockRate s true true = some v)
    (haccepted : v.accepted = true) :
    ¬ s.Malformed ∧ ∃ d actual,
      BaudRate.outcome clockRate.toNat s.baudRate.toNat = some (d, actual) ∧
        v.divisor = some (BitVec.ofNat 64 d) ∧
        v.actualBaudRate = some (BitVec.ofNat 64 actual) := by
  by_cases hformat : s.Malformed
  · rw [verify_of_malformed clockRate s true true hformat] at hverify
    cases hverify
    cases haccepted
  by_cases hshifted : s.baudRate.toNat * 16 % 2 ^ 64 = 0
  · rw [verify_divides_by_zero clockRate s true true hformat hclock hshifted] at hverify
    cases hverify
  refine ⟨hformat, ?_⟩
  rw [verifyUartParameters_eq clockRate s true true hformat hclock hshifted] at hverify
  obtain rfl := Option.some.inj hverify
  cases houtcome : BaudRate.outcome clockRate.toNat s.baudRate.toNat with
  | none =>
      rw [houtcome] at haccepted
      cases haccepted
  | some pair => exact ⟨pair.1, pair.2, rfl, rfl, rfl⟩

theorem writeRegister_lcr (q : SerialPort) (value : U8) :
    q.writeRegister ⟨SERIAL_REGISTER_LCR, value⟩ = { q with lcr := value } := by
  rw [writeRegister]
  exact if_pos rfl

theorem writeRegister_latches (q : SerialPort) (value : U8) (h : q.lcr.getLsbD Lcr.DLab = true) :
    q.writeRegister ⟨SERIAL_REGISTER_DLL, value⟩ = { q with dll := value } ∧
      q.writeRegister ⟨SERIAL_REGISTER_DLM, value⟩ = { q with dlm := value } := by
  have hlcr : ¬ SERIAL_REGISTER_DLL = SERIAL_REGISTER_LCR := by decide
  have hfcr : ¬ SERIAL_REGISTER_DLL = SERIAL_REGISTER_FCR := by decide
  have hscr : ¬ SERIAL_REGISTER_DLL = SERIAL_REGISTER_SCR := by decide
  have hlcr' : ¬ SERIAL_REGISTER_DLM = SERIAL_REGISTER_LCR := by decide
  have hfcr' : ¬ SERIAL_REGISTER_DLM = SERIAL_REGISTER_FCR := by decide
  have hscr' : ¬ SERIAL_REGISTER_DLM = SERIAL_REGISTER_SCR := by decide
  have hdll : ¬ SERIAL_REGISTER_DLM = SERIAL_REGISTER_DLL := by decide
  constructor
  · rw [writeRegister, if_neg hlcr, if_neg hfcr, if_neg hscr, if_pos h]
    exact if_pos rfl
  · rw [writeRegister, if_neg hlcr', if_neg hfcr', if_neg hscr', if_pos h, if_neg hdll]
    exact if_pos rfl

theorem foldl_attributeWrites (p : SerialPort) (lcr : U8) (uart : UartSettings) (divisor : U64) :
    (attributeWrites lcr uart divisor).foldl writeRegister p =
      { p with
        lcr := lcrDataBits (lcrStopBits (lcrParity (putBit (putBit lcr 7 true) 7 false)
          uart.parity) uart.stopBits) uart.dataBits
        dll := divisor.setWidth 8
        dlm := (divisor.setWidth 16 >>> 8).setWidth 8 } := by
  have hopen : (putBit lcr 7 true).getLsbD Lcr.DLab = true :=
    getLsbD_putBit_self lcr true (by decide)
  rw [attributeWrites, divisorWrites]
  simp only [List.cons_append, List.nil_append, List.foldl_cons, List.foldl_nil]
  rw [writeRegister_lcr p, (writeRegister_latches { p with lcr := putBit lcr 7 true } _ hopen).1,
    (writeRegister_latches
      { p with lcr := putBit lcr 7 true, dll := divisor.setWidth 8 } _ hopen).2,
    writeRegister_lcr]

theorem divisor_latches {d : Nat} (hd : d ≤ 65535) {dev : SerialDev} {state : SerialState}
    {lcr ier fcr scr : U8} {map : Option U32} :
    divisor ⟨dev, state, lcr, ier, (BitVec.ofNat 64 d).setWidth 8,
      ((BitVec.ofNat 64 d).setWidth 16 >>> 8).setWidth 8, fcr, scr, map⟩ = d := by
  have hword : (BitVec.ofNat 64 d).toNat = d := by
    rw [BitVec.toNat_ofNat]
    exact Nat.mod_eq_of_lt (by omega)
  rw [divisor]
  simp only [BitVec.toNat_setWidth, BitVec.toNat_ushiftRight, hword, Nat.shiftRight_eq_div_pow]
  omega

theorem applyAttributes_mode (dev : SerialDev) (a : SerialAttributes) (reinstall : EfiStatus) :
    (applyAttributes dev a reinstall).2.mode =
        ⟨a.timeout, a.uart.baudRate, a.receiveFifoDepth, a.uart.dataBits.setWidth 32,
          a.uart.parity, a.uart.stopBits⟩ ∧
      (applyAttributes dev a reinstall).2.clockRate = dev.clockRate := by
  rw [applyAttributes]
  dsimp only
  split_ifs
  · exact ⟨rfl, rfl⟩
  · cases dev.installed <;> exact ⟨rfl, rfl⟩

theorem frame_of_attributeWrites (lcr : U8) {uart : UartSettings} (h : ¬ uart.Malformed) :
    let final := lcrDataBits (lcrStopBits (lcrParity (putBit (putBit lcr 7 true) 7 false)
      uart.parity) uart.stopBits) uart.dataBits
    final.getLsbD Lcr.DLab = false ∧ (final &&& 0x03) + 5 = uart.dataBits ∧
      parityOf final = uart.parity ∧
      final.getLsbD 2 = decide (uart.stopBits ≠ OneStopBit) := by
  simp only [UartSettings.Malformed, not_or] at h
  obtain ⟨hdataLow, hdataHigh, hparityLow, hparityHigh, hstopLow, hstopHigh, -, -⟩ := h
  have habove (lcr' : U8) (i : Nat) (hi : i = 2 ∨ i = 3 ∨ i = 4 ∨ i = 5 ∨ i = 7) :
      (lcrDataBits lcr' uart.dataBits).getLsbD i = lcr'.getLsbD i := by
    rcases hi with rfl | rfl | rfl | rfl | rfl <;>
      exact getLsbD_lcrDataBits _ _ _ (by decide) (by decide)
  refine ⟨?_, ?_, ?_, ?_⟩
  · rw [Lcr.DLab, habove _ _ (by decide), getLsbD_lcrStopBits _ _ _ (by decide),
      getLsbD_lcrParity _ _ _ (by decide) (by decide) (by decide),
      getLsbD_putBit_self _ _ (by decide)]
  · rw [lcrDataBits_and]
    exact dataBits_decode _ hdataLow hdataHigh
  · have hbit (lcr' : U8) (i : Nat) (hi : i = 3 ∨ i = 4 ∨ i = 5) :
        (lcrDataBits (lcrStopBits lcr' uart.stopBits) uart.dataBits).getLsbD i =
          lcr'.getLsbD i := by
      rw [habove _ _ (by omega), getLsbD_lcrStopBits _ _ _ (by omega)]
    rw [parityOf_congr _ _ (hbit _ 3 (by decide)) (hbit _ 4 (by decide)) (hbit _ 5 (by decide))]
    exact parityOf_lcrParity _ _ hparityLow hparityHigh
  · rw [habove _ _ (by decide)]
    exact getLsbD_lcrStopBits_self _ _ hstopLow hstopHigh

/-- Settings written to the port of a device whose mode says the same. -/
theorem described_of_writes (p : SerialPort) (lcr : U8) {uart : UartSettings} {d : Nat}
    (hformat : ¬ uart.Malformed) (hpos : 1 ≤ d) (hmax : d ≤ 65535)
    (hruns : BaudRate.Runs p.dev.clockRate.toNat d uart.baudRate.toNat)
    (hbaud : p.dev.mode.baudRate = uart.baudRate)
    (hdata : p.dev.mode.dataBits = uart.dataBits.setWidth 32)
    (hparity : p.dev.mode.parity = uart.parity) (hstop : p.dev.mode.stopBits = uart.stopBits) :
    ((attributeWrites lcr uart (BitVec.ofNat 64 d)).foldl writeRegister p).Described := by
  rw [foldl_attributeWrites]
  obtain ⟨hdlab, hbits, hpar, hstopBit⟩ := frame_of_attributeWrites lcr hformat
  refine ⟨hdlab, ?_, hpar.trans hparity.symm, ?_, ?_, ?_⟩
  · rw [hdata]
    exact congrArg (BitVec.setWidth 32) hbits
  · rw [hstop]
    exact hstopBit
  · rw [divisor_latches hmax]
    exact hpos
  · rw [divisor_latches hmax, hbaud]
    exact hruns

/-- Attributes are refused and nothing changes, or the registers and the mode agree. -/
theorem described_setAttributes {a : SerialAttributes} {stackDivisor : U64}
    {reinstall status : EfiStatus} {p q : SerialPort} (hclock : p.dev.clockRate ≠ 0)
    (h : portSetAttributes pcds line a stackDivisor reinstall p = some (status, q)) :
    q.dev.clockRate = p.dev.clockRate ∧
      ((status = .error .invalidParameter ∧ q = p) ∨ q.Described) := by
  obtain ⟨run, hrun, hrest⟩ := Option.bind_eq_some_iff.mp h
  obtain ⟨v, hverify, hcases⟩ := Option.bind_eq_some_iff.mp hrun
  dsimp only at hcases
  split_ifs at hcases with hrefused hrange
  · cases hcases
    cases hrest
    exact ⟨rfl, .inl ⟨rfl, rfl⟩⟩
  · obtain ⟨hformat, d, actual, houtcome, hdivisor, hactual⟩ :=
      outcome_of_accepted hclock hverify (Bool.not_eq_false _ ▸ hrefused)
    obtain ⟨hpos, hmax, hruns⟩ := runs_of_outcome houtcome
    have hbound : actual < 2 ^ 64 := (outcome_lt p.dev.clockRate.isLt
      (a.withDefaults pcds p.dev).uart.baudRate.isLt houtcome).2
    have hrate : (BitVec.ofNat 64 actual).toNat = actual := by
      rw [BitVec.toNat_ofNat]
      exact Nat.mod_eq_of_lt hbound
    rw [hdivisor, hactual, Option.getD_some, Option.getD_some] at hcases
    generalize hsettings : SerialAttributes.withDefaults pcds p.dev a = settings at *
    obtain rfl := Option.some.inj hcases
    have hwritten := Option.some.inj hrest
    obtain rfl := (congrArg Prod.snd hwritten).symm
    generalize huart : { settings.uart with baudRate := BitVec.ofNat 64 actual } = uart at *
    obtain ⟨hmode, hkept⟩ := applyAttributes_mode p.dev { settings with uart } reinstall
    generalize (applyAttributes p.dev { settings with uart } reinstall).2 = dev at *
    rw [← hkept] at hruns
    have hbaud : uart.baudRate.toNat = actual := by
      rw [← huart]
      exact hrate
    have hframe : ¬ uart.Malformed := by
      rw [← huart]
      exact hformat
    have hdescribed := described_of_writes { p.flush line with dev } p.lcr hframe hpos hmax
      (by rw [hbaud]; exact hruns) (by rw [hmode]) (by rw [hmode]) (by rw [hmode]) (by rw [hmode])
    have hdev := congrArg SerialPort.dev (foldl_attributeWrites { p.flush line with dev }
      p.lcr uart (BitVec.ofNat 64 d))
    exact ⟨(congrArg SerialDev.clockRate hdev).trans hkept, .inr hdescribed⟩
  · cases hcases
    cases hrest
    exact ⟨rfl, .inl ⟨rfl, rfl⟩⟩

theorem sameFrame_setControl (control : U32) (reinstall : EfiStatus) (p : SerialPort) :
    p.SameFrame (serialSetControl line control reinstall p).2 := by
  rw [serialSetControl]
  by_cases hunsupported : control &&& ~~~settableControl ≠ 0
  · rw [if_pos hunsupported]
    exact .refl p
  · rw [if_neg hunsupported]
    dsimp only
    split
    · split <;> exact ⟨rfl, rfl, rfl, rfl, rfl⟩
    · exact ⟨rfl, rfl, rfl, rfl, rfl⟩

theorem putBit_of_clear {data : U8} {bit : Nat} (h : data.getLsbD bit = false) :
    putBit data bit false = data := by
  refine BitVec.eq_of_getLsbD_eq fun i hi => ?_
  rw [getLsbD_putBit]
  split_ifs with hself
  · rw [hself.1, h]
  · rfl

theorem sameFrame_writeRegister (p : SerialPort) {w : RegisterWrite}
    (hdlab : p.lcr.getLsbD Lcr.DLab = false) (hw : w.register ≠ SERIAL_REGISTER_LCR) :
    p.SameFrame (p.writeRegister w) := by
  have hlatches : ¬ p.lcr.getLsbD Lcr.DLab = true := hdlab.symm ▸ Bool.false_ne_true
  rw [writeRegister, if_neg hw, if_neg hlatches]
  split_ifs <;> exact ⟨rfl, rfl, rfl, rfl, rfl⟩

/-- A reset touches neither the frame nor the latches of a port with `DLAB` clear. -/
theorem sameFrame_resetRegisters (p : SerialPort) (h : p.lcr.getLsbD Lcr.DLab = false) :
    p.SameFrame (resetRegisters p) := by
  have hclear : clearDlab p = p := by
    rw [clearDlab, writeRegister_lcr, putBit_of_clear h]
  have hwrite {q : SerialPort} (hq : p.SameFrame q) (w : RegisterWrite)
      (hw : w.register = SERIAL_REGISTER_IER ∨ w.register = SERIAL_REGISTER_FCR ∨
        w.register = SERIAL_REGISTER_SCR) : p.SameFrame (q.writeRegister w) := by
    have hlcr : w.register ≠ SERIAL_REGISTER_LCR := by
      rcases hw with hw | hw | hw <;> rw [hw] <;> decide
    refine hq.trans (sameFrame_writeRegister q ?_ hlcr)
    rw [hq.lcr]
    exact h
  rw [resetRegisters, hclear]
  have hfifo : p.SameFrame
      ((disableInterrupts p).writeRegister ⟨SERIAL_REGISTER_FCR, 0⟩) :=
    hwrite (hwrite (.refl p) ⟨SERIAL_REGISTER_IER, _⟩ (.inl rfl)) _ (.inr (.inl rfl))
  have hmodem : p.SameFrame
      (clearModemControl ((disableInterrupts p).writeRegister ⟨SERIAL_REGISTER_FCR, 0⟩)) :=
    hfifo.trans (.ofState _ _)
  exact hwrite (hwrite hmodem ⟨SERIAL_REGISTER_SCR, 0⟩ (.inr (.inr rfl)))
    ⟨SERIAL_REGISTER_FCR, _⟩ (.inr (.inl rfl))

theorem described_reset {stackDivisor : U64}
    {reinstallAttributes reinstallControl status : EfiStatus} {p q : SerialPort}
    (hclock : p.dev.clockRate ≠ 0) (hp : p.Described)
    (h : serialReset pcds line stackDivisor reinstallAttributes reinstallControl p =
      some (status, q)) : q.dev.clockRate = p.dev.clockRate ∧ q.Described := by
  obtain ⟨⟨first, r⟩, hattributes, hrest⟩ := Option.bind_eq_some_iff.mp h
  have hregisters : p.SameFrame (resetRegisters (p.flush line)) :=
    .trans (.ofState p _) (sameFrame_resetRegisters _ hp.dlab)
  have hr : r.dev.clockRate = p.dev.clockRate ∧ r.Described := by
    rw [← hregisters.clockRate] at hclock ⊢
    obtain ⟨hkept, ⟨-, rfl⟩ | hdescribed⟩ := described_setAttributes pcds line hclock hattributes
    · exact ⟨rfl, hregisters.described hp⟩
    · exact ⟨hkept, hdescribed⟩
  cases first with
  | error e =>
      cases hrest
      exact hr
  | ok =>
      have hset := sameFrame_setControl line (resetControl r.dev) reinstallControl r
      dsimp only at hrest
      rcases hcall : serialSetControl line (resetControl r.dev) reinstallControl r with
        ⟨second, u⟩
      rw [hcall] at hset hrest
      have hu : u.dev.clockRate = p.dev.clockRate ∧ u.Described :=
        ⟨hset.clockRate.trans hr.1, hset.described hr.2⟩
      cases second with
      | error e =>
          cases hrest
          exact hu
      | ok =>
          cases hrest
          exact ⟨hu.1, (SameFrame.ofState u _).described hu.2⟩

/-- A known clock, with registers that hold what the mode says. -/
def Configured (p : SerialPort) : Prop := p.dev.clockRate ≠ 0 ∧ p.Described

theorem configured_call (c : PortCall) (p : SerialPort) (answer : PortAnswer) (q : SerialPort)
    (hp : Configured p) (h : p.Calls pcds line c answer q) : Configured q := by
  obtain ⟨fuel, h⟩ := h
  cases c with
  | reset stackDivisor reinstallAttributes reinstallControl =>
      obtain ⟨⟨status, r⟩, hcall, hrest⟩ := Option.bind_eq_some_iff.mp h
      cases hrest
      obtain ⟨hkept, hdescribed⟩ := described_reset pcds line hp.1 hp.2 hcall
      exact ⟨hkept ▸ hp.1, hdescribed⟩
  | setAttributes attributes stackDivisor reinstall =>
      obtain ⟨⟨status, r⟩, hcall, hrest⟩ := Option.bind_eq_some_iff.mp h
      cases hrest
      obtain ⟨hkept, ⟨-, rfl⟩ | hdescribed⟩ := described_setAttributes pcds line hp.1 hcall
      · exact hp
      · exact ⟨hkept ▸ hp.1, hdescribed⟩
  | setControl control reinstall =>
      have hframe := sameFrame_setControl line control reinstall p
      rw [show (serialSetControl line control reinstall p).2 = q from
        congrArg Prod.snd (Option.some.inj h)] at hframe
      exact ⟨hframe.clockRate ▸ hp.1, hframe.described hp.2⟩
  | getControl =>
      obtain ⟨⟨control, s⟩, -, hrest⟩ := Option.bind_eq_some_iff.mp h
      cases hrest
      exact ⟨hp.1, (SameFrame.ofState p _).described hp.2⟩
  | write buffer bufferSize =>
      obtain ⟨r, -, hrest⟩ := Option.bind_eq_some_iff.mp h
      cases hrest
      exact ⟨hp.1, (SameFrame.ofState p _).described hp.2⟩
  | read buffer bufferSize =>
      obtain ⟨r, -, hrest⟩ := Option.bind_eq_some_iff.mp h
      cases hrest
      exact ⟨hp.1, (SameFrame.ofState p _).described hp.2⟩

end Attributes

end FdtBusPkg
