import FdtBusPkg.Base

/-!
The check of the settings of a serial port, which computes the divisor of the clock. Its
rounding is exact, but it shifts and multiplies the requested rate in 64 bits and accepts a
lower rate also for a caller that cannot be told so.
-/
namespace FdtBusPkg

def NoParity : U32 := 1
def EvenParity : U32 := 2
def OddParity : U32 := 3
def MarkParity : U32 := 4
def SpaceParity : U32 := 5

def OneStopBit : U32 := 1
def OneFiveStopBits : U32 := 2
def TwoStopBits : U32 := 3

def MAX_UINT16 : U64 := 0xFFFF

structure UartSettings where
  baudRate : U64
  dataBits : U8
  parity : U32
  stopBits : U32
  deriving DecidableEq, Repr

/-- The settings that are refused for their format. -/
def UartSettings.Malformed (s : UartSettings) : Prop :=
  s.dataBits < 5 ∨ s.dataBits > 8 ∨ s.parity < NoParity ∨ s.parity > SpaceParity ∨
    s.stopBits < OneStopBit ∨ s.stopBits > TwoStopBits ∨
    (s.dataBits = 5 ∧ s.stopBits = TwoStopBits) ∨
    (s.dataBits ≥ 6 ∧ s.dataBits ≤ 8 ∧ s.stopBits = OneFiveStopBits)

instance (s : UartSettings) : Decidable s.Malformed := inferInstanceAs (Decidable (_ ∨ _))

/-- The result of `VerifyUartParameters` with what it stores through its pointers. -/
structure UartVerdict where
  accepted : Bool
  divisor : Option U64
  actualBaudRate : Option U64
  deriving DecidableEq, Repr

namespace UartVerdict

def refuse : UartVerdict := ⟨false, none, none⟩

/-- Store what the caller has supplied pointers for. -/
def accept (wantsDivisor wantsActual : Bool) (divisor actualBaudRate : U64) : UartVerdict :=
  ⟨true, if wantsDivisor then some divisor else none,
    if wantsActual then some actualBaudRate else none⟩

end UartVerdict

/-- A division that does not return for a divisor of zero. -/
def checkedDiv {w : Nat} (dividend divisor : BitVec w) : Option (BitVec w) :=
  if divisor = 0 then none else some (dividend / divisor)

/-- `DivU64x64Remainder`. -/
def divU64x64Remainder (dividend divisor : U64) : Option (U64 × U64) :=
  if divisor = 0 then none else some (dividend / divisor, dividend % divisor)

/-- `ClockRate / ((UINT16)ComputedDivisor << 4)`. -/
def computeBaudRate (clockRate : U32) (computedDivisor : U64) : Option U32 :=
  checkedDiv clockRate ((computedDivisor.setWidth 16).setWidth 32 <<< 4)

/-- `VerifyUartParameters`; `none` when it divides by zero. -/
def verifyUartParameters (clockRate : U32) (s : UartSettings)
    (wantsDivisor wantsActual : Bool) : Option UartVerdict :=
  if s.Malformed then
    some .refuse
  else if clockRate = 0 then
    some ⟨true, none, none⟩
  else do
    let (quotient, remainder) ← divU64x64Remainder (clockRate.setWidth 64) (s.baudRate <<< 4)
    let rounded := if remainder ≥ s.baudRate <<< 3 then quotient + 1 else quotient
    if rounded > MAX_UINT16 then
      some .refuse
    else
      let computedDivisor := if rounded = 0 then 1 else rounded
      let computedBaudRate ← computeBaudRate clockRate computedDivisor
      if computedBaudRate = 0 then
        some .refuse
      else
        let percent ← checkedDiv (s.baudRate * 100) (computedBaudRate.setWidth 64)
        if percent ≥ 96 ∧ percent ≤ 104 then
          some (.accept wantsDivisor wantsActual computedDivisor s.baudRate)
        else if computedBaudRate.setWidth 64 < s.baudRate then
          some (.accept wantsDivisor wantsActual computedDivisor (computedBaudRate.setWidth 64))
        else if computedDivisor = MAX_UINT16 then
          some .refuse
        else
          let computedDivisor := computedDivisor + 1
          let computedBaudRate ← computeBaudRate clockRate computedDivisor
          if computedBaudRate = 0 then
            some .refuse
          else
            some (.accept wantsDivisor wantsActual computedDivisor
              (computedBaudRate.setWidth 64))

/-!
The check in unbounded arithmetic. What is left of the machine arithmetic is where the
shifted rates and the percentage wrap.
-/
namespace BaudRate

/-- The divisor that `VerifyUartParameters` rounds to. -/
def roundedDivisor (clock baud : Nat) : Nat :=
  clock / (baud * 16 % 2 ^ 64) +
    if baud * 8 % 2 ^ 64 ≤ clock % (baud * 16 % 2 ^ 64) then 1 else 0

def divisor (clock baud : Nat) : Nat := max 1 (roundedDivisor clock baud)

def rate (clock divisor : Nat) : Nat := clock / (16 * divisor)

def PercentAccepted (percent : Nat) : Prop := 96 ≤ percent ∧ percent ≤ 104

instance (percent : Nat) : Decidable (PercentAccepted percent) :=
  inferInstanceAs (Decidable (_ ∧ _))

/-- The percentage that the first divisor is judged by. -/
def percent (clock baud : Nat) : Nat :=
  baud * 100 % 2 ^ 64 / rate clock (divisor clock baud)

/-- The divisor and the actual rate of settings that are accepted. -/
def outcome (clock baud : Nat) : Option (Nat × Nat) :=
  let first := divisor clock baud
  if roundedDivisor clock baud > 65535 ∨ rate clock first = 0 then
    none
  else if PercentAccepted (percent clock baud) then
    some (first, baud)
  else if rate clock first < baud then
    some (first, rate clock first)
  else if first = 65535 ∨ rate clock (first + 1) = 0 then
    none
  else
    some (first + 1, rate clock (first + 1))

end BaudRate

section Closed

open BaudRate

variable (clockRate : U32) (s : UartSettings) (wantsDivisor wantsActual : Bool)

/-- The verdict that an outcome stands for. -/
def UartVerdict.ofOutcome : Option (Nat × Nat) → UartVerdict
  | none => .refuse
  | some (divisor, actual) =>
    .accept wantsDivisor wantsActual (BitVec.ofNat 64 divisor) (BitVec.ofNat 64 actual)

theorem toNat_shiftLeft_eq (x : U64) (k : Nat) : (x <<< k).toNat = x.toNat * 2 ^ k % 2 ^ 64 := by
  rw [BitVec.toNat_shiftLeft, Nat.shiftLeft_eq]

theorem toNat_setWidth_up (x : U32) : (x.setWidth 64).toNat = x.toNat := by
  rw [BitVec.toNat_setWidth]
  exact Nat.mod_eq_of_lt (by omega)

theorem setWidth_lt_iff (index : U32) (size : U64) :
    index.setWidth 64 < size ↔ index.toNat < size.toNat := by
  rw [BitVec.lt_def, toNat_setWidth_up]

theorem divU64x64Remainder_of_ne (h : s.baudRate.toNat * 16 % 2 ^ 64 ≠ 0) :
    ∃ quotient remainder,
      divU64x64Remainder (clockRate.setWidth 64) (s.baudRate <<< 4) = some (quotient, remainder) ∧
        quotient.toNat = clockRate.toNat / (s.baudRate.toNat * 16 % 2 ^ 64) ∧
        remainder.toNat = clockRate.toNat % (s.baudRate.toNat * 16 % 2 ^ 64) := by
  have hshift : (s.baudRate <<< 4).toNat = s.baudRate.toNat * 16 % 2 ^ 64 :=
    toNat_shiftLeft_eq s.baudRate 4
  have hne : s.baudRate <<< 4 ≠ 0 := by
    intro hzero
    rw [hzero] at hshift
    exact h hshift.symm
  refine ⟨_, _, if_neg hne, ?_, ?_⟩
  · rw [BitVec.toNat_udiv, hshift, toNat_setWidth_up]
  · rw [BitVec.toNat_umod, hshift, toNat_setWidth_up]

theorem computeBaudRate_eq (computedDivisor : U64) (hpos : 0 < computedDivisor.toNat)
    (hmax : computedDivisor.toNat ≤ 65535) :
    ∃ r, computeBaudRate clockRate computedDivisor = some r ∧
      r.toNat = rate clockRate.toNat computedDivisor.toNat := by
  have hshift : ((computedDivisor.setWidth 16).setWidth 32 <<< 4 : U32).toNat =
      16 * computedDivisor.toNat := by
    rw [BitVec.toNat_shiftLeft, Nat.shiftLeft_eq, BitVec.toNat_setWidth, BitVec.toNat_setWidth]
    omega
  have hne : ((computedDivisor.setWidth 16).setWidth 32 <<< 4 : U32) ≠ 0 := by
    intro hzero
    rw [hzero] at hshift
    have hzero : (0 : U32).toNat = 0 := rfl
    omega
  refine ⟨_, if_neg hne, ?_⟩
  rw [BitVec.toNat_udiv, hshift, rate]

theorem rounded_toNat (quotient remainder : U64)
    (hquotient : quotient.toNat = clockRate.toNat / (s.baudRate.toNat * 16 % 2 ^ 64))
    (hremainder : remainder.toNat = clockRate.toNat % (s.baudRate.toNat * 16 % 2 ^ 64)) :
    (if remainder ≥ s.baudRate <<< 3 then quotient + 1 else quotient : U64).toNat =
      roundedDivisor clockRate.toNat s.baudRate.toNat := by
  have hhalf : (s.baudRate <<< 3).toNat = s.baudRate.toNat * 8 % 2 ^ 64 :=
    toNat_shiftLeft_eq s.baudRate 3
  have hclock := clockRate.isLt
  have hle : quotient.toNat ≤ clockRate.toNat := hquotient ▸ Nat.div_le_self _ _
  rw [roundedDivisor, ← hquotient, ← hremainder, ← hhalf]
  split
  · next h =>
      have hle' : (s.baudRate <<< 3).toNat ≤ remainder.toNat := h
      rw [if_pos hle', BitVec.toNat_add]
      exact Nat.mod_eq_of_lt (Nat.lt_of_le_of_lt (Nat.succ_le_succ hle) (by omega))
  · next h =>
      have hlt : ¬ (s.baudRate <<< 3).toNat ≤ remainder.toNat := h
      rw [if_neg hlt, Nat.add_zero]

theorem divisor_toNat (rounded : U64)
    (hrounded : rounded.toNat = roundedDivisor clockRate.toNat s.baudRate.toNat) :
    (if rounded = 0 then 1 else rounded : U64).toNat =
      divisor clockRate.toNat s.baudRate.toNat := by
  rw [divisor, ← hrounded]
  split
  · next h =>
      rw [h]
      rfl
  · next h =>
      have hne : rounded.toNat ≠ 0 := fun hzero => h (BitVec.eq_of_toNat_eq hzero)
      exact (Nat.max_eq_right (Nat.one_le_iff_ne_zero.mpr hne)).symm

theorem percent_toNat (r : U32) (hne : r ≠ 0)
    (hr : r.toNat = rate clockRate.toNat (divisor clockRate.toNat s.baudRate.toNat)) :
    ∃ p, checkedDiv (s.baudRate * 100) (r.setWidth 64) = some p ∧
      p.toNat = percent clockRate.toNat s.baudRate.toNat := by
  have hwide : r.setWidth 64 ≠ 0 := by
    intro hzero
    apply hne
    apply BitVec.eq_of_toNat_eq
    rw [← toNat_setWidth_up, hzero]
    rfl
  refine ⟨_, if_neg hwide, ?_⟩
  rw [BitVec.toNat_udiv, BitVec.toNat_mul, toNat_setWidth_up, percent, hr]
  rfl

theorem u64_eq_ofNat {x : U64} {n : Nat} (h : x.toNat = n) : x = BitVec.ofNat 64 n := by
  rw [← h, BitVec.ofNat_toNat, BitVec.setWidth_eq]

theorem secondTry_eq {d : Nat} (first : U64) (hfirst : first.toNat = d) (hmax : d ≤ 65535) :
    (if first = MAX_UINT16 then
        some .refuse
      else do
        let r ← computeBaudRate clockRate (first + 1)
        if r = 0 then
          some .refuse
        else
          some (.accept wantsDivisor wantsActual (first + 1) (r.setWidth 64))) =
      some (UartVerdict.ofOutcome wantsDivisor wantsActual
        (if d = 65535 ∨ rate clockRate.toNat (d + 1) = 0 then none
          else some (d + 1, rate clockRate.toNat (d + 1)))) := by
  by_cases hlast : d = 65535
  · have hfull : first = MAX_UINT16 := BitVec.eq_of_toNat_eq (hfirst.trans hlast)
    rw [if_pos hfull, if_pos (.inl hlast)]
    rfl
  have hroom : first ≠ MAX_UINT16 := by
    rintro rfl
    exact hlast hfirst.symm
  have hsecond : (first + 1).toNat = d + 1 := by
    rw [BitVec.toNat_add, hfirst]
    exact Nat.mod_eq_of_lt (Nat.lt_of_le_of_lt (Nat.succ_le_succ hmax) (by decide))
  obtain ⟨r, hrate, hr⟩ := computeBaudRate_eq clockRate (first + 1) (by omega) (by omega)
  rw [hsecond] at hr
  rw [if_neg hroom, hrate]
  dsimp only [bind, Option.bind]
  by_cases hzero : rate clockRate.toNat (d + 1) = 0
  · have hrzero : r = 0 := BitVec.eq_of_toNat_eq (hr.trans hzero)
    rw [if_pos hrzero, if_pos (.inr hzero)]
    rfl
  have hne : r ≠ 0 := by
    rintro rfl
    exact hzero hr.symm
  rw [if_neg hne, if_neg (not_or_intro hlast hzero), UartVerdict.ofOutcome,
    ← u64_eq_ofNat hsecond, ← u64_eq_ofNat ((toNat_setWidth_up r).trans hr)]

theorem firstTry_eq (first : U64)
    (hfirst : first.toNat = divisor clockRate.toNat s.baudRate.toNat)
    (hmax : divisor clockRate.toNat s.baudRate.toNat ≤ 65535) :
    (do
      let r ← computeBaudRate clockRate first
      if r = 0 then
        some .refuse
      else
        let percent ← checkedDiv (s.baudRate * 100) (r.setWidth 64)
        if percent ≥ 96 ∧ percent ≤ 104 then
          some (.accept wantsDivisor wantsActual first s.baudRate)
        else if r.setWidth 64 < s.baudRate then
          some (.accept wantsDivisor wantsActual first (r.setWidth 64))
        else if first = MAX_UINT16 then
          some .refuse
        else
          let r ← computeBaudRate clockRate (first + 1)
          if r = 0 then
            some .refuse
          else
            some (.accept wantsDivisor wantsActual (first + 1) (r.setWidth 64))) =
      some (UartVerdict.ofOutcome wantsDivisor wantsActual
        (let d := divisor clockRate.toNat s.baudRate.toNat
        if rate clockRate.toNat d = 0 then none
        else if PercentAccepted (percent clockRate.toNat s.baudRate.toNat) then
          some (d, s.baudRate.toNat)
        else if rate clockRate.toNat d < s.baudRate.toNat then some (d, rate clockRate.toNat d)
        else if d = 65535 ∨ rate clockRate.toNat (d + 1) = 0 then none
        else some (d + 1, rate clockRate.toNat (d + 1)))) := by
  have hpos : 0 < divisor clockRate.toNat s.baudRate.toNat := Nat.le_max_left 1 _
  obtain ⟨r, hrate, hr⟩ :=
    computeBaudRate_eq clockRate first (hfirst ▸ hpos) (hfirst ▸ hmax)
  rw [hfirst] at hr
  rw [hrate]
  dsimp only [bind, Option.bind]
  by_cases hzero : rate clockRate.toNat (divisor clockRate.toNat s.baudRate.toNat) = 0
  · have hrzero : r = 0 := BitVec.eq_of_toNat_eq (hr.trans hzero)
    rw [if_pos hrzero, if_pos hzero]
    rfl
  have hne : r ≠ 0 := by
    rintro rfl
    exact hzero hr.symm
  rw [if_neg hne, if_neg hzero]
  obtain ⟨p, hpercent, hp⟩ := percent_toNat clockRate s r hne hr
  rw [hpercent]
  dsimp only
  have hbetween : p ≥ 96 ∧ p ≤ 104 ↔
      PercentAccepted (percent clockRate.toNat s.baudRate.toNat) := by
    rw [← hp]
    rfl
  by_cases hwindow : PercentAccepted (percent clockRate.toNat s.baudRate.toNat)
  · rw [if_pos (hbetween.mpr hwindow), if_pos hwindow, UartVerdict.ofOutcome,
      ← u64_eq_ofNat hfirst, ← u64_eq_ofNat rfl]
  rw [if_neg (mt hbetween.mp hwindow), if_neg hwindow]
  by_cases hbelow : rate clockRate.toNat (divisor clockRate.toNat s.baudRate.toNat) <
      s.baudRate.toNat
  · have hlt : r.setWidth 64 < s.baudRate := by
      rwa [setWidth_lt_iff, hr]
    rw [if_pos hlt, if_pos hbelow, UartVerdict.ofOutcome, ← u64_eq_ofNat hfirst,
      ← u64_eq_ofNat ((toNat_setWidth_up r).trans hr)]
  have hlt : ¬ r.setWidth 64 < s.baudRate := by
    rwa [setWidth_lt_iff, hr]
  rw [if_neg hlt, if_neg hbelow]
  exact secondTry_eq clockRate wantsDivisor wantsActual first hfirst hmax

theorem verifyUartParameters_eq (hformat : ¬ s.Malformed) (hclock : clockRate ≠ 0)
    (hshifted : s.baudRate.toNat * 16 % 2 ^ 64 ≠ 0) :
    verifyUartParameters clockRate s wantsDivisor wantsActual =
      some (.ofOutcome wantsDivisor wantsActual
        (outcome clockRate.toNat s.baudRate.toNat)) := by
  obtain ⟨quotient, remainder, hdiv, hquotient, hremainder⟩ :=
    divU64x64Remainder_of_ne clockRate s hshifted
  have hrounded := rounded_toNat clockRate s quotient remainder hquotient hremainder
  rw [verifyUartParameters, if_neg hformat, if_neg hclock, hdiv]
  dsimp only [bind, Option.bind]
  generalize (if remainder ≥ s.baudRate <<< 3 then quotient + 1 else quotient : U64) = rounded
    at hrounded ⊢
  rw [outcome]
  have hlimit : rounded > MAX_UINT16 ↔ roundedDivisor clockRate.toNat s.baudRate.toNat > 65535 := by
    rw [← hrounded]
    rfl
  by_cases hbig : roundedDivisor clockRate.toNat s.baudRate.toNat > 65535
  · rw [if_pos (hlimit.mpr hbig), if_pos (.inl hbig)]
    rfl
  rw [if_neg (mt hlimit.mp hbig)]
  have hfirst := divisor_toNat clockRate s rounded hrounded
  have hmax : divisor clockRate.toNat s.baudRate.toNat ≤ 65535 :=
    Nat.max_le.mpr ⟨by decide, Nat.le_of_not_gt hbig⟩
  simp only [hbig, false_or]
  exact firstTry_eq clockRate s wantsDivisor wantsActual _ hfirst hmax

end Closed

namespace BaudRate

variable {clock baud : Nat}

/-- No divisor for the requested rate can be programmed. -/
def Unreachable (clock baud : Nat) : Prop :=
  roundedDivisor clock baud > 65535 ∨ rate clock (divisor clock baud) = 0

/-- The first divisor is accepted for a percentage that has not wrapped, or it is not and the
caller is told the actual rate, or the next divisor is not programmable or in the window. -/
def Judged (clock baud : Nat) (wantsActual : Bool) : Prop :=
  if PercentAccepted (percent clock baud) then
    baud * 100 < 2 ^ 64
  else
    wantsActual = true ∨
      (baud ≤ rate clock (divisor clock baud) ∧
        (divisor clock baud = 65535 ∨ rate clock (divisor clock baud + 1) = 0 ∨
          PercentAccepted (baud * 100 / rate clock (divisor clock baud + 1))))

/-- A divisor can be programmed, and its rate is the requested one within the window or the
actual one, which the caller is told and which does not exceed the requested one. -/
structure Honest (clock baud : Nat) (wantsActual : Bool) (divisor actual : Nat) : Prop where
  programmable : 1 ≤ divisor ∧ divisor ≤ 65535
  supported :
    (PercentAccepted (baud * 100 / rate clock divisor) ∧ (wantsActual = true → actual = baud)) ∨
    (wantsActual = true ∧ actual = rate clock divisor ∧ rate clock divisor ≤ baud)

theorem rate_le (clock divisor : Nat) : rate clock divisor ≤ clock := Nat.div_le_self _ _

/-- A rate whose product with 100 wraps is far above the rates of a 32-bit clock. -/
theorem not_percentAccepted_of_wraps (hclock : clock < 2 ^ 32) (divisor : Nat)
    (hwraps : 2 ^ 64 ≤ baud * 100) : ¬ PercentAccepted (baud * 100 / rate clock divisor) := by
  rintro ⟨hlow, hhigh⟩
  have hrate := rate_le clock divisor
  have hpos : 0 < rate clock divisor := by
    by_contra hzero
    rw [Nat.le_zero.mp (Nat.not_lt.mp hzero), Nat.div_zero] at hlow
    exact absurd hlow (by decide)
  have hproduct := (Nat.div_lt_iff_lt_mul hpos).mp (Nat.lt_succ_of_le hhigh)
  omega

theorem percent_eq (hproduct : baud * 100 < 2 ^ 64) :
    percent clock baud = baud * 100 / rate clock (divisor clock baud) := by
  rw [percent, Nat.mod_eq_of_lt hproduct]

/-- The divisor after the rounded one gives a rate below the requested one. -/
theorem rate_succ_lt (hbaud : baud * 16 < 2 ^ 64) (hpos : 0 < baud) :
    rate clock (divisor clock baud + 1) < baud := by
  have hquotient : clock / (baud * 16) ≤ divisor clock baud := by
    rw [divisor, roundedDivisor, Nat.mod_eq_of_lt hbaud]
    exact Nat.le_trans (Nat.le_add_right _ _) (Nat.le_max_right _ _)
  rw [rate, Nat.div_lt_iff_lt_mul (by omega)]
  have hclock : clock < (divisor clock baud + 1) * (baud * 16) :=
    (Nat.div_lt_iff_lt_mul (by omega)).mp (Nat.lt_succ_of_le hquotient)
  calc clock < (divisor clock baud + 1) * (baud * 16) := hclock
    _ = baud * (16 * (divisor clock baud + 1)) := by rw [Nat.mul_comm, Nat.mul_assoc]

theorem one_le_divisor : 1 ≤ divisor clock baud := Nat.le_max_left _ _

theorem divisor_le (h : ¬ roundedDivisor clock baud > 65535) : divisor clock baud ≤ 65535 :=
  Nat.max_le.mpr ⟨by decide, Nat.le_of_not_gt h⟩

theorem honest_first_of_accepted (hclock : clock < 2 ^ 32) (wantsActual : Bool)
    (hmax : divisor clock baud ≤ 65535) (hwindow : PercentAccepted (percent clock baud)) :
    Honest clock baud wantsActual (divisor clock baud) baud ↔ baud * 100 < 2 ^ 64 := by
  constructor
  · rintro ⟨-, ⟨hsupported, -⟩ | ⟨-, hactual, -⟩⟩
    · by_contra hwraps
      exact not_percentAccepted_of_wraps hclock _ (Nat.le_of_not_lt hwraps) hsupported
    · have hrate := rate_le clock (divisor clock baud)
      omega
  · intro hproduct
    rw [percent_eq hproduct] at hwindow
    exact ⟨⟨one_le_divisor, hmax⟩, .inl ⟨hwindow, fun _ => rfl⟩⟩

theorem honest_first_of_below (hclock : clock < 2 ^ 32) (wantsActual : Bool)
    (hmax : divisor clock baud ≤ 65535) (hwindow : ¬ PercentAccepted (percent clock baud))
    (hbelow : rate clock (divisor clock baud) < baud) :
    Honest clock baud wantsActual (divisor clock baud) (rate clock (divisor clock baud)) ↔
      wantsActual = true := by
  constructor
  · rintro ⟨-, ⟨hsupported, -⟩ | ⟨hwants, -⟩⟩
    · by_cases hproduct : baud * 100 < 2 ^ 64
      · exact absurd (percent_eq hproduct ▸ hsupported) hwindow
      · exact absurd hsupported (not_percentAccepted_of_wraps hclock _ (Nat.le_of_not_lt hproduct))
    · exact hwants
  · intro hwants
    exact ⟨⟨one_le_divisor, hmax⟩, .inr ⟨hwants, rfl, Nat.le_of_lt hbelow⟩⟩

theorem honest_second (wantsActual : Bool) (hmax : divisor clock baud + 1 ≤ 65535)
    (hbelow : rate clock (divisor clock baud + 1) < baud) :
    Honest clock baud wantsActual (divisor clock baud + 1)
        (rate clock (divisor clock baud + 1)) ↔
      wantsActual = true ∨ PercentAccepted (baud * 100 / rate clock (divisor clock baud + 1)) := by
  constructor
  · rintro ⟨-, ⟨hsupported, -⟩ | ⟨hwants, -⟩⟩
    · exact .inr hsupported
    · exact .inl hwants
  · intro h
    refine ⟨⟨by omega, hmax⟩, ?_⟩
    by_cases hwants : wantsActual = true
    · exact .inr ⟨hwants, rfl, Nat.le_of_lt hbelow⟩
    · exact .inl ⟨h.resolve_left hwants, fun h => absurd h hwants⟩

theorem forall_some_pair {d actual : Nat} (P : Nat → Nat → Prop) :
    (∀ d' actual', some (d, actual) = some (d', actual') → P d' actual') ↔ P d actual := by
  constructor
  · intro h
    exact h d actual rfl
  · rintro h d' actual' ⟨⟩
    exact h

theorem outcome_honest_iff (hclock : clock < 2 ^ 32) (hshifted : baud * 16 % 2 ^ 64 ≠ 0)
    (wantsActual : Bool) :
    (∀ d actual, outcome clock baud = some (d, actual) →
      Honest clock baud wantsActual d actual) ↔
      Unreachable clock baud ∨ Judged clock baud wantsActual := by
  rw [outcome, Unreachable, Judged]
  by_cases hunreachable : roundedDivisor clock baud > 65535 ∨ rate clock (divisor clock baud) = 0
  · rw [if_pos hunreachable]
    exact iff_of_true (fun _ _ h => nomatch h) (.inl hunreachable)
  have hmax := divisor_le (fun h => hunreachable (.inl h))
  rw [if_neg hunreachable, or_iff_right hunreachable]
  by_cases hwindow : PercentAccepted (percent clock baud)
  · rw [if_pos hwindow, if_pos hwindow, ← honest_first_of_accepted hclock wantsActual hmax hwindow]
    exact forall_some_pair _
  rw [if_neg hwindow, if_neg hwindow]
  by_cases hbelow : rate clock (divisor clock baud) < baud
  · rw [if_pos hbelow, or_iff_left (fun h => Nat.not_le_of_lt hbelow h.1),
      ← honest_first_of_below hclock wantsActual hmax hwindow hbelow]
    exact forall_some_pair _
  have habove := Nat.le_of_not_lt hbelow
  rw [if_neg hbelow, and_iff_right habove]
  by_cases hlast : divisor clock baud = 65535 ∨ rate clock (divisor clock baud + 1) = 0
  · rw [if_pos hlast]
    refine iff_of_true (fun _ _ h => nomatch h) (.inr ?_)
    exact hlast.imp_right .inl
  have hrate := rate_le clock (divisor clock baud)
  have hsecond : rate clock (divisor clock baud + 1) < baud := by
    refine rate_succ_lt (by omega) ?_
    rcases Nat.eq_zero_or_pos baud with rfl | hpos
    · exact absurd rfl hshifted
    · exact hpos
  push Not at hlast
  rw [if_neg (not_or_intro hlast.1 hlast.2), or_iff_right hlast.1, or_iff_right hlast.2,
    ← honest_second wantsActual (by omega) hsecond]
  exact forall_some_pair _

end BaudRate

/-- What an accepted request is promised: a divisor that can be programmed, with a rate that is
within the window or, if the caller can be told so, below the requested one. -/
def UartVerdict.PromiseKept (clockRate : U32) (s : UartSettings) (wantsActual : Bool)
    (v : UartVerdict) : Prop :=
  ∃ d, v.divisor = some d ∧ 1 ≤ d.toNat ∧ d.toNat ≤ 65535 ∧
    let r := BaudRate.rate clockRate.toNat d.toNat
    ((BaudRate.PercentAccepted (s.baudRate.toNat * 100 / r) ∧
        (wantsActual = true → v.actualBaudRate = some s.baudRate)) ∨
      ∃ actual, v.actualBaudRate = some actual ∧ actual.toNat = r ∧ r ≤ s.baudRate.toNat)

/-- What `VerifyUartParameters` promises of a request. -/
structure VerdictHonest (clockRate : U32) (s : UartSettings) (wantsActual : Bool) : Prop where
  divides : ∀ wantsDivisor, verifyUartParameters clockRate s wantsDivisor wantsActual ≠ none
  accepted : clockRate ≠ 0 → ∀ v, verifyUartParameters clockRate s true wantsActual = some v →
    v.accepted = true → v.PromiseKept clockRate s wantsActual
  degraded : clockRate ≠ 0 → wantsActual = false →
    (∀ d, 1 ≤ d → d ≤ 65535 →
      ¬ BaudRate.PercentAccepted (s.baudRate.toNat * 100 / BaudRate.rate clockRate.toNat d)) →
    ∀ wantsDivisor v, verifyUartParameters clockRate s wantsDivisor wantsActual = some v →
      v.accepted = false

/-- The settings are refused for their format, or the clock is unknown, or 16 times the rate is
not zero in 64 bits and the rate is out of reach or judged by what it is. -/
def VerdictHonestWhen (clockRate : U32) (s : UartSettings) (wantsActual : Bool) : Prop :=
  s.Malformed ∨ clockRate = 0 ∨
    (s.baudRate.toNat * 16 % 2 ^ 64 ≠ 0 ∧
      (BaudRate.Unreachable clockRate.toNat s.baudRate.toNat ∨
        BaudRate.Judged clockRate.toNat s.baudRate.toNat wantsActual))

section Verdict

open BaudRate

variable (clockRate : U32) (s : UartSettings) (wantsDivisor wantsActual : Bool)

theorem verify_of_malformed (h : s.Malformed) :
    verifyUartParameters clockRate s wantsDivisor wantsActual = some .refuse :=
  if_pos h

theorem verify_of_unknown_clock (h : ¬ s.Malformed) :
    verifyUartParameters 0 s wantsDivisor wantsActual = some ⟨true, none, none⟩ := by
  rw [verifyUartParameters, if_neg h, if_pos rfl]

theorem verify_divides_by_zero (hformat : ¬ s.Malformed) (hclock : clockRate ≠ 0)
    (hshifted : s.baudRate.toNat * 16 % 2 ^ 64 = 0) :
    verifyUartParameters clockRate s wantsDivisor wantsActual = none := by
  have hzero : s.baudRate <<< 4 = 0 :=
    BitVec.eq_of_toNat_eq ((toNat_shiftLeft_eq s.baudRate 4).trans hshifted)
  rw [verifyUartParameters, if_neg hformat, if_neg hclock, divU64x64Remainder, if_pos hzero]
  rfl

theorem outcome_lt {clock baud d actual : Nat} (hclock : clock < 2 ^ 32) (hbaud : baud < 2 ^ 64)
    (h : outcome clock baud = some (d, actual)) : d < 2 ^ 64 ∧ actual < 2 ^ 64 := by
  have hrate (d : Nat) : rate clock d < 2 ^ 64 :=
    Nat.lt_of_le_of_lt (rate_le clock d) (Nat.lt_trans hclock (by decide))
  rw [outcome] at h
  split at h
  · exact nomatch h
  · next hreach =>
      have hmax := divisor_le (fun hbig => hreach (.inl hbig))
      split at h
      · cases h
        exact ⟨by omega, hbaud⟩
      · split at h
        · cases h
          exact ⟨by omega, hrate _⟩
        · split at h
          · exact nomatch h
          · cases h
            exact ⟨by omega, hrate _⟩

theorem promiseKept_iff {d actual : Nat} (hd : d < 2 ^ 64) (hactual : actual < 2 ^ 64) :
    (UartVerdict.accept true wantsActual (BitVec.ofNat 64 d)
        (BitVec.ofNat 64 actual)).PromiseKept clockRate s wantsActual ↔
      Honest clockRate.toNat s.baudRate.toNat wantsActual d actual := by
  have hdivisor : (BitVec.ofNat 64 d).toNat = d := Nat.mod_eq_of_lt hd
  have hrate : (BitVec.ofNat 64 actual).toNat = actual := Nat.mod_eq_of_lt hactual
  constructor
  · rintro ⟨d', hd', hpos, hmax, hsupported⟩
    obtain rfl := Option.some.inj hd'
    rw [hdivisor] at hpos hmax hsupported
    refine ⟨⟨hpos, hmax⟩, ?_⟩
    rcases hsupported with ⟨hwindow, htold⟩ | ⟨actual', htold, hexact, hle⟩
    · refine .inl ⟨hwindow, fun hwants => ?_⟩
      have hbaud := htold hwants
      rw [UartVerdict.accept, hwants] at hbaud
      rw [← Option.some.inj hbaud, hrate]
    · cases hwants : wantsActual with
      | false =>
          rw [UartVerdict.accept, hwants] at htold
          exact nomatch htold
      | true =>
          rw [UartVerdict.accept, hwants] at htold
          obtain rfl := Option.some.inj htold
          exact .inr ⟨rfl, hrate ▸ hexact, hle⟩
  · rintro ⟨⟨hpos, hmax⟩, hsupported⟩
    refine ⟨_, rfl, hdivisor.symm ▸ hpos, hdivisor.symm ▸ hmax, ?_⟩
    rw [hdivisor]
    rcases hsupported with ⟨hwindow, htold⟩ | ⟨hwants, hexact, hle⟩
    · refine .inl ⟨hwindow, fun hwants => ?_⟩
      rw [UartVerdict.accept, hwants, htold hwants, ← u64_eq_ofNat rfl]
      rfl
    · refine .inr ⟨_, ?_, hrate.trans hexact, hle⟩
      rw [hwants]
      rfl

theorem verdictHonest_of_malformed (h : s.Malformed) :
    VerdictHonest clockRate s wantsActual where
  divides wantsDivisor hnone :=
    nomatch (verify_of_malformed clockRate s wantsDivisor wantsActual h).symm.trans hnone
  accepted _ v hv haccepted := by
    rw [verify_of_malformed clockRate s true wantsActual h] at hv
    cases hv
    exact nomatch haccepted
  degraded _ _ _ wantsDivisor v hv := by
    rw [verify_of_malformed clockRate s wantsDivisor wantsActual h] at hv
    cases hv
    rfl

theorem verdictHonest_of_unknown_clock (h : ¬ s.Malformed) : VerdictHonest 0 s wantsActual where
  divides wantsDivisor hnone :=
    nomatch (verify_of_unknown_clock s wantsDivisor wantsActual h).symm.trans hnone
  accepted hclock := absurd rfl hclock
  degraded hclock := absurd rfl hclock

/-- Where the check divides by something, its verdict is as honest as its outcome. -/
theorem verdictHonest_iff_outcome (hformat : ¬ s.Malformed) (hclock : clockRate ≠ 0)
    (hshifted : s.baudRate.toNat * 16 % 2 ^ 64 ≠ 0) :
    VerdictHonest clockRate s wantsActual ↔
      ∀ d actual, outcome clockRate.toNat s.baudRate.toNat = some (d, actual) →
        Honest clockRate.toNat s.baudRate.toNat wantsActual d actual := by
  have hverify (wantsDivisor : Bool) :=
    verifyUartParameters_eq clockRate s wantsDivisor wantsActual hformat hclock hshifted
  constructor
  · intro h d actual houtcome
    obtain ⟨hd, hactual⟩ := outcome_lt clockRate.isLt s.baudRate.isLt houtcome
    refine (promiseKept_iff clockRate s wantsActual hd hactual).mp ?_
    refine h.accepted hclock _ ?_ rfl
    rw [hverify, houtcome]
    rfl
  intro h
  refine ⟨fun wantsDivisor hnone => ?_, fun _ v hv haccepted => ?_, ?_⟩
  · exact nomatch (hverify wantsDivisor).symm.trans hnone
  · rw [hverify] at hv
    obtain rfl := Option.some.inj hv
    cases houtcome : outcome clockRate.toNat s.baudRate.toNat with
    | none =>
        rw [houtcome] at haccepted
        exact nomatch haccepted
    | some pair =>
        obtain ⟨d, actual⟩ := pair
        obtain ⟨hd, hactual⟩ := outcome_lt clockRate.isLt s.baudRate.isLt houtcome
        exact (promiseKept_iff clockRate s wantsActual hd hactual).mpr (h d actual houtcome)
  · intro _ hwants hdegraded wantsDivisor v hv
    rw [hverify] at hv
    obtain rfl := Option.some.inj hv
    cases houtcome : outcome clockRate.toNat s.baudRate.toNat with
    | none => rfl
    | some pair =>
        obtain ⟨d, actual⟩ := pair
        obtain ⟨⟨hpos, hmax⟩, ⟨hwindow, -⟩ | ⟨htold, -⟩⟩ := h d actual houtcome
        · exact absurd hwindow (hdegraded d hpos hmax)
        · exact nomatch hwants.symm.trans htold

theorem verdictHonest_iff :
    VerdictHonest clockRate s wantsActual ↔ VerdictHonestWhen clockRate s wantsActual := by
  rw [VerdictHonestWhen]
  by_cases hformat : s.Malformed
  · exact iff_of_true (verdictHonest_of_malformed clockRate s wantsActual hformat) (.inl hformat)
  by_cases hclock : clockRate = 0
  · subst hclock
    exact iff_of_true (verdictHonest_of_unknown_clock s wantsActual hformat) (.inr (.inl rfl))
  rw [or_iff_right hformat, or_iff_right hclock]
  by_cases hshifted : s.baudRate.toNat * 16 % 2 ^ 64 = 0
  · refine iff_of_false (fun h => h.divides true ?_) (fun h => h.1 hshifted)
    exact verify_divides_by_zero clockRate s true wantsActual hformat hclock hshifted
  rw [and_iff_right hshifted, ← outcome_honest_iff clockRate.isLt hshifted]
  exact verdictHonest_iff_outcome clockRate s wantsActual hformat hclock hshifted

/-- With a known clock, the check stores a divisor whenever it accepts. -/
theorem exists_divisor_of_accepted {clockRate : U32} {s : UartSettings} {wantsActual : Bool}
    {v : UartVerdict} (hclock : clockRate ≠ 0)
    (hverify : verifyUartParameters clockRate s true wantsActual = some v)
    (haccepted : v.accepted = true) : ∃ d, v.divisor = some d := by
  by_cases hformat : s.Malformed
  · rw [verify_of_malformed clockRate s true wantsActual hformat] at hverify
    cases hverify
    exact nomatch haccepted
  by_cases hshifted : s.baudRate.toNat * 16 % 2 ^ 64 = 0
  · rw [verify_divides_by_zero clockRate s true wantsActual hformat hclock hshifted] at hverify
    exact nomatch hverify
  rw [verifyUartParameters_eq clockRate s true wantsActual hformat hclock hshifted] at hverify
  obtain rfl := Option.some.inj hverify
  cases houtcome : BaudRate.outcome clockRate.toNat s.baudRate.toNat with
  | none =>
      rw [houtcome] at haccepted
      exact nomatch haccepted
  | some pair => exact ⟨_, rfl⟩

end Verdict

/-- 100000 baud from the usual clock, for a caller that cannot be told a lower rate: the check
accepts the divisor of 57600 baud. -/
theorem degradedRate_accepted :
    ¬ VerdictHonest 1843200 ⟨100000, 8, NoParity, OneStopBit⟩ false := by
  intro h
  have hverify : verifyUartParameters 1843200 ⟨100000, 8, NoParity, OneStopBit⟩ true false =
      some ⟨true, some 2, none⟩ := by decide
  obtain ⟨d, hd, -, -, ⟨hwindow, -⟩ | ⟨actual, htold, -⟩⟩ :=
    h.accepted (by decide) _ hverify rfl
  · cases hd
    exact absurd hwindow (by decide)
  · exact nomatch htold

end FdtBusPkg
