import FdtBusPkg.DtBus.Translate
import FdtBusPkg.Library.FirstMatch

/-!
CPU address translation against the exact composition of the `ranges` windows
in unbounded integers. At every level the code selects and applies the exact
window unless a 128-bit sum wraps; the levels compose by induction on the chain
of ancestors.
-/
namespace FdtBusPkg

namespace RangeTriplet

def childSpan (t : RangeTriplet) : Span := ⟨t.childBase.toNat, t.childSize.toNat⟩

/-- The triplet contains `[a, a + len)`. -/
def Contains (t : RangeTriplet) (a len : Nat) : Prop := Span.Within ⟨a, len⟩ t.childSpan

instance (t : RangeTriplet) (a len : Nat) : Decidable (t.Contains a len) :=
  inferInstanceAs (Decidable (Span.Within _ _))

/-- Exactly one of the two ends compared by the code wraps, and the wrap changes
the outcome of the comparison. -/
def Wraps (t : RangeTriplet) (a len : Nat) : Prop :=
  t.childBase.toNat ≤ a ∧
    ((a + len < 2 ^ 128 ∧ 2 ^ 128 ≤ t.childBase.toNat + t.childSize.toNat) ∨
      (2 ^ 128 ≤ a + len ∧ t.childBase.toNat + t.childSize.toNat < 2 ^ 128 ∧
        a + len - 2 ^ 128 ≤ t.childBase.toNat + t.childSize.toNat))

/-- Image of `a` under the window. -/
def image (t : RangeTriplet) (a : Nat) : Nat := a - t.childBase.toNat + t.parentBase.toNat

theorem contains_iff (t : RangeTriplet) (a len : Nat) :
    t.Contains a len ↔
      t.childBase.toNat ≤ a ∧ a + len ≤ t.childBase.toNat + t.childSize.toNat := by
  simp [Contains, Span.Within, childSpan]

theorem accepts_eq_contains_iff (t : RangeTriplet) (address : DtBusAddress)
    (length : DtSize) :
    rangeAccepts address length t.childBase t.childSize =
        decide (t.Contains address.toNat length.toNat) ↔
      ¬ t.Wraps address.toNat length.toNat := by
  have ha := address.isLt
  have hl := length.isLt
  have hc := t.childBase.isLt
  have hs := t.childSize.isLt
  rw [Bool.eq_iff_iff]
  simp only [rangeAccepts, Wraps, contains_iff, Bool.and_eq_true, decide_eq_true_eq,
    BitVec.le_def, ge_iff_le, BitVec.toNat_add]
  omega

end RangeTriplet

inductive LevelMap
  | mapped (base : Nat)
  | stop
  | failed (e : EfiError)
  deriving DecidableEq, Repr

/-- The map of one level: the root and empty `ranges` are the identity, otherwise
the first triplet that contains the range maps it. -/
def exactLevel (fdt : Fdt) (device : DtDevice) (len a : Nat) : LevelMap :=
  match device.parent? with
  | none => .mapped a
  | some _ =>
    match dtIoGetProp fdt device "ranges" with
    | .error .notFound => .stop
    | .error e => .failed e
    | .ok p =>
      if p.end_ = p.begin_ then
        .mapped a
      else
        match (rangesTriplets fdt.mem device p).find? (fun t => t.Contains a len) with
        | some t => .mapped (t.image a)
        | none => .stop

/-- The composition of the level maps from a bus device up, and the device at
which it stops. -/
def exactUp (fdt : Fdt) (len : Nat) : DtDevice → Nat → EfiResult (Nat × Option DtDevice)
  | .root i, a =>
    match exactLevel fdt (.root i) len a with
    | .mapped b => .ok (b, none)
    | .stop => .ok (a, some (.root i))
    | .failed e => .error e
  | .child i parent, a =>
    match exactLevel fdt (.child i parent) len a with
    | .mapped b => exactUp fdt len parent b
    | .stop => .ok (a, some (.child i parent))
    | .failed e => .error e

def exactToCpu (fdt : Fdt) (device : DtDevice) (len a : Nat) :
    EfiResult (Nat × Option DtDevice) :=
  match device.parent? with
  | none => .ok (a, none)
  | some parent => exactUp fdt len parent a

/-- A successful translation is the exact composition, and one that reaches the
root stays inside `[0, MAX_ADDRESS]`. -/
def TranslationExact (fdt : Fdt) (device : DtDevice) (address : DtBusAddress)
    (length : DtSize) : Prop :=
  ∀ out bus, dtDeviceTranslateRangeToCpu fdt device address length = .ok (out, bus) →
    exactToCpu fdt device length.toNat address.toNat = .ok (out.toNat, bus) ∧
      (bus = none → Span.Within ⟨out.toNat, length.toNat⟩ ⟨0, MAX_ADDRESS + 1⟩)

section Level

variable (fdt : Fdt) (device : DtDevice)

/-- At this level the code takes the first triplet that contains the range, if
any, and adds exactly. -/
def LevelExact (address : DtBusAddress) (length : DtSize) : Prop :=
  ∀ p, device.parent?.isSome → dtIoGetProp fdt device "ranges" = .ok p →
    p.end_ ≠ p.begin_ →
    (rangesTriplets fdt.mem device p).find?
        (fun t => rangeAccepts address length t.childBase t.childSize) =
      (rangesTriplets fdt.mem device p).find?
        (fun t => t.Contains address.toNat length.toNat) ∧
    ∀ t, (rangesTriplets fdt.mem device p).find?
        (fun t => t.Contains address.toNat length.toNat) = some t →
      (address - t.childBase + t.parentBase).toNat = t.image address.toNat

/-- No triplet up to the containing one wraps, and the image is representable. -/
def LevelSound (len a : Nat) : Prop :=
  ∀ p, device.parent?.isSome → dtIoGetProp fdt device "ranges" = .ok p →
    p.end_ ≠ p.begin_ →
    (∀ t ∈ FirstMatch.examined (fun t : RangeTriplet => t.Contains a len)
        (rangesTriplets fdt.mem device p), ¬ t.Wraps a len) ∧
    ∀ t, (rangesTriplets fdt.mem device p).find? (fun t => t.Contains a len) = some t →
      t.image a < 2 ^ 128

private theorem image_eq_iff (t : RangeTriplet) (address : DtBusAddress)
    (h : t.childBase.toNat ≤ address.toNat) :
    (address - t.childBase + t.parentBase).toNat = t.image address.toNat ↔
      t.image address.toNat < 2 ^ 128 := by
  have ha := address.isLt
  have hc := t.childBase.isLt
  have hp := t.parentBase.isLt
  simp only [RangeTriplet.image, BitVec.toNat_add, BitVec.toNat_sub]
  omega

theorem levelExact_iff (address : DtBusAddress) (length : DtSize) :
    LevelExact fdt device address length ↔
      LevelSound fdt device length.toNat address.toNat := by
  refine forall_congr' fun p => forall_congr' fun _ => forall_congr' fun _ =>
    forall_congr' fun _ => and_congr ?_ ?_
  · rw [eq_comm, FirstMatch.find?_eq_iff]
    refine forall_congr' fun t => forall_congr' fun _ => ?_
    rw [eq_comm, RangeTriplet.accepts_eq_contains_iff]
  · refine forall_congr' fun t => forall_congr' fun ht => image_eq_iff t address ?_
    have hcontains := List.find?_some ht
    exact ((t.contains_iff _ _).mp (by simpa using hcontains)).1

theorem exactLevel_of_levelExact (address : DtBusAddress) (length : DtSize)
    (h : LevelExact fdt device address length) :
    exactLevel fdt device length.toNat address.toNat =
      match dtDeviceTranslateRangeInternal fdt device address length with
      | .ok out => .mapped out.toNat
      | .error .notFound => .stop
      | .error e => .failed e := by
  unfold exactLevel dtDeviceTranslateRangeInternal
  cases hparent : device.parent? with
  | none => rfl
  | some parent =>
      simp only [Option.isNone_some, Bool.false_eq_true, if_false]
      cases hprop : dtIoGetProp fdt device "ranges" with
      | error e => cases e <;> rfl
      | ok p =>
          by_cases hempty : p.end_ = p.begin_
          · simp [hempty]
          · obtain ⟨hfind, himage⟩ := h p (by simp [hparent]) hprop hempty
            simp only [if_neg hempty, translateRangeLoop_eq, hfind]
            cases hexact : (rangesTriplets fdt.mem device p).find?
                (fun t => t.Contains address.toNat length.toNat) with
            | none => rfl
            | some t => simp [himage t hexact]

end Level

section Walk

variable (fdt : Fdt) (length : DtSize)

def CpuCheckExact (address : DtBusAddress) : Prop :=
  cpuRangeAccepts address length = true →
    Span.Within ⟨address.toNat, length.toNat⟩ ⟨0, MAX_ADDRESS + 1⟩

/-- The end of the reached range does not wrap back into the address space. -/
def CpuCheckSound (len a : Nat) : Prop := ¬ (a ≤ MAX_ADDRESS ∧ 2 ^ 128 < a + len)

/-- Every level the code visits is exact, and so is the final check. -/
def WalkExact : DtDevice → DtBusAddress → Prop
  | .root _, address => CpuCheckExact length address
  | .child i parent, address =>
    LevelExact fdt (.child i parent) address length ∧
      ∀ out, dtDeviceTranslateRangeInternal fdt (.child i parent) address length = .ok out →
        WalkExact parent out

def WalkSound (len : Nat) : DtDevice → Nat → Prop
  | .root _, a => CpuCheckSound len a
  | .child i parent, a =>
    LevelSound fdt (.child i parent) len a ∧
      ∀ b, exactLevel fdt (.child i parent) len a = .mapped b → WalkSound len parent b

def TranslationStepsExact (device : DtDevice) (address : DtBusAddress) : Prop :=
  match device.parent? with
  | none => CpuCheckExact length address
  | some parent => WalkExact fdt length parent address

def TranslationSound (device : DtDevice) (len a : Nat) : Prop :=
  match device.parent? with
  | none => CpuCheckSound len a
  | some parent => WalkSound fdt len parent a

theorem cpuCheckExact_iff (address : DtBusAddress) :
    CpuCheckExact length address ↔ CpuCheckSound length.toNat address.toNat := by
  have ha := address.isLt
  have hl := length.isLt
  have hzero : length = 0 ↔ length.toNat = 0 := by
    rw [BitVec.toNat_eq]; rfl
  have hone : (1 : U128).toNat = 1 := rfl
  simp only [CpuCheckExact, CpuCheckSound, cpuRangeAccepts, Span.Within, Span.limit_mk,
    Bool.and_eq_true, Bool.or_eq_true, decide_eq_true_eq, beq_iff_eq, BitVec.le_def, hzero,
    BitVec.toNat_sub, BitVec.toNat_add, BitVec.toNat_ofNat, hone, MAX_ADDRESS]
  omega

theorem walkExact_iff (device : DtDevice) (address : DtBusAddress) :
    WalkExact fdt length device address ↔
      WalkSound fdt length.toNat device address.toNat := by
  induction device generalizing address with
  | root i => exact cpuCheckExact_iff length address
  | child i parent ih =>
      rw [WalkExact, WalkSound, ← levelExact_iff]
      refine and_congr_right fun hlevel => ?_
      rw [exactLevel_of_levelExact fdt _ address length hlevel]
      cases hstep : dtDeviceTranslateRangeInternal fdt (.child i parent) address length with
      | ok out => simp [ih]
      | error e => cases e <;> simp

theorem translateRangeUp_exact (device : DtDevice) (address : DtBusAddress)
    (h : WalkExact fdt length device address) (out : DtBusAddress)
    (bus : Option DtDevice)
    (hrun : translateRangeUp fdt length device address = .ok (out, bus)) :
    exactUp fdt length.toNat device address.toNat = .ok (out.toNat, bus) ∧
      (bus = none → CpuCheckExact length out) := by
  induction device generalizing address with
  | root i =>
      simp only [translateRangeUp, dtDeviceTranslateRangeInternal, DtDevice.parent?_root,
        Option.isNone_none, if_true, Except.ok.injEq, Prod.mk.injEq] at hrun
      obtain ⟨rfl, rfl⟩ := hrun
      exact ⟨by simp [exactUp, exactLevel], fun _ => h⟩
  | child i parent ih =>
      obtain ⟨hlevel, hnext⟩ := h
      rw [exactUp, exactLevel_of_levelExact fdt _ address length hlevel]
      rw [translateRangeUp] at hrun
      cases hstep : dtDeviceTranslateRangeInternal fdt (.child i parent) address length with
      | ok mid =>
          rw [hstep] at hrun
          exact ih mid (hnext mid hstep) hrun
      | error e =>
          rw [hstep] at hrun
          cases e with
          | notFound =>
              simp only [Except.ok.injEq, Prod.mk.injEq] at hrun
              obtain ⟨rfl, rfl⟩ := hrun
              exact ⟨rfl, by simp⟩
          | _ => simp at hrun

end Walk

/-- Every step of a translation is exact if and only if no sum of its exact
composition wraps, and then the translation as a whole is the composition. -/
theorem translateRangeToCpu_exact_iff (fdt : Fdt) (device : DtDevice)
    (address : DtBusAddress) (length : DtSize) :
    (TranslationStepsExact fdt length device address ↔
        TranslationSound fdt device length.toNat address.toNat) ∧
      (TranslationSound fdt device length.toNat address.toNat →
        TranslationExact fdt device address length) := by
  have hsteps : TranslationStepsExact fdt length device address ↔
      TranslationSound fdt device length.toNat address.toNat := by
    cases device with
    | root i => exact cpuCheckExact_iff length address
    | child i parent => exact walkExact_iff fdt length parent address
  refine ⟨hsteps, fun hsound out bus hrun => ?_⟩
  have hexact := hsteps.mpr hsound
  cases device with
  | root i =>
      simp only [dtDeviceTranslateRangeToCpu, DtDevice.parent?_root] at hrun
      split at hrun
      · next haccept =>
          simp only [Except.ok.injEq, Prod.mk.injEq] at hrun
          obtain ⟨rfl, rfl⟩ := hrun
          exact ⟨rfl, fun _ => hexact haccept⟩
      · simp at hrun
  | child i parent =>
      simp only [dtDeviceTranslateRangeToCpu, DtDevice.parent?_child] at hrun
      cases hup : translateRangeUp fdt length parent address with
      | error e => simp [hup] at hrun
      | ok reached =>
          obtain ⟨mid, stopped⟩ := reached
          obtain ⟨hcomp, hcheck⟩ :=
            translateRangeUp_exact fdt length parent address hexact mid stopped hup
          rw [hup] at hrun
          cases stopped with
          | some busDevice =>
              simp only [Except.ok.injEq, Prod.mk.injEq] at hrun
              obtain ⟨rfl, rfl⟩ := hrun
              exact ⟨hcomp, by simp⟩
          | none =>
              simp only at hrun
              split at hrun
              · next haccept =>
                  simp only [Except.ok.injEq, Prod.mk.injEq] at hrun
                  obtain ⟨rfl, rfl⟩ := hrun
                  exact ⟨hcomp, fun _ => hcheck rfl haccept⟩
              · simp at hrun

/-- A device directly below the root, with four size cells. -/
def wideSizeDevice : DtDevice :=
  .child ⟨2, 2, 8, 1, 4, 0, 0, false, 0, none, MAX_UINT64⟩
    (.root ⟨1, 1, 0, 2, 1, 1, 4, false, 0, none, MAX_UINT64⟩)

def emptyFdt : Fdt := ⟨fun _ => 0, fun _ _ => .error .notFound⟩

/-- A `reg` entry at 2 of size `2 ^ 128 - 1` is accepted as a CPU range. -/
theorem translateRangeToCpu_wrapped_end :
    ¬ TranslationExact emptyFdt wideSizeDevice 2 (BitVec.ofNat 128 (2 ^ 128 - 1)) := by
  intro h
  exact absurd ((h 2 none (by decide)).2 rfl) (by decide)

end FdtBusPkg
