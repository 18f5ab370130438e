import FdtBusPkg.DtBus.Registers

/-!
Register accesses against the register window, in exact arithmetic. The code's
bound is computed in `UINTN` and `EFI_DT_SIZE`; it agrees with the exact bound
unless one of the two wraps and the wrapped end falls back inside the window.
-/
namespace FdtBusPkg

def regExtent (width : DtIoWidth) (count : Uintn) : Nat :=
  if width.IsFifo then width.bytes else count.toNat * width.bytes

/-- `[Offset, Offset + extent)` lies inside `[0, Reg.Length)`. -/
def InWindow (reg : DtReg) (width : DtIoWidth) (offset : DtSize) (count : Uintn) : Prop :=
  Span.Within ⟨offset.toNat, regExtent width count⟩ ⟨0, reg.length.toNat⟩

instance (reg : DtReg) (width : DtIoWidth) (offset : DtSize) (count : Uintn) :
    Decidable (InWindow reg width offset count) :=
  inferInstanceAs (Decidable (Span.Within _ _))

/-- The arguments name a device, a register, a width and a buffer, and the
device that has to perform the access can perform it. -/
def RegServed (childReg : DtIoCallbacks → Bool) (this : Option DtDevice)
    (width : DtIoWidth) (reg : DtReg) (buffer : Bool) : Prop :=
  ∃ device, this = some device ∧ buffer = true ∧ width ≠ .maximum ∧
    (reg.busDtIo = some device.info.dtIo →
      ∃ callbacks, device.info.callbacks = some callbacks ∧ childReg callbacks = true)

/-- The end computed by the code is within the window's length. -/
def RegEndAccepted (width : DtIoWidth) (reg : DtReg) (offset : DtSize) (count : Uintn) :
    Prop :=
  regAccessEnd width offset count ≤ reg.length

/-- The sum does not wrap, or the window contains the access all the same, or
the wrapped sum still lies beyond the window. -/
def RegEndSound (width : DtIoWidth) (reg : DtReg) (offset : DtSize) (count : Uintn) :
    Prop :=
  let extent := regExtent width count
  (extent < 2 ^ 64 ∧ offset.toNat + extent < 2 ^ 128) ∨
    offset.toNat + extent ≤ reg.length.toNat ∨
    reg.length.toNat < (offset.toNat + extent % 2 ^ 64) % 2 ^ 128

instance (width : DtIoWidth) (reg : DtReg) (offset : DtSize) (count : Uintn) :
    Decidable (RegEndAccepted width reg offset count) :=
  inferInstanceAs (Decidable (_ ≤ _))

theorem inWindow_iff (reg : DtReg) (width : DtIoWidth) (offset : DtSize) (count : Uintn) :
    InWindow reg width offset count ↔
      offset.toNat + regExtent width count ≤ reg.length.toNat := by
  simp [InWindow, Span.Within]

theorem toNat_regAccessEnd (width : DtIoWidth) (offset : DtSize) (count : Uintn) :
    (regAccessEnd width offset count).toNat =
      (offset.toNat + regExtent width count % 2 ^ 64) % 2 ^ 128 := by
  have hb := width.bytes_le
  have hbytes : (BitVec.ofNat 64 width.bytes).toNat = width.bytes := by
    rw [BitVec.toNat_ofNat]
    omega
  unfold regAccessEnd regExtent
  split
  · simp only [BitVec.toNat_add, BitVec.toNat_setWidth, BitVec.toNat_mul, hbytes]
    simp
  · simp only [BitVec.toNat_add, BitVec.toNat_setWidth, BitVec.toNat_mul, hbytes]
    omega

theorem regEndAccepted_iff (width : DtIoWidth) (reg : DtReg) (offset : DtSize)
    (count : Uintn) :
    RegEndAccepted width reg offset count ↔
      (offset.toNat + regExtent width count % 2 ^ 64) % 2 ^ 128 ≤ reg.length.toNat := by
  rw [RegEndAccepted, BitVec.le_def, toNat_regAccessEnd]

theorem regEndAccepted_inWindow_iff (width : DtIoWidth) (reg : DtReg) (offset : DtSize)
    (count : Uintn) :
    (RegEndAccepted width reg offset count → InWindow reg width offset count) ↔
      RegEndSound width reg offset count := by
  rw [regEndAccepted_iff, inWindow_iff]
  have hlen := reg.length.isLt
  constructor
  · intro h
    by_cases hacc : (offset.toNat + regExtent width count % 2 ^ 64) % 2 ^ 128 ≤
        reg.length.toNat
    · exact Or.inr (Or.inl (h hacc))
    · exact Or.inr (Or.inr (Nat.lt_of_not_le hacc))
  · rintro (⟨hmul, hadd⟩ | hin | hout) hacc
    · rw [Nat.mod_eq_of_lt hmul, Nat.mod_eq_of_lt hadd] at hacc
      exact hacc
    · exact hin
    · exact absurd hacc (Nat.not_le.mpr hout)

section Access

variable (childReg : DtIoCallbacks → Bool) (this : Option DtDevice) (width : DtIoWidth)
  (offset : DtSize) (count : Uintn) (buffer : Bool)

private theorem index_ge_maximum_iff (w : DtIoWidth) :
    w.index ≥ DtIoWidth.maximum.index ↔ w = .maximum := by
  cases w <;> decide

theorem dtIoAccessReg_isOk (reg : DtReg) :
    (∃ a, dtIoAccessReg childReg this width (some reg) offset count buffer = .ok a) ↔
      RegServed childReg this width reg buffer ∧
        RegEndAccepted width reg offset count := by
  cases this with
  | none => simp [dtIoAccessReg, RegServed]
  | some device =>
      simp only [dtIoAccessReg, RegServed, RegEndAccepted, Option.some.injEq,
        exists_eq_left', index_ge_maximum_iff, Bool.or_eq_true, Bool.not_eq_true',
        decide_eq_true_eq]
      by_cases hargs : buffer = false ∨ width = .maximum
      · rw [if_pos hargs]
        rcases hargs with h | h <;> simp [h]
      · rw [if_neg hargs]
        obtain ⟨hbuf, hwidth⟩ := not_or.mp hargs
        have hbuf : buffer = true := by simpa using hbuf
        by_cases hend : regAccessEnd width offset count > reg.length
        · rw [if_pos hend]
          simp [BitVec.not_le.mpr hend]
        · rw [if_neg hend]
          have hle : regAccessEnd width offset count ≤ reg.length := BitVec.not_lt.mp hend
          simp only [hbuf, hwidth, hle, and_true, true_and, ne_eq, not_false_eq_true]
          cases hbus : reg.busDtIo with
          | none => simp
          | some bus =>
              by_cases hthis : device.info.dtIo = bus
              · cases hcb : device.info.callbacks with
                | none => simp [hthis]
                | some callbacks => cases hc : childReg callbacks <;> simp [hthis, hc]
              · simp [hthis, Ne.symm hthis]

theorem dtIoAccessReg_inWindow_iff (reg : DtReg) :
    (∀ a, dtIoAccessReg childReg this width (some reg) offset count buffer = .ok a →
        InWindow reg width offset count) ↔
      (RegServed childReg this width reg buffer → RegEndSound width reg offset count) := by
  rw [← regEndAccepted_inWindow_iff]
  have hok := dtIoAccessReg_isOk childReg this width offset count buffer reg
  constructor
  · intro h hserved hacc
    obtain ⟨a, ha⟩ := hok.mpr ⟨hserved, hacc⟩
    exact h a ha
  · intro h a ha
    obtain ⟨hserved, hacc⟩ := hok.mp ⟨a, ha⟩
    exact h hserved hacc

/-- Where an access at an offset of a register space goes. -/
def windowTarget (reg : DtReg) (offset : Nat) : RegTarget :=
  match reg.busDtIo with
  | none => .cpuIo2 ((reg.translatedBase + BitVec.ofNat 128 offset).setWidth 64)
  | some bus => .busDtIo bus reg (BitVec.ofNat 128 offset)

theorem dtIoAccessReg_of_extent (device : DtDevice) (reg : DtReg) (offset : Nat)
    (hwidth : width ≠ .maximum) (hbus : reg.busDtIo ≠ some device.info.dtIo)
    (hoffset : offset < 2 ^ 64) (hextent : regExtent width count < 2 ^ 64) :
    dtIoAccessReg childReg (some device) width (some reg) (BitVec.ofNat 128 offset) count true =
      if offset + regExtent width count ≤ reg.length.toNat then
        .ok ⟨windowTarget reg offset, width, count⟩
      else
        .error .invalidParameter := by
  have hvalid : ¬ width.index ≥ DtIoWidth.maximum.index := by
    rw [index_ge_maximum_iff]
    exact hwidth
  have hend : (regAccessEnd width (BitVec.ofNat 128 offset) count > reg.length) ↔
      ¬ offset + regExtent width count ≤ reg.length.toNat := by
    rw [gt_iff_lt, BitVec.lt_def, toNat_regAccessEnd, BitVec.toNat_ofNat]
    omega
  simp only [dtIoAccessReg, decide_eq_false hvalid, Bool.not_true, Bool.or_self,
    Bool.false_eq_true, if_false, hend]
  by_cases hin : offset + regExtent width count ≤ reg.length.toNat
  · rw [if_neg (not_not_intro hin), if_pos hin]
    cases hsome : reg.busDtIo with
    | none => simp only [windowTarget, hsome]
    | some bus =>
        have hne : ¬ device.info.dtIo = bus := by
          intro heq
          exact hbus (by rw [hsome, heq])
        simp only [if_neg hne, windowTarget, hsome]
  · rw [if_pos hin, if_neg hin]

end Access

/-- Only in-window accesses are forwarded, and every other request is an error. -/
def AccessConfined (result : EfiResult RegAccess) (reg : DtReg) (width : DtIoWidth)
    (offset : DtSize) (count : Uintn) : Prop :=
  (∀ a, result = .ok a → InWindow reg width offset count) ∧
    (¬ InWindow reg width offset count → ∃ e, result = .error e)

theorem accessConfined_iff (result : EfiResult RegAccess) (reg : DtReg)
    (width : DtIoWidth) (offset : DtSize) (count : Uintn) :
    AccessConfined result reg width offset count ↔
      ∀ a, result = .ok a → InWindow reg width offset count := by
  refine ⟨fun h => h.1, fun h => ⟨h, fun hout => ?_⟩⟩
  cases hr : result with
  | error e => exact ⟨e, rfl⟩
  | ok a => exact absurd (h a hr) hout

/-- Whatever the pool and the accessed devices do, `CopyReg` reads only inside
the source window and writes only inside the destination window, and fails when
one of the two does not contain its range. -/
def CopyConfined (this : Option DtDevice) (width : DtIoWidth) (dest : DtReg)
    (destOffset : DtSize) (src : DtReg) (srcOffset : DtSize) (count : Uintn) : Prop :=
  ∀ (σ : Type) (world : RegWorld σ) (pool : Uintn → Bool) (s : σ),
    let run := dtIoCopyReg world pool this width (some dest) destOffset (some src)
      srcOffset count s
    (∀ a, .read a ∈ run.events → InWindow src width srcOffset count) ∧
      (∀ a, .write a ∈ run.events → InWindow dest width destOffset count) ∧
      (¬ (InWindow src width srcOffset count ∧ InWindow dest width destOffset count) →
        ∃ e, run.status = .error e)

section Copy

variable (this : Option DtDevice) (width : DtIoWidth) (dest src : DtReg)
  (destOffset srcOffset : DtSize) (count : Uintn)

theorem dtIoCopyReg_events {σ : Type} (world : RegWorld σ) (pool : Uintn → Bool) (s : σ) :
    let run := dtIoCopyReg world pool this width (some dest) destOffset (some src)
      srcOffset count s
    (∀ a, .read a ∈ run.events →
        dtIoReadReg this width (some src) srcOffset count true = .ok a) ∧
      (∀ b, .write b ∈ run.events →
        (∃ a, dtIoReadReg this width (some src) srcOffset count true = .ok a) ∧
          dtIoWriteReg this width (some dest) destOffset count true = .ok b) ∧
      (run.status = .ok () →
        (∃ a, .read a ∈ run.events) ∧ (∃ b, .write b ∈ run.events)) := by
  unfold dtIoCopyReg
  split
  · simp
  · cases hpool : pool (copyBufferSize width count) with
    | false => simp [hpool]
    | true =>
        cases hread : dtIoReadReg this width (some src) srcOffset count true with
        | error e => simp [hpool]
        | ok a =>
            rcases hrun : world.read a zeroBuffer s with ⟨status, buffer, s'⟩
            cases status with
            | error e => simp [hpool, hrun]
            | ok u =>
                cases hwrite :
                    dtIoWriteReg this width (some dest) destOffset count true with
                | error e => simp [hpool, hrun]
                | ok b => simp [hpool, hrun]

private def answeringWorld : RegWorld Unit where
  read _ buffer _ := (.ok (), buffer, ())
  write _ _ _ := (.ok (), ())

private theorem dtIoCopyReg_answering (a : RegAccess)
    (hread : dtIoReadReg this width (some src) srcOffset count true = .ok a) :
    let run := dtIoCopyReg answeringWorld (fun _ => true) this width (some dest)
      destOffset (some src) srcOffset count ()
    .read a ∈ run.events ∧
      ∀ b, dtIoWriteReg this width (some dest) destOffset count true = .ok b →
        .write b ∈ run.events := by
  obtain ⟨⟨device, hdev, -, hwidth, -⟩, -⟩ :=
    (dtIoAccessReg_isOk _ this width srcOffset count true src).mp ⟨a, hread⟩
  have hargs : ¬ (this.isNone || (some dest).isNone || (some src).isNone ||
      decide (width.index ≥ DtIoWidth.maximum.index)) = true := by
    simpa [hdev] using fun h => hwidth ((index_ge_maximum_iff width).mp h)
  unfold dtIoCopyReg
  rw [if_neg hargs, hread]
  cases hwrite : dtIoWriteReg this width (some dest) destOffset count true <;>
    simp [answeringWorld]

theorem copyConfined_iff :
    CopyConfined this width dest destOffset src srcOffset count ↔
      (∀ a, dtIoReadReg this width (some src) srcOffset count true = .ok a →
          InWindow src width srcOffset count ∧
            ∀ b, dtIoWriteReg this width (some dest) destOffset count true = .ok b →
              InWindow dest width destOffset count) := by
  constructor
  · intro h a hread
    obtain ⟨hr, hw, -⟩ := h Unit answeringWorld (fun _ => true) ()
    obtain ⟨ha, hb⟩ :=
      dtIoCopyReg_answering this width dest src destOffset srcOffset count a hread
    exact ⟨hr a ha, fun b hwrite => hw b (hb b hwrite)⟩
  · intro h σ world pool s
    obtain ⟨hr, hw, hs⟩ :=
      dtIoCopyReg_events this width dest src destOffset srcOffset count world pool s
    have hreads := fun a ha => (h a (hr a ha)).1
    have hwrites := fun b hb => (hw b hb).1.elim fun a ha => (h a ha).2 b (hw b hb).2
    refine ⟨hreads, hwrites, fun hout => ?_⟩
    cases hstatus : (dtIoCopyReg world pool this width (some dest) destOffset (some src)
        srcOffset count s).status with
    | error e => exact ⟨e, rfl⟩
    | ok u =>
        obtain ⟨⟨a, ha⟩, b, hb⟩ := hs hstatus
        exact absurd ⟨hreads a ha, hwrites b hb⟩ hout

end Copy

/-- Register accesses stay inside the register windows exactly when no request
that is served passes its bound by a wrap. -/
theorem registerAccess_confined_iff (this : Option DtDevice) (width : DtIoWidth)
    (reg src : DtReg) (offset srcOffset : DtSize) (count : Uintn) (buffer : Bool) :
    (AccessConfined (dtIoReadReg this width (some reg) offset count buffer) reg width
        offset count ↔
      (RegServed DtIoCallbacks.readChildReg this width reg buffer →
        RegEndSound width reg offset count)) ∧
    (AccessConfined (dtIoWriteReg this width (some reg) offset count buffer) reg width
        offset count ↔
      (RegServed DtIoCallbacks.writeChildReg this width reg buffer →
        RegEndSound width reg offset count)) ∧
    (CopyConfined this width reg offset src srcOffset count ↔
      (RegServed DtIoCallbacks.readChildReg this width src true →
        RegEndSound width src srcOffset count ∧
          (RegEndAccepted width src srcOffset count →
            RegServed DtIoCallbacks.writeChildReg this width reg true →
              RegEndSound width reg offset count))) := by
  refine ⟨?_, ?_, ?_⟩
  · rw [accessConfined_iff]
    exact dtIoAccessReg_inWindow_iff _ this width offset count buffer reg
  · rw [accessConfined_iff]
    exact dtIoAccessReg_inWindow_iff _ this width offset count buffer reg
  · rw [copyConfined_iff]
    have hread := dtIoAccessReg_isOk DtIoCallbacks.readChildReg this width srcOffset count
      true src
    have hsrc := dtIoAccessReg_inWindow_iff DtIoCallbacks.readChildReg this width srcOffset
      count true src
    have hdest := dtIoAccessReg_inWindow_iff DtIoCallbacks.writeChildReg this width offset
      count true reg
    constructor
    · intro h hserved
      refine ⟨hsrc.mp (fun a ha => (h a ha).1) hserved, fun hacc hdst => ?_⟩
      obtain ⟨a, ha⟩ := hread.mpr ⟨hserved, hacc⟩
      exact hdest.mp (h a ha).2 hdst
    · intro h a ha
      obtain ⟨hserved, hacc⟩ := hread.mp ⟨a, ha⟩
      obtain ⟨hsound, hrest⟩ := h hserved
      exact ⟨hsrc.mpr (fun _ => hsound) a ha, hdest.mpr (hrest hacc)⟩

def plainDevice : DtDevice :=
  .root ⟨1, 1, 0, 2, 1, 2, 1, false, 0, none, MAX_UINT64⟩

/-- `2 ^ 61` elements of eight bytes wrap to an extent of zero, which fits even
an empty window. -/
theorem readReg_wrapped_count :
    ¬ AccessConfined
      (dtIoReadReg (some plainDevice) .uint64 (some ⟨0, 0, 0, none⟩) 0
        (BitVec.ofNat 64 (2 ^ 61)) true)
      ⟨0, 0, 0, none⟩ .uint64 0 (BitVec.ofNat 64 (2 ^ 61)) := by
  intro h
  exact absurd (h.1 ⟨.cpuIo2 0, .uint64, BitVec.ofNat 64 (2 ^ 61)⟩ (by decide)) (by decide)

end FdtBusPkg
