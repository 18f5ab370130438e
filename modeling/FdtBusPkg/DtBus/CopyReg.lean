import FdtBusPkg.Library.PlacedCopy
import FdtBusPkg.DtBus.RegisterWindow

/-!
`CopyReg` on register windows that are memory. The two accesses go through a
buffer that is filled before the first write, so however the two ranges lie to
each other the copy is that of a snapshot; the buffer, though, has the size of a
product taken in `UINTN`, and each of the two accesses moves the exact number of
bytes.
-/
namespace FdtBusPkg

inductive RegByte
  | cpu (address : U64)
  | bus (bus : DtIoRef) (address : DtBusAddress)
  deriving DecidableEq, Repr

/-- Byte `n` of a register window. -/
def windowByte (reg : DtReg) (n : Nat) : RegByte :=
  match reg.busDtIo with
  | none => .cpu ((reg.translatedBase + BitVec.ofNat 128 n).setWidth 64)
  | some bus => .bus bus (reg.busBase + BitVec.ofNat 128 n)

/-- Byte `k` of what an access touches. -/
def targetByte : RegTarget → Nat → RegByte
  | .cpuIo2 address, k => .cpu (address + BitVec.ofNat 64 k)
  | .busDtIo bus reg offset, k => .bus bus (reg.busBase + offset + BitVec.ofNat 128 k)
  | .childReg bus reg offset, k => .bus bus (reg.busBase + offset + BitVec.ofNat 128 k)

/-- The widths that move on through both the window and the buffer. -/
def DtIoWidth.IsPlain (w : DtIoWidth) : Prop := w.index ≤ DtIoWidth.uint64.index

instance (w : DtIoWidth) : Decidable w.IsPlain := inferInstanceAs (Decidable (_ ≤ _))

/-- Bytes of the buffer an access of a plain width reads or writes. -/
def RegAccess.bufferBytes (a : RegAccess) : Nat := a.count.toNat * a.width.bytes

/-- Register windows that are memory. An access may fail, and then leave anything
behind; one that succeeds has moved all of its bytes and touched no others. -/
structure RegMemory extends RegWorld (RegByte → U8) where
  read_ok : ∀ (a : RegAccess) (buffer : Nat → U8) (m : RegByte → U8), a.width.IsPlain →
    (read a buffer m).1 = .ok () →
      (read a buffer m).2 = (PlacedCopy.load (targetByte a.target) a.bufferBytes m buffer, m)
  write_ok : ∀ (a : RegAccess) (buffer : Nat → U8) (m : RegByte → U8), a.width.IsPlain →
    (write a buffer m).1 = .ok () →
      (write a buffer m).2 = PlacedCopy.store (targetByte a.target) buffer a.bufferBytes m

def RegMemory.answering : RegMemory where
  read a buffer m := (.ok (), PlacedCopy.load (targetByte a.target) a.bufferBytes m buffer, m)
  write a buffer m := (.ok (), PlacedCopy.store (targetByte a.target) buffer a.bufferBytes m)
  read_ok _ _ _ _ _ := rfl
  write_ok _ _ _ _ _ := rfl

/-- What `DtIoReadReg` returns and leaves, the forwarded access included. -/
def readRegCall {σ : Type} (world : RegWorld σ) (this : Option DtDevice) (width : DtIoWidth)
    (reg : Option DtReg) (offset : DtSize) (count : Uintn) (buffer : Nat → U8) (s : σ) :
    EfiStatus × (Nat → U8) × σ :=
  match dtIoReadReg this width reg offset count true with
  | .error e => (.error e, buffer, s)
  | .ok a => world.read a buffer s

/-- What `DtIoWriteReg` returns and leaves, the forwarded access included. -/
def writeRegCall {σ : Type} (world : RegWorld σ) (this : Option DtDevice) (width : DtIoWidth)
    (reg : Option DtReg) (offset : DtSize) (count : Uintn) (buffer : Nat → U8) (s : σ) :
    EfiStatus × σ :=
  match dtIoWriteReg this width reg offset count true with
  | .error e => (.error e, s)
  | .ok a => world.write a buffer s

/-- No access of a copy reaches beyond the buffer allocated for it. -/
def BufferContained (events : List CopyEvent) : Prop :=
  ∀ size a, .allocate size ∈ events → .read a ∈ events ∨ .write a ∈ events →
    a.bufferBytes ≤ size.toNat

/-- The destination range holds what the source range held in `m`, and every
other byte what it held in `m`. -/
def SnapshotCopied (dest src : DtReg) (destOffset srcOffset : DtSize) (extent : Nat)
    (m m' : RegByte → U8) : Prop :=
  (∀ k < extent,
      m' (windowByte dest (destOffset.toNat + k)) = m (windowByte src (srcOffset.toNat + k))) ∧
    ∀ b, (∀ k < extent, windowByte dest (destOffset.toNat + k) ≠ b) → m' b = m b

/-- What is expected of `CopyReg`, whatever the pool and the windows answer. -/
def CopiesSnapshot (this : Option DtDevice) (width : DtIoWidth) (dest : DtReg)
    (destOffset : DtSize) (src : DtReg) (srcOffset : DtSize) (count : Uintn) : Prop :=
  ∀ (windows : RegMemory) (pool : Uintn → Bool) (m : RegByte → U8),
    let run := dtIoCopyReg windows.toRegWorld pool this width (some dest) destOffset (some src)
      srcOffset count m
    let readRun := readRegCall windows.toRegWorld this width (some src) srcOffset count
      zeroBuffer m
    let writeRun := writeRegCall windows.toRegWorld this width (some dest) destOffset count
      readRun.2.1 readRun.2.2
    (run.status = .ok () →
      SnapshotCopied dest src destOffset srcOffset (regExtent width count) m run.world ∧
        BufferContained run.events) ∧
      ((∃ e, readRun.1 = .error e) ∨ (∃ e, writeRun.1 = .error e) →
        ∃ e, run.status = .error e)

theorem DtIoWidth.IsPlain.not_isFifo {w : DtIoWidth} (h : w.IsPlain) : ¬ w.IsFifo := by
  cases w <;> revert h <;> decide

theorem regExtent_of_isPlain {width : DtIoWidth} (hplain : width.IsPlain) (count : Uintn) :
    regExtent width count = count.toNat * width.bytes :=
  if_neg hplain.not_isFifo

theorem regExtent_le_copyBufferSize_iff {width : DtIoWidth} (hplain : width.IsPlain)
    (count : Uintn) :
    regExtent width count ≤ (copyBufferSize width count).toNat ↔
      regExtent width count < 2 ^ 64 := by
  have hbytes : (BitVec.ofNat 64 width.bytes).toNat = width.bytes := by
    have := width.bytes_le
    rw [BitVec.toNat_ofNat]
    omega
  have hproduct : (BitVec.ofNat 64 width.bytes * count).toNat =
      regExtent width count % 2 ^ 64 := by
    rw [BitVec.toNat_mul, hbytes, regExtent_of_isPlain hplain, Nat.mul_comm]
  have hlt := (copyBufferSize width count).isLt
  constructor
  · omega
  · intro hextent
    simp only [copyBufferSize]
    split
    · next hzero =>
        have hextent0 : regExtent width count = 0 := by
          rw [hzero, Nat.mod_eq_of_lt hextent] at hproduct
          exact hproduct.symm
        rw [hextent0]
        exact Nat.zero_le _
    · omega

theorem windowByte_injOn (reg : DtReg) (n : Nat) {extent : Nat} (hextent : extent ≤ 2 ^ 64) :
    Set.InjOn (fun k => windowByte reg (n + k)) (Set.Iio extent) := by
  intro i hi j hj heq
  have hi : i < extent := hi
  have hj : j < extent := hj
  simp only [windowByte] at heq
  cases hbus : reg.busDtIo with
  | none =>
      simp only [hbus, RegByte.cpu.injEq] at heq
      have heq := congrArg BitVec.toNat heq
      simp only [BitVec.toNat_setWidth, BitVec.toNat_add, BitVec.toNat_ofNat] at heq
      omega
  | some bus =>
      simp only [hbus, RegByte.bus.injEq, true_and] at heq
      have heq := congrArg BitVec.toNat heq
      simp only [BitVec.toNat_add, BitVec.toNat_ofNat] at heq
      omega

theorem targetByte_of_dtIoAccessReg {childReg : DtIoCallbacks → Bool} {this : Option DtDevice}
    {width : DtIoWidth} {reg : DtReg} {offset : DtSize} {count : Uintn} {a : RegAccess}
    (h : dtIoAccessReg childReg this width (some reg) offset count true = .ok a) :
    a.width = width ∧ a.count = count ∧
      targetByte a.target = fun k => windowByte reg (offset.toNat + k) := by
  have hofNat (n k : Nat) : BitVec.ofNat 128 (n + k) = BitVec.ofNat 128 n + BitVec.ofNat 128 k :=
    BitVec.ofNat_add n k
  cases this with
  | none => cases h
  | some device =>
      simp only [dtIoAccessReg] at h
      split at h
      · cases h
      · split at h
        · cases h
        · split at h
          · next bus hbus =>
              have hplace (k : Nat) : windowByte reg (offset.toNat + k) =
                  .bus bus (reg.busBase + offset + BitVec.ofNat 128 k) := by
                rw [windowByte, hbus, hofNat, BitVec.ofNat_toNat, BitVec.setWidth_eq,
                  BitVec.add_assoc]
              split at h
              · split at h
                · cases h
                · split at h
                  · cases h
                    exact ⟨rfl, rfl, funext fun k => (hplace k).symm⟩
                  · cases h
              · cases h
                exact ⟨rfl, rfl, funext fun k => (hplace k).symm⟩
          · next hbus =>
              cases h
              refine ⟨rfl, rfl, funext fun k => ?_⟩
              rw [windowByte, hbus, targetByte, hofNat, BitVec.ofNat_toNat, BitVec.setWidth_eq,
                ← BitVec.add_assoc, BitVec.setWidth_add _ (BitVec.ofNat 128 k) (by decide),
                BitVec.setWidth_ofNat_of_le (by decide)]

section Copy

variable {this : Option DtDevice} {width : DtIoWidth} {dest src : DtReg}
  {destOffset srcOffset : DtSize} {count : Uintn}

theorem dtIoCopyReg_ok {σ : Type} {world : RegWorld σ} {pool : Uintn → Bool} {s : σ}
    {run : CopyRun σ}
    (hrun : dtIoCopyReg world pool this width (some dest) destOffset (some src) srcOffset
      count s = run)
    (hstatus : run.status = .ok ()) :
    ∃ a b buffer s', dtIoReadReg this width (some src) srcOffset count true = .ok a ∧
      world.read a zeroBuffer s = (.ok (), buffer, s') ∧
      dtIoWriteReg this width (some dest) destOffset count true = .ok b ∧
      world.write b buffer s' = (.ok (), run.world) ∧
      run.events = [.allocate (copyBufferSize width count), .read a, .write b, .free] := by
  simp only [dtIoCopyReg] at hrun
  split at hrun
  · exact nomatch hstatus.symm.trans (congrArg CopyRun.status hrun).symm
  · split at hrun
    · exact nomatch hstatus.symm.trans (congrArg CopyRun.status hrun).symm
    · cases hread : dtIoReadReg this width (some src) srcOffset count true with
      | error e =>
          simp only [hread] at hrun
          exact nomatch hstatus.symm.trans (congrArg CopyRun.status hrun).symm
      | ok a =>
          rcases hcall : world.read a zeroBuffer s with ⟨_ | _, buffer, s'⟩
          · simp only [hread, hcall] at hrun
            exact nomatch hstatus.symm.trans (congrArg CopyRun.status hrun).symm
          · cases hwrite : dtIoWriteReg this width (some dest) destOffset count true with
            | error e =>
                simp only [hread, hcall, hwrite] at hrun
                exact nomatch hstatus.symm.trans (congrArg CopyRun.status hrun).symm
            | ok b =>
                simp only [hread, hcall, hwrite] at hrun
                subst hrun
                exact ⟨a, b, buffer, s', rfl, hcall, rfl, Prod.ext hstatus rfl, rfl⟩

theorem dtIoCopyReg_reports {σ : Type} (world : RegWorld σ) (pool : Uintn → Bool) (s : σ) :
    let readRun := readRegCall world this width (some src) srcOffset count zeroBuffer s
    let writeRun := writeRegCall world this width (some dest) destOffset count readRun.2.1
      readRun.2.2
    (∃ e, readRun.1 = .error e) ∨ (∃ e, writeRun.1 = .error e) →
      ∃ e, (dtIoCopyReg world pool this width (some dest) destOffset (some src) srcOffset
        count s).status = .error e := by
  intro readRun writeRun hfails
  cases hstatus : (dtIoCopyReg world pool this width (some dest) destOffset (some src)
      srcOffset count s).status with
  | error e => exact ⟨e, rfl⟩
  | ok u =>
      obtain ⟨a, b, buffer, s', hread, hcall, hwrite, hstore, -⟩ := dtIoCopyReg_ok rfl hstatus
      have hreadRun : readRun = (.ok (), buffer, s') := by
        simp only [readRun, readRegCall, hread, hcall]
      have hwriteRun : writeRun.1 = .ok () := by
        simp only [writeRun, hreadRun, writeRegCall, hwrite, hstore]
      rw [hreadRun, hwriteRun] at hfails
      rcases hfails with ⟨e, he⟩ | ⟨e, he⟩ <;> cases he

theorem snapshotCopied_of_ok (windows : RegMemory) {pool : Uintn → Bool} {m : RegByte → U8}
    {run : CopyRun (RegByte → U8)} (hplain : width.IsPlain)
    (hextent : regExtent width count < 2 ^ 64)
    (hrun : dtIoCopyReg windows.toRegWorld pool this width (some dest) destOffset (some src)
      srcOffset count m = run)
    (hstatus : run.status = .ok ()) :
    SnapshotCopied dest src destOffset srcOffset (regExtent width count) m run.world := by
  obtain ⟨a, b, buffer, s', hread, hcall, hwrite, hstore, -⟩ := dtIoCopyReg_ok hrun hstatus
  obtain ⟨hawidth, hacount, haplace⟩ := targetByte_of_dtIoAccessReg hread
  obtain ⟨hbwidth, hbcount, hbplace⟩ := targetByte_of_dtIoAccessReg hwrite
  have habytes : a.bufferBytes = regExtent width count := by
    rw [RegAccess.bufferBytes, hawidth, hacount, regExtent_of_isPlain hplain]
  have hbbytes : b.bufferBytes = regExtent width count := by
    rw [RegAccess.bufferBytes, hbwidth, hbcount, regExtent_of_isPlain hplain]
  have hloaded := windows.read_ok a zeroBuffer m (hawidth ▸ hplain) (by rw [hcall])
  rw [hcall, haplace, habytes, Prod.mk.injEq] at hloaded
  obtain ⟨rfl, rfl⟩ := hloaded
  have hstored := windows.write_ok b _ s' (hbwidth ▸ hplain) (by rw [hstore])
  rw [hstore, hbplace, hbbytes] at hstored
  have hinj := windowByte_injOn dest destOffset.toNat (Nat.le_of_lt hextent)
  constructor
  · intro k hk
    rw [show run.world = _ from hstored]
    exact PlacedCopy.store_load_inside _ zeroBuffer _ _ s' hinj hk
  · intro i hi
    rw [show run.world = _ from hstored]
    exact PlacedCopy.store_outside _ _ _ s' i hi

theorem bufferContained_iff_of_ok {σ : Type} {world : RegWorld σ} {pool : Uintn → Bool} {s : σ}
    {run : CopyRun σ} (hplain : width.IsPlain)
    (hrun : dtIoCopyReg world pool this width (some dest) destOffset (some src) srcOffset
      count s = run)
    (hstatus : run.status = .ok ()) :
    BufferContained run.events ↔ regExtent width count < 2 ^ 64 := by
  obtain ⟨a, b, buffer, s', hread, -, hwrite, -, hevents⟩ := dtIoCopyReg_ok hrun hstatus
  obtain ⟨hawidth, hacount, -⟩ := targetByte_of_dtIoAccessReg hread
  obtain ⟨hbwidth, hbcount, -⟩ := targetByte_of_dtIoAccessReg hwrite
  have habytes : a.bufferBytes = regExtent width count := by
    rw [RegAccess.bufferBytes, hawidth, hacount, regExtent_of_isPlain hplain]
  have hbbytes : b.bufferBytes = regExtent width count := by
    rw [RegAccess.bufferBytes, hbwidth, hbcount, regExtent_of_isPlain hplain]
  rw [← regExtent_le_copyBufferSize_iff hplain, hevents]
  constructor
  · intro h
    rw [← habytes]
    exact h _ a (by simp) (Or.inl (by simp))
  · intro h size access hsize haccess
    have hsizeEq : size = copyBufferSize width count := by simpa using hsize
    have haccessEq : access = a ∨ access = b := by simpa using haccess
    subst hsizeEq
    rcases haccessEq with rfl | rfl
    · rw [habytes]
      exact h
    · rw [hbbytes]
      exact h

theorem dtIoCopyReg_answering_ok (m : RegByte → U8) {a b : RegAccess}
    (hread : dtIoReadReg this width (some src) srcOffset count true = .ok a)
    (hwrite : dtIoWriteReg this width (some dest) destOffset count true = .ok b) :
    (dtIoCopyReg RegMemory.answering.toRegWorld (fun _ => true) this width (some dest)
      destOffset (some src) srcOffset count m).status = .ok () := by
  obtain ⟨⟨device, hdev, -, hwidth, -⟩, -⟩ :=
    (dtIoAccessReg_isOk _ this width srcOffset count true src).mp ⟨a, hread⟩
  have hargs : ¬ (this.isNone || (some dest).isNone || (some src).isNone ||
      decide (width.index ≥ DtIoWidth.maximum.index)) = true := by
    subst hdev
    cases width <;> simp_all [DtIoWidth.index]
  unfold dtIoCopyReg
  rw [if_neg hargs, hread, hwrite]
  rfl

variable (this width dest destOffset src srcOffset count)

theorem not_copiesSnapshot_of_extent (hplain : width.IsPlain) {a b : RegAccess}
    (hread : dtIoReadReg this width (some src) srcOffset count true = .ok a)
    (hwrite : dtIoWriteReg this width (some dest) destOffset count true = .ok b)
    (hextent : 2 ^ 64 ≤ regExtent width count) :
    ¬ CopiesSnapshot this width dest destOffset src srcOffset count := by
  intro h
  have hok := dtIoCopyReg_answering_ok (fun _ => 0) hread hwrite
  have hcontained := ((h RegMemory.answering (fun _ => true) (fun _ => 0)).1 hok).2
  exact Nat.not_lt.mpr hextent ((bufferContained_iff_of_ok hplain rfl hok).mp hcontained)

/-- `CopyReg` copies as if through a full snapshot, inside its buffer, exactly when
no request whose length in bytes passes `2 ^ 64` is taken for a shorter one by both
bound checks. -/
theorem copyReg_snapshot_iff (hplain : width.IsPlain) :
    CopiesSnapshot this width dest destOffset src srcOffset count ↔
      (RegServed DtIoCallbacks.readChildReg this width src true →
        RegServed DtIoCallbacks.writeChildReg this width dest true →
        RegEndAccepted width src srcOffset count →
        RegEndAccepted width dest destOffset count →
        count.toNat * width.bytes < 2 ^ 64) := by
  have hread := dtIoAccessReg_isOk DtIoCallbacks.readChildReg this width srcOffset count true src
  have hwrite :=
    dtIoAccessReg_isOk DtIoCallbacks.writeChildReg this width destOffset count true dest
  rw [← regExtent_of_isPlain hplain]
  constructor
  · intro h hsrc hdest hsrcEnd hdestEnd
    obtain ⟨a, ha⟩ := hread.mpr ⟨hsrc, hsrcEnd⟩
    obtain ⟨b, hb⟩ := hwrite.mpr ⟨hdest, hdestEnd⟩
    by_contra hextent
    exact not_copiesSnapshot_of_extent this width dest src destOffset srcOffset count hplain
      ha hb (Nat.not_lt.mp hextent) h
  · intro h windows pool m
    refine ⟨fun hok => ?_, dtIoCopyReg_reports windows.toRegWorld pool m⟩
    obtain ⟨a, b, _, _, ha, -, hb, -, -⟩ := dtIoCopyReg_ok rfl hok
    obtain ⟨hsrc, hsrcEnd⟩ := hread.mp ⟨a, ha⟩
    obtain ⟨hdest, hdestEnd⟩ := hwrite.mp ⟨b, hb⟩
    have hextent := h hsrc hdest hsrcEnd hdestEnd
    exact ⟨snapshotCopied_of_ok windows hplain hextent rfl hok,
      (bufferContained_iff_of_ok hplain rfl hok).mpr hextent⟩

end Copy

/-- Two windows of sixteen bytes on a bus and the copy of the second onto the first,
one register at a time. -/
theorem copyReg_snapshot_iff_plain :
    DtIoWidth.IsPlain .uint32 ∧
      (CopiesSnapshot (some plainDevice) .uint32 ⟨0x1000, 0, 16, some 7⟩ 0
          ⟨0x1008, 0, 16, some 7⟩ 4 2 ↔
        (RegServed DtIoCallbacks.readChildReg (some plainDevice) .uint32
            ⟨0x1008, 0, 16, some 7⟩ true →
          RegServed DtIoCallbacks.writeChildReg (some plainDevice) .uint32
            ⟨0x1000, 0, 16, some 7⟩ true →
          RegEndAccepted .uint32 ⟨0x1008, 0, 16, some 7⟩ 4 2 →
          RegEndAccepted .uint32 ⟨0x1000, 0, 16, some 7⟩ 0 2 →
          (2 : Uintn).toNat * DtIoWidth.uint32.bytes < 2 ^ 64)) :=
  ⟨by decide, copyReg_snapshot_iff _ _ _ _ _ _ _ (by decide)⟩

/-- `2 ^ 61` elements of eight bytes are copied through a buffer of one byte. -/
theorem copyReg_wrapped_count :
    ¬ CopiesSnapshot (some plainDevice) .uint64 ⟨0x1000, 0, 16, some 7⟩ 0
      ⟨0x1008, 0, 16, some 7⟩ 0 (BitVec.ofNat 64 (2 ^ 61)) :=
  not_copiesSnapshot_of_extent _ _ _ _ _ _ _ (by decide)
    (a := ⟨.busDtIo 7 ⟨0x1008, 0, 16, some 7⟩ 0, .uint64, BitVec.ofNat 64 (2 ^ 61)⟩)
    (b := ⟨.busDtIo 7 ⟨0x1000, 0, 16, some 7⟩ 0, .uint64, BitVec.ofNat 64 (2 ^ 61)⟩)
    (by decide) (by decide) (by decide)

end FdtBusPkg
