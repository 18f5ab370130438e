import FdtBusPkg.NorFlash.BlockRewrite

/-!
Writes inside one block, over both paths. The path that programs one or two
lines in place reads back too little for a short write that straddles two lines,
and too much for a whole-line write that ends the region; every other write
stores exactly its data.
-/
namespace FdtBusPkg

theorem toNat_lineBase (offset : Uintn) :
    (offset &&& ~~~ BOUNDARY_OF_32_WORDS).toNat = offset.toNat - offset.toNat % 128 := by
  rw [boundary_eq]
  exact Align.toNat_and_not_lowMask offset 7 (by decide)

theorem toNat_lineOffset (offset : Uintn) :
    (offset &&& BOUNDARY_OF_32_WORDS).toNat = offset.toNat % 128 := by
  rw [boundary_eq]
  exact Align.toNat_and_lowMask offset 7 (by decide)

theorem toNat_readBack (numBytes : Uintn) (h : numBytes.toNat < 2 ^ 32) :
    ((numBytes ||| BOUNDARY_OF_32_WORDS) + 1).toNat = (numBytes.toNat / 128 + 1) * 128 := by
  have hone : (1 : U64).toNat = 1 := rfl
  rw [BitVec.toNat_add, boundary_eq, Align.toNat_or_lowMask _ 7 (by decide), hone]
  omega

section Lines

variable {d : NorFlashDevice} (w : BlockWrite d)

namespace BlockWrite

/-- Offset of the write in its first 128-byte line. -/
def lineOffset : Nat := w.offset.toNat % 128

def lineStart : Nat := d.blockStart w.lba + (w.offset.toNat - w.lineOffset)

/-- Bytes read back before a write in place. -/
def readBackBytes : Nat := (w.numBytes.toNat / 128 + 1) * 128

/-- Bytes of the one or two lines programmed in place. -/
def programmedBytes : Nat := if 128 < w.numBytes.toNat + w.lineOffset then 256 else 128

/-- A whole number of lines, up to two, that ends at the end of the region. -/
def EndsRegion : Prop :=
  w.lba = d.lastBlock ∧ w.offset.toNat + w.numBytes.toNat = d.blockSize.toNat ∧
    (w.numBytes.toNat = 128 ∨ w.numBytes.toNat = 256)

/-- Less than a line of data, on two lines. -/
def Straddles : Prop := w.numBytes.toNat < 128 ∧ 128 < w.numBytes.toNat + w.lineOffset

/-- What the two lines of a straddling write are taken for: the second one is
whatever the shadow buffer held. -/
def assumedLines (f : NorFlash) (shadow : Nat → U8) (i : Nat) : U8 :=
  if i < 128 then f.bytes (w.lineStart + i) else shadow i

/-- The stale second line does no harm: either it makes the code erase the
block, or neither the data nor the rest of the line needs it to be right. -/
def StaleLineHarmless (f : NorFlash) (shadow : Nat → U8) : Prop :=
  (∃ i < w.numBytes.toNat,
      ~~~ w.assumedLines f shadow (w.lineOffset + i) &&& w.data i ≠ 0) ∨
    ((∀ i < w.numBytes.toNat, 128 ≤ w.lineOffset + i →
        ~~~ f.bytes (w.lineStart + (w.lineOffset + i)) &&& w.data i = 0) ∧
      ∀ i < 256, w.lineOffset + w.numBytes.toNat ≤ i →
        ~~~ shadow i &&& f.bytes (w.lineStart + i) = 0)

/-- The writes that store exactly their data. -/
def Sound (f : NorFlash) (shadow : Nat → U8) : Prop :=
  ¬ w.EndsRegion ∧ (w.Straddles → w.StaleLineHarmless f shadow)

theorem lineStart_add (w : BlockWrite d) :
    w.lineStart + w.lineOffset = d.blockStart w.lba + w.offset.toNat := by
  have hle : w.lineOffset ≤ w.offset.toNat := Nat.mod_le _ _
  rw [lineStart]
  omega

theorem toNat_lineBase (w : BlockWrite d) :
    (w.offset &&& ~~~ BOUNDARY_OF_32_WORDS).toNat = w.offset.toNat - w.lineOffset :=
  FdtBusPkg.toNat_lineBase w.offset

theorem toNat_readBackBytes (w : BlockWrite d) :
    ((w.numBytes ||| BOUNDARY_OF_32_WORDS) + 1).toNat = w.readBackBytes := by
  have hn := w.end_le
  have hlt := d.blockSize.isLt
  exact toNat_readBack w.numBytes (by omega)

end BlockWrite

def lineBuffer (f : NorFlash) (shadow : Nat → U8) : Nat → U8 :=
  Segment.overlay shadow 0 w.readBackBytes (fun i => f.bytes (w.lineStart + i))

/-- The read-back leaves the region exactly for the writes that end it. -/
theorem readBack_eq (f : NorFlash) (shadow : Nat → U8)
    (hbuffered : w.numBytes.toNat + w.lineOffset ≤ 256) :
    (w.EndsRegion → norFlashRead d.toNorFlashInstance w.lba
        (w.offset &&& ~~~ BOUNDARY_OF_32_WORDS)
        ((w.numBytes ||| BOUNDARY_OF_32_WORDS) + 1) shadow f = .error .invalidParameter) ∧
      (¬ w.EndsRegion → norFlashRead d.toNorFlashInstance w.lba
        (w.offset &&& ~~~ BOUNDARY_OF_32_WORDS)
        ((w.numBytes ||| BOUNDARY_OF_32_WORDS) + 1) shadow f =
          .ok (lineBuffer w f shadow)) := by
  obtain ⟨m, hm⟩ := d.dvd_blockSize
  obtain ⟨k, hk⟩ := d.dvd_size
  have hblock := d.block_le_size w.lba w.lba_le
  have hlast := d.block_eq_size_iff w.lba
  have hnext := d.next_block_le_size w.lba w.lba_le
  have hregion := d.region_le
  have hpos := w.numBytes_pos
  have hend := w.end_le
  have hsize := d.size.isLt
  have hoffset : w.lineOffset = w.offset.toNat % 128 := rfl
  have hread : w.readBackBytes = (w.numBytes.toNat / 128 + 1) * 128 := rfl
  have hne : ¬ (w.numBytes ||| BOUNDARY_OF_32_WORDS) + 1 = 0 := by
    intro h
    have hnat := congrArg BitVec.toNat h
    rw [w.toNat_readBackBytes, hread] at hnat
    have hzero : (0 : U64).toNat = 0 := rfl
    omega
  have hsum : (w.lba * d.blockSize.setWidth 64 + (w.offset &&& ~~~ BOUNDARY_OF_32_WORDS) +
      ((w.numBytes ||| BOUNDARY_OF_32_WORDS) + 1)).toNat =
        w.lba.toNat * d.blockSize.toNat + (w.offset.toNat - w.lineOffset) +
          w.readBackBytes := by
    rw [BitVec.toNat_add, BitVec.toNat_add, BitVec.toNat_mul, d.toNat_setWidth_blockSize,
      w.toNat_lineBase, w.toNat_readBackBytes]
    omega
  have hpast : w.lba * d.blockSize.setWidth 64 + (w.offset &&& ~~~ BOUNDARY_OF_32_WORDS) +
      ((w.numBytes ||| BOUNDARY_OF_32_WORDS) + 1) > d.size ↔ w.EndsRegion := by
    rw [gt_iff_lt, BitVec.lt_def, hsum, BlockWrite.EndsRegion]
    by_cases hlba : w.lba = d.lastBlock
    · have hsizeEq := hlast.mpr hlba
      simp only [hlba, true_and] at *
      omega
    · have hroom := hnext hlba
      simp only [hlba, false_and, iff_false]
      omega
  have haddress : (norBlockAddress d.toNorFlashInstance w.lba +
      (w.offset &&& ~~~ BOUNDARY_OF_32_WORDS)).toNat = w.lineStart := by
    rw [BitVec.toNat_add, d.toNat_norBlockAddress w.lba w.lba_le, w.toNat_lineBase,
      BlockWrite.lineStart, NorFlashDevice.blockStart]
    omega
  constructor
  · intro h
    rw [norFlashRead, if_neg hne, if_pos (hpast.mpr h)]
  · intro h
    rw [norFlashRead, if_neg hne, if_neg (fun hgt => h (hpast.mp hgt))]
    dsimp only
    rw [haddress, w.toNat_readBackBytes]
    rfl

theorem updateShadowLoop_clears (base : Nat) (data : Nat → U8) (left cur : Nat)
    (shadow : Nat → U8)
    (h : ∀ i < left, ~~~ shadow (base + (cur + i)) &&& data (cur + i) = 0) :
    updateShadowLoop base data left cur shadow =
      (Segment.overlay shadow (base + cur) left (fun i => data (cur + i)), true) := by
  induction left generalizing cur shadow with
  | zero => rw [updateShadowLoop, Segment.overlay_zero]
  | succ left ih =>
      have hfirst : ¬ ~~~ shadow (base + cur) &&& data cur ≠ 0 :=
        not_not_intro (h 0 (by omega))
      have hcell : Segment.overlay shadow (base + cur) 1 (fun _ => data cur) =
          Segment.overlay shadow (base + cur) 1 (fun i => data (cur + i)) := by
        apply Segment.overlay_congr
        intro i hi
        rw [Nat.lt_one_iff.mp hi, Nat.add_zero]
      rw [updateShadowLoop, if_neg hfirst, ih]
      · rw [hcell, Nat.add_comm left 1, ← Segment.overlay_append]
        simp only [Nat.add_assoc]
      · intro i hi
        rw [Segment.overlay_outside _ _ _ _ _ (by omega), Nat.add_assoc cur 1]
        exact h (1 + i) (by omega)

theorem updateShadowLoop_sets (base : Nat) (data : Nat → U8) (left cur : Nat)
    (shadow : Nat → U8) (i : Nat) (hi : i < left)
    (h : ~~~ shadow (base + (cur + i)) &&& data (cur + i) ≠ 0) :
    (updateShadowLoop base data left cur shadow).2 = false := by
  induction left generalizing cur shadow i with
  | zero => omega
  | succ left ih =>
      rw [updateShadowLoop]
      split
      · rfl
      · next hfirst =>
        have hne : i ≠ 0 := fun hzero => hfirst (by simpa [hzero] using h)
        apply ih (cur + 1) _ (i - 1) (by omega)
        rw [Segment.overlay_outside _ _ _ _ _ (by omega),
          show cur + 1 + (i - 1) = cur + i by omega]
        exact h

/-- Both lines, or the one, are programmed with the buffer, at any block number. -/
theorem programLines_at (d : NorFlashDevice) (lba : U64) (offset numBytes : Uintn)
    (f : NorFlash) (buffer : Nat → U8) (hpos : 0 < numBytes.toNat)
    (hend : offset.toNat + numBytes.toNat ≤ d.blockSize.toNat)
    (hbuffered : numBytes.toNat + offset.toNat % 128 ≤ 256) :
    ∃ g, norFlashProgramLines d.toNorFlashInstance lba offset numBytes f buffer =
        ⟨.ok (), g, buffer⟩ ∧
      g.bytes = Segment.overlay f.bytes
        (d.blockAddress lba + (offset.toNat - offset.toNat % 128))
        (if 128 < numBytes.toNat + offset.toNat % 128 then 256 else 128)
        (fun i => f.bytes (d.blockAddress lba + (offset.toNat - offset.toNat % 128) + i) &&&
          buffer i) := by
  obtain ⟨m, hm⟩ := d.dvd_blockSize
  have htop := d.blockAddress_end_le lba
  have haddress : (norBlockAddress d.toNorFlashInstance lba).toNat = d.blockAddress lba := rfl
  have hline : P30_MAX_BUFFER_SIZE_IN_BYTES.toNat = 128 := rfl
  have hmod := d.blockAddress_mod_line lba
  have hbase := toNat_lineBase offset
  have hfirst : (norBlockAddress d.toNorFlashInstance lba +
      (offset &&& ~~~ BOUNDARY_OF_32_WORDS)).toNat =
        d.blockAddress lba + (offset.toNat - offset.toNat % 128) := by
    rw [d.toNat_norBlockAddress_add lba _ (by omega), hbase]
  have hunlocked (a : Uintn) (i : Nat) (hi : i < d.blockSize.toNat)
      (ha : a.toNat = d.blockAddress lba + i) :
      (f.unlock (blockNumber d.toNorFlashInstance
        (norBlockAddress d.toNorFlashInstance lba))).locked
          (blockNumber d.toNorFlashInstance a) = false := by
    have hsame : blockNumber d.toNorFlashInstance a =
        blockNumber d.toNorFlashInstance (norBlockAddress d.toNorFlashInstance lba) := by
      rw [blockNumber, blockNumber, ha, haddress, d.div_of_lt_blockSize lba i hi]
    rw [hsame]
    exact Function.update_self ..
  have hfits : (numBytes + (offset &&& BOUNDARY_OF_32_WORDS) >
      P30_MAX_BUFFER_SIZE_IN_BYTES) ↔ 128 < numBytes.toNat + offset.toNat % 128 := by
    rw [gt_iff_lt, BitVec.lt_def, BitVec.toNat_add, toNat_lineOffset, hline]
    omega
  simp only [norFlashProgramLines, unlockSingleBlock_eq]
  rw [writeBuffer_line _ _ buffer _ (by rw [hfirst]; omega)
    (hunlocked _ (offset.toNat - offset.toNat % 128) (by omega) hfirst), hfirst]
  simp only [hfits]
  split
  · next hsecond =>
    have hnext : (norBlockAddress d.toNorFlashInstance lba + P30_MAX_BUFFER_SIZE_IN_BYTES +
        (offset &&& ~~~ BOUNDARY_OF_32_WORDS)).toNat =
          d.blockAddress lba + (offset.toNat - offset.toNat % 128) + 128 := by
      rw [BitVec.toNat_add, BitVec.toNat_add, haddress, hbase, hline]
      omega
    have hunlockedNext := hunlocked _ (offset.toNat - offset.toNat % 128 + 128) (by omega)
      (by rw [hnext, Nat.add_assoc])
    rw [writeBuffer_line _ _ _ _ (by rw [hnext]; omega) (by exact hunlockedNext), hnext]
    refine ⟨_, rfl, ?_⟩
    rw [← Segment.overlay_append f.bytes _ 128 128]
    simp only [NorFlash.bytes_program, NorFlash.bytes_unlock, hline]
    apply Segment.overlay_congr
    intro i hi
    rw [Segment.overlay_outside _ _ _ _ _ (by omega), Nat.add_assoc _ 128 i,
      Nat.add_comm i 128]
  · exact ⟨_, rfl, rfl⟩

theorem programLines_eq (f : NorFlash) (buffer : Nat → U8)
    (hbuffered : w.numBytes.toNat + w.lineOffset ≤ 256) :
    ∃ g, norFlashProgramLines d.toNorFlashInstance w.lba w.offset w.numBytes f buffer =
        ⟨.ok (), g, buffer⟩ ∧
      g.bytes = Segment.overlay f.bytes w.lineStart w.programmedBytes
        (fun i => f.bytes (w.lineStart + i) &&& buffer i) := by
  obtain ⟨g, hrun, hbytes⟩ := programLines_at d w.lba w.offset w.numBytes f buffer
    w.numBytes_pos w.end_le hbuffered
  rw [d.blockAddress_eq w.lba w.lba_le] at hbytes
  exact ⟨g, hrun, hbytes⟩

theorem and_eq_right_iff (x y : U8) : x &&& y = y ↔ ~~~ x &&& y = 0 := by
  rw [BitVec.eq_of_getLsbD_eq_iff, BitVec.eq_of_getLsbD_eq_iff]
  refine forall_congr' fun i => forall_congr' fun hi => ?_
  simp only [BitVec.getLsbD_and, BitVec.getLsbD_not, hi, decide_true, Bool.true_and,
    BitVec.ofNat_eq_ofNat, BitVec.getLsbD_zero]
  cases x.getLsbD i <;> cases y.getLsbD i <;> decide

/-- When the buffer only clears bits of what it was taken for, the lines are right
if and only if the bytes that were not read back are. -/
theorem programmed_exact_iff (f : NorFlash) (buffer : Nat → U8)
    (hbuffered : w.numBytes.toNat + w.lineOffset ≤ 256) :
    Segment.overlay f.bytes w.lineStart w.programmedBytes
        (fun i => f.bytes (w.lineStart + i) &&&
          Segment.overlay buffer w.lineOffset w.numBytes.toNat w.data i) =
      Segment.overlay f.bytes (d.blockStart w.lba + w.offset.toNat) w.numBytes.toNat w.data ↔
    (∀ i < w.numBytes.toNat,
        ~~~ f.bytes (w.lineStart + (w.lineOffset + i)) &&& w.data i = 0) ∧
      ∀ i < w.programmedBytes, (i < w.lineOffset ∨ w.lineOffset + w.numBytes.toNat ≤ i) →
        ~~~ buffer i &&& f.bytes (w.lineStart + i) = 0 := by
  have hcover : w.lineOffset + w.numBytes.toNat ≤ w.programmedBytes := by
    rw [BlockWrite.programmedBytes]
    split <;> omega
  rw [← w.lineStart_add, ← Segment.overlay_copy f.bytes w.lineStart w.programmedBytes _ _ _
    hcover, Segment.overlay_eq_overlay_iff]
  constructor
  · intro h
    refine ⟨fun i hi => ?_, fun i hi hout => ?_⟩
    · have hcell := h (w.lineOffset + i) (by omega)
      rw [Segment.overlay_offset _ _ _ _ i hi, Segment.overlay_offset _ _ _ _ i hi] at hcell
      exact (and_eq_right_iff _ _).mp hcell
    · have hcell := h i hi
      rw [Segment.overlay_outside _ _ _ _ i hout, Segment.overlay_outside _ _ _ _ i hout,
        BitVec.and_comm] at hcell
      exact (and_eq_right_iff _ _).mp hcell
  · rintro ⟨hdata, hrest⟩ i hi
    by_cases hin : w.lineOffset ≤ i ∧ i < w.lineOffset + w.numBytes.toNat
    · obtain ⟨j, rfl⟩ := Nat.exists_eq_add_of_le hin.1
      rw [Segment.overlay_offset _ _ _ _ j (by omega),
        Segment.overlay_offset _ _ _ _ j (by omega)]
      exact (and_eq_right_iff _ _).mpr (hdata j (by omega))
    · have hout : i < w.lineOffset ∨ w.lineOffset + w.numBytes.toNat ≤ i := by omega
      rw [Segment.overlay_outside _ _ _ _ i hout, Segment.overlay_outside _ _ _ _ i hout,
        BitVec.and_comm]
      exact (and_eq_right_iff _ _).mpr (hrest i hi hout)

theorem lineBuffer_of_lt (f : NorFlash) (shadow : Nat → U8) (i : Nat)
    (hi : i < w.readBackBytes) : lineBuffer w f shadow i = f.bytes (w.lineStart + i) := by
  rw [lineBuffer, Segment.overlay_inside _ _ _ _ _ (by omega) (by omega), Nat.sub_zero]

theorem lineBuffer_of_le (f : NorFlash) (shadow : Nat → U8) (i : Nat)
    (hi : w.readBackBytes ≤ i) : lineBuffer w f shadow i = shadow i := by
  rw [lineBuffer, Segment.overlay_outside _ _ _ _ _ (by omega)]

/-- The read-back covers the programmed lines, except for a straddling write. -/
theorem programmedBytes_le_readBackBytes (h : ¬ w.Straddles)
    (hbuffered : w.numBytes.toNat + w.lineOffset ≤ 256) :
    w.programmedBytes ≤ w.readBackBytes := by
  rw [BlockWrite.Straddles] at h
  rw [BlockWrite.programmedBytes, BlockWrite.readBackBytes]
  split <;> omega

theorem lineBuffer_of_straddles (f : NorFlash) (shadow : Nat → U8) (h : w.Straddles)
    (i : Nat) : lineBuffer w f shadow i = w.assumedLines f shadow i := by
  have hread : w.readBackBytes = 128 := by
    have hshort := h.1
    rw [BlockWrite.readBackBytes]
    omega
  rw [BlockWrite.assumedLines]
  split
  · exact lineBuffer_of_lt w f shadow i (by omega)
  · exact lineBuffer_of_le w f shadow i (by omega)

/-- The write in place stores its data exactly when the stale line does no harm. -/
theorem programLines_exact_iff (f : NorFlash) (shadow : Nat → U8)
    (hbuffered : w.numBytes.toNat + w.lineOffset ≤ 256)
    (hclears : ∀ i < w.numBytes.toNat,
      ~~~ lineBuffer w f shadow (w.lineOffset + i) &&& w.data i = 0) :
    StoresExactly d w f (norFlashProgramLines d.toNorFlashInstance w.lba w.offset w.numBytes f
        (Segment.overlay (lineBuffer w f shadow) w.lineOffset w.numBytes.toNat w.data)) ↔
      (w.Straddles → w.StaleLineHarmless f shadow) := by
  obtain ⟨g, hrun, hbytes⟩ := programLines_eq w f
    (Segment.overlay (lineBuffer w f shadow) w.lineOffset w.numBytes.toNat w.data) hbuffered
  rw [hrun, StoresExactly]
  simp only [true_and]
  rw [hbytes, programmed_exact_iff w f _ hbuffered]
  have hcover : w.lineOffset + w.numBytes.toNat ≤ w.programmedBytes := by
    rw [BlockWrite.programmedBytes]
    split <;> omega
  by_cases hstraddles : w.Straddles
  · have hlines : w.programmedBytes = 256 := if_pos hstraddles.2
    have hread : w.readBackBytes = 128 := by
      have hshort := hstraddles.1
      rw [BlockWrite.readBackBytes]
      omega
    have hoffset : w.lineOffset < 128 := Nat.mod_lt _ (by decide)
    simp only [hstraddles, true_imp_iff]
    constructor
    · rintro ⟨hdata, hrest⟩
      refine Or.inr ⟨fun i hi _ => hdata i hi, fun i hi hpast => ?_⟩
      have hcell := hrest i (by omega) (Or.inr hpast)
      rwa [lineBuffer_of_le w f shadow i (by have := hstraddles.2; omega)] at hcell
    · intro h
      rcases h with ⟨i, hi, hsets⟩ | ⟨hdata, hrest⟩
      · rw [← lineBuffer_of_straddles w f shadow hstraddles] at hsets
        exact absurd (hclears i hi) hsets
      · refine ⟨fun i hi => ?_, fun i hi hout => ?_⟩
        · by_cases hline : w.lineOffset + i < 128
          · rw [← lineBuffer_of_lt w f shadow _ (by omega)]
            exact hclears i hi
          · exact hdata i hi (by omega)
        · rcases hout with hbefore | hpast
          · rw [lineBuffer_of_lt w f shadow i (by omega)]
            exact BitVec.not_and_self _
          · rw [lineBuffer_of_le w f shadow i (by have := hstraddles.2; omega)]
            exact hrest i (by omega) hpast
  · have hread := programmedBytes_le_readBackBytes w hstraddles hbuffered
    simp only [hstraddles, false_imp_iff, iff_true]
    refine ⟨fun i hi => ?_, fun i hi _ => ?_⟩
    · rw [← lineBuffer_of_lt w f shadow _ (by omega)]
      exact hclears i hi
    · rw [lineBuffer_of_lt w f shadow i (by omega)]
      exact BitVec.not_and_self _

theorem writeSingleBlock_eq (inst : NorFlashInstance) (lba : U64) (offset numBytes : Uintn)
    (data : Nat → U8) (f : NorFlash) (shadow : Nat → U8) (hpos : 0 < numBytes.toNat)
    (hend : offset.toNat + numBytes.toNat ≤ inst.blockSize.toNat) :
    norFlashWriteSingleBlock inst lba offset numBytes data f shadow =
      if numBytes.toNat + offset.toNat % 128 ≤ 256 then
        match norFlashRead inst lba (offset &&& ~~~ BOUNDARY_OF_32_WORDS)
            ((numBytes ||| BOUNDARY_OF_32_WORDS) + 1) shadow f with
        | .error _ => ⟨.error .deviceError, f, shadow⟩
        | .ok shadow =>
          match updateShadowLoop (offset.toNat % 128) data numBytes.toNat 0 shadow with
          | (shadow, true) =>
            norFlashProgramLines inst lba offset numBytes f shadow
          | (shadow, false) =>
            norFlashEraseAndWrite inst lba offset numBytes data f shadow
      else
        norFlashEraseAndWrite inst lba offset numBytes data f shadow := by
  have hlt := inst.blockSize.isLt
  have hsize : (inst.blockSize.setWidth 64).toNat = inst.blockSize.toNat :=
    BitVec.toNat_setWidth_of_le (by decide)
  have hpage : (2 * P30_MAX_BUFFER_SIZE_IN_BYTES).toNat = 256 := rfl
  have hoffset := toNat_lineOffset offset
  have hspan : ¬ (offset ≥ inst.blockSize.setWidth 64 || numBytes > inst.blockSize.setWidth 64 ||
      offset + numBytes > inst.blockSize.setWidth 64) = true := by
    simp only [Bool.or_eq_true, decide_eq_true_eq, ge_iff_le, gt_iff_lt, BitVec.le_def,
      BitVec.lt_def, BitVec.toNat_add, hsize]
    omega
  have hne : ¬ numBytes = 0 := by
    intro h
    exact absurd (congrArg BitVec.toNat h) (Nat.ne_of_gt hpos)
  have hbuffered : numBytes + (offset &&& BOUNDARY_OF_32_WORDS) ≤
      2 * P30_MAX_BUFFER_SIZE_IN_BYTES ↔ numBytes.toNat + offset.toNat % 128 ≤ 256 := by
    rw [BitVec.le_def, BitVec.toNat_add, hoffset, hpage]
    omega
  rw [norFlashWriteSingleBlock, if_neg hspan, if_neg hne, hoffset]
  exact ite_congr (propext hbuffered) (fun _ => rfl) (fun _ => rfl)

theorem writeSingleBlock_changes (d : NorFlashDevice) (lba : U64) (offset numBytes : Uintn)
    (data : Nat → U8) (f : NorFlash) (shadow : Nat → U8) (hpos : 0 < numBytes.toNat)
    (hend : offset.toNat + numBytes.toNat ≤ d.blockSize.toNat) :
    ∃ x n src, x + n ≤ d.blockSize.toNat ∧
      (norFlashWriteSingleBlock d.toNorFlashInstance lba offset numBytes data f
        shadow).flash.bytes = Segment.overlay f.bytes (d.blockAddress lba + x) n src := by
  obtain ⟨m, hm⟩ := d.dvd_blockSize
  have hunchanged : ∃ x n src, x + n ≤ d.blockSize.toNat ∧
      f.bytes = Segment.overlay f.bytes (d.blockAddress lba + x) n src :=
    ⟨0, 0, f.bytes, Nat.zero_le _, (Segment.overlay_zero _ _ _).symm⟩
  have hrewrite (buffer : Nat → U8) : ∃ x n src, x + n ≤ d.blockSize.toNat ∧
      (norFlashEraseAndWrite d.toNorFlashInstance lba offset numBytes data f
        buffer).flash.bytes = Segment.overlay f.bytes (d.blockAddress lba + x) n src := by
    by_cases h : lba + (1 : U32).setWidth 64 > d.lastBlock + 1
    · rw [eraseAndWrite_refused d lba offset numBytes data f buffer h]
      exact hunchanged
    · obtain ⟨g, _, hrun, hbytes⟩ := eraseAndWrite_eq d lba offset numBytes data f buffer h hend
      rw [hrun]
      exact ⟨offset.toNat, numBytes.toNat, data, hend, hbytes⟩
  rw [writeSingleBlock_eq d.toNorFlashInstance lba offset numBytes data f shadow hpos hend]
  split
  · next hbuffered =>
    cases norFlashRead d.toNorFlashInstance lba (offset &&& ~~~ BOUNDARY_OF_32_WORDS)
        ((numBytes ||| BOUNDARY_OF_32_WORDS) + 1) shadow f with
    | error e => exact hunchanged
    | ok buffer =>
        dsimp only
        rcases updateShadowLoop (offset.toNat % 128) data numBytes.toNat 0 buffer with
          ⟨dirty, clears⟩
        cases clears with
        | true =>
            obtain ⟨g, hrun, hbytes⟩ := programLines_at d lba offset numBytes f dirty hpos hend
              hbuffered
            dsimp only
            rw [hrun]
            refine ⟨_, _, _, ?_, hbytes⟩
            split <;> omega
        | false => exact hrewrite dirty
  · exact hrewrite shadow

/-- A write of more than the buffer never ends the region or straddles as a short
one does. -/
theorem sound_of_not_buffered (f : NorFlash) (shadow : Nat → U8)
    (h : ¬ w.numBytes.toNat + w.lineOffset ≤ 256) : w.Sound f shadow := by
  obtain ⟨m, hm⟩ := d.dvd_blockSize
  have hoffset : w.lineOffset = w.offset.toNat % 128 := rfl
  refine ⟨fun hends => ?_, fun hstraddles => ?_⟩
  · rcases hends with ⟨-, hend, hlines⟩
    omega
  · have hshort := hstraddles.1
    omega

theorem writeSingleBlock_stores_iff (f : NorFlash) (shadow : Nat → U8) :
    StoresExactly d w f (norFlashWriteSingleBlock d.toNorFlashInstance w.lba w.offset
        w.numBytes w.data f shadow) ↔ w.Sound f shadow := by
  rw [writeSingleBlock_eq d.toNorFlashInstance w.lba w.offset w.numBytes w.data f shadow
    w.numBytes_pos w.end_le,
    ← BlockWrite.lineOffset]
  split
  · next hbuffered =>
    have hread := readBack_eq w f shadow hbuffered
    by_cases hends : w.EndsRegion
    · rw [hread.1 hends]
      simp [StoresExactly, BlockWrite.Sound, hends]
    · rw [hread.2 hends]
      simp only [BlockWrite.Sound, hends, not_false_eq_true, true_and]
      by_cases hclears : ∀ i < w.numBytes.toNat,
          ~~~ lineBuffer w f shadow (w.lineOffset + i) &&& w.data i = 0
      · have hloop := updateShadowLoop_clears w.lineOffset w.data w.numBytes.toNat 0
          (lineBuffer w f shadow) (by simpa using hclears)
        simp only [Nat.add_zero, Nat.zero_add] at hloop
        rw [hloop]
        exact programLines_exact_iff w f shadow hbuffered hclears
      · push Not at hclears
        obtain ⟨i, hi, hsets⟩ := hclears
        have hloop := updateShadowLoop_sets w.lineOffset w.data w.numBytes.toNat 0
          (lineBuffer w f shadow) i hi (by simpa using hsets)
        rcases hrun : updateShadowLoop w.lineOffset w.data w.numBytes.toNat 0
          (lineBuffer w f shadow) with ⟨dirty, clears⟩
        rw [hrun] at hloop
        subst hloop
        refine iff_of_true (eraseAndWrite_storesExactly d w f dirty) fun hstraddles => ?_
        rw [lineBuffer_of_straddles w f shadow hstraddles] at hsets
        exact Or.inl ⟨i, hi, hsets⟩
  · next hlong =>
    exact iff_of_true (eraseAndWrite_storesExactly d w f shadow)
      (sound_of_not_buffered w f shadow hlong)

end Lines

/-- A write stores exactly its data, with success, if and only if it is sound; the
same goes for a write through the firmware volume block protocol. -/
theorem norFlashWriteSingleBlock_stores_iff (d : NorFlashDevice) (w : BlockWrite d)
    (f : NorFlash) (shadow : Nat → U8) :
    (StoresExactly d w f (norFlashWriteSingleBlock d.toNorFlashInstance w.lba w.offset
        w.numBytes w.data f shadow) ↔ w.Sound f shadow) ∧
      (StoresExactly d w f (fvbWrite d.toNorFlashInstance (w.lba - d.startLba) w.offset
        w.numBytes w.data f shadow) ↔ w.Sound f shadow) := by
  refine ⟨writeSingleBlock_stores_iff w f shadow, ?_⟩
  rw [fvbWrite, BitVec.add_comm, BitVec.sub_add_cancel]
  exact writeSingleBlock_stores_iff w f shadow

def smallDevice : NorFlashDevice where
  regionBaseAddress := 0
  size := 512
  startLba := 0
  lastBlock := 0
  blockSize := 512
  blockBits := 9
  blockSize_eq := rfl
  nine_le_blockBits := Nat.le_refl 9
  base_aligned := rfl
  size_eq := rfl
  region_le := by decide

def erasedFlash : NorFlash := ⟨fun _ => 0xFF, fun _ => false⟩

/-- Sixteen zero bytes across the boundary of the first two lines. -/
def straddlingWrite : BlockWrite smallDevice where
  lba := 0
  offset := 120
  numBytes := 16
  data := fun _ => 0
  lba_le := by decide
  numBytes_pos := by decide
  end_le := by decide

/-- With zeros left in the shadow buffer, the write also clears the rest of the
second line. -/
theorem straddlingWrite_clears_neighbours :
    ¬ StoresExactly smallDevice straddlingWrite erasedFlash
      (norFlashWriteSingleBlock smallDevice.toNorFlashInstance straddlingWrite.lba
        straddlingWrite.offset straddlingWrite.numBytes straddlingWrite.data erasedFlash
        (fun _ => 0)) := by
  rintro ⟨-, hbytes⟩
  exact absurd (congrFun hbytes 200) (by decide)

end FdtBusPkg
