import FdtBusPkg.NorFlash.Fvb

/-!
Containment of the firmware volume block calls. A call on blocks that exist stays
inside the region. The checks are sums of the caller's values modulo `2 ^ 64`, so a
block far past the last one can pass them; these calls, and only these, escape.
-/
namespace FdtBusPkg

/-- The same lock bits, and the same bytes in a span. -/
def NorFlash.AgreeOn (s : Span) (f g : NorFlash) : Prop :=
  f.locked = g.locked ∧ ∀ a, Span.Mem a s → f.bytes a = g.bytes a

/-- An operation that changes no byte outside the span, and that no byte outside the
span influences. -/
structure TouchesOnly {ρ : Type} (s : Span) (op : NorFlash → ρ × NorFlash) : Prop where
  writes : ∀ f a, ¬ Span.Mem a s → (op f).2.bytes a = f.bytes a
  reads : ∀ f g, f.AgreeOn s g →
    (op f).1 = (op g).1 ∧ ∀ a, Span.Mem a s → (op f).2.bytes a = (op g).2.bytes a

theorem touchesOnly_const {ρ : Type} (s : Span) (r : ρ) :
    TouchesOnly s (fun f : NorFlash => (r, f)) where
  writes _ _ _ := rfl
  reads _ _ h := ⟨rfl, h.2⟩

/-- The calls of the protocol that reach the flash. -/
inductive FvbCall
  | read (lba : U64) (offset numBytes : Uintn)
  | write (lba : U64) (offset numBytes : Uintn) (data : Nat → U8)
  | eraseBlocks (args : List (U64 × Uintn))

namespace FvbCall

/-- The result of a call and the flash it leaves; `buffer` is the caller's buffer in
a read and the shadow buffer in a write. -/
def run (v : FvbVolume) (buffer : Nat → U8) :
    FvbCall → NorFlash → EfiResult (Nat → U8) × NorFlash
  | .read lba offset numBytes, f =>
    (fvbRead v.toNorFlashInstance lba offset numBytes buffer f, f)
  | .write lba offset numBytes data, f =>
    let written := fvbWrite v.toNorFlashInstance lba offset numBytes data f buffer
    (written.status.map (fun _ => buffer), written.flash)
  | .eraseBlocks args, f =>
    let erased := fvbEraseBlocks v.toNorFlashInstance args f
    (erased.1.map (fun _ => buffer), erased.2)

def listed (args : List (U64 × Uintn)) : List (U64 × Uintn) :=
  args.takeWhile (fun p => p.1 != EFI_LBA_LIST_TERMINATOR)

def pairSpan (v : FvbVolume) (p : U64 × Uintn) : Span :=
  ⟨v.storageVariableBase.toNat + p.1.toNat * v.blockSize.toNat,
    p.2.toNat * v.blockSize.toNat⟩

/-- Only blocks up to the last one, and no empty pair. -/
def ValidPair (v : FvbVolume) (p : U64 × Uintn) : Prop :=
  0 < p.2.toNat ∧ v.startLba.toNat + p.1.toNat + p.2.toNat ≤ v.lastBlock.toNat + 1

/-- The call names only blocks that exist and, of a block, only bytes it has. -/
def InVolume (v : FvbVolume) : FvbCall → Prop
  | .read lba offset numBytes | .write lba offset numBytes _ =>
    v.HasBlock lba ∧ offset.toNat + numBytes.toNat ≤ v.blockSize.toNat
  | .eraseBlocks args => ∀ p ∈ listed args, ValidPair v p

def Refusal : FvbCall → EfiError → Prop
  | .read .. | .write .. => fun _ => True
  | .eraseBlocks _ => fun e => e = .invalidParameter

structure Contained (v : FvbVolume) (c : FvbCall) : Prop where
  touches : ∀ buffer, TouchesOnly v.region (c.run v buffer)
  refused : ¬ c.InVolume v → ∀ buffer f, ∃ e, c.Refusal e ∧ c.run v buffer f = (.error e, f)
  erases : ∀ args, c = .eraseBlocks args → ∀ buffer f b g,
    c.run v buffer f = (.ok b, g) →
      (∀ p ∈ listed args, ∀ a, Span.Mem a (pairSpan v p) → g.bytes a = BitVec.allOnes 8) ∧
        ∀ a, (∀ p ∈ listed args, ¬ Span.Mem a (pairSpan v p)) → g.bytes a = f.bytes a

/-- A read of bytes inside one block meets a check that sees it is out of range: of
blocks for a whole block, of bytes for a part. -/
def ReadRefused (v : FvbVolume) (lba : U64) (offset numBytes : Uintn) : Prop :=
  if numBytes.toNat = v.blockSize.toNat then
    v.lastBlock.toNat + 1 < (v.startLba.toNat + lba.toNat + 1) % 2 ^ 64
  else
    v.size.toNat < ((v.startLba.toNat + lba.toNat) * v.blockSize.toNat + offset.toNat +
      numBytes.toNat) % 2 ^ 64

/-- The same of a write: of bytes, in whole lines, up to two lines; of blocks beyond. -/
def WriteRefused (v : FvbVolume) (lba : U64) (offset numBytes : Uintn) : Prop :=
  if numBytes.toNat + offset.toNat % 128 ≤ 256 then
    v.size.toNat < ((v.startLba.toNat + lba.toNat) * v.blockSize.toNat +
      (offset.toNat - offset.toNat % 128) + (numBytes.toNat / 128 + 1) * 128) % 2 ^ 64
  else
    v.lastBlock.toNat + 1 < (v.startLba.toNat + lba.toNat + 1) % 2 ^ 64

def PairRefused (v : FvbVolume) (p : U64 × Uintn) : Prop :=
  p.2.toNat = 0 ∨
    v.lastBlock.toNat < (v.startLba.toNat + p.1.toNat + p.2.toNat - 1) % 2 ^ 64

/-- A request with no bytes, or with bytes past its block. -/
def BadSize (v : FvbVolume) (offset numBytes : Uintn) : Prop :=
  numBytes.toNat = 0 ∨ v.blockSize.toNat < offset.toNat + numBytes.toNat

/-- The blocks exist, or the sum that the check compares is still out of range once it
is reduced modulo `2 ^ 64`. -/
def Sound (v : FvbVolume) : FvbCall → Prop
  | .read lba offset numBytes =>
    v.HasBlock lba ∨ BadSize v offset numBytes ∨ ReadRefused v lba offset numBytes
  | .write lba offset numBytes _ =>
    v.HasBlock lba ∨ BadSize v offset numBytes ∨ WriteRefused v lba offset numBytes
  | .eraseBlocks args =>
    (∀ p ∈ listed args, ValidPair v p) ∨ ∃ p ∈ listed args, PairRefused v p

end FvbCall

section Checks

variable (v : FvbVolume)

theorem FvbVolume.toNat_end (lba : U64) (x y : Uintn) :
    ((v.startLba + lba) * v.blockSize.setWidth 64 + x + y).toNat =
      ((v.startLba.toNat + lba.toNat) * v.blockSize.toNat + x.toNat + y.toNat) % 2 ^ 64 := by
  rw [BitVec.toNat_add, BitVec.toNat_add, BitVec.toNat_mul, BitVec.toNat_add,
    v.toNat_setWidth_blockSize, Nat.mod_add_mod, Nat.mod_mul_mod, Nat.add_assoc,
    Nat.mod_add_mod, Nat.add_assoc]

theorem FvbVolume.beyond_iff (lba : U64) :
    v.startLba + lba + (1 : U32).setWidth 64 > v.lastBlock + 1 ↔
      v.lastBlock.toNat + 1 < (v.startLba.toNat + lba.toNat + 1) % 2 ^ 64 := by
  have hblock := v.block_le_size v.lastBlock (Nat.le_refl _)
  have hsize := v.size.isLt
  have hpos := v.blockSize_pos
  have hblocks : v.lastBlock.toNat ≤ v.lastBlock.toNat * v.blockSize.toNat :=
    Nat.le_mul_of_pos_right _ v.blockSize_pos
  have hone : ((1 : U32).setWidth 64).toNat = 1 := rfl
  have hone64 : (1 : U64).toNat = 1 := rfl
  rw [gt_iff_lt, BitVec.lt_def, BitVec.toNat_add, BitVec.toNat_add, BitVec.toNat_add, hone,
    hone64, Nat.mod_add_mod]
  omega

theorem FvbVolume.block_within_region (lba : U64) (h : v.HasBlock lba) (x : Nat)
    (hx : x < v.blockSize.toNat) :
    Span.Mem (v.blockAddress (v.startLba + lba) + x) v.region := by
  have hlast := v.add_startLba_le lba h
  have hblock := v.block_le_size (v.startLba + lba) hlast
  rw [v.blockAddress_eq _ hlast, NorFlashDevice.blockStart]
  rw [FvbVolume.region, Span.Mem, Span.limit_mk]
  dsimp only
  omega

end Checks

section Read

variable (v : FvbVolume) (lba : U64) (offset numBytes : Uintn) (buffer : Nat → U8)
  (f : NorFlash)

theorem fvbRead_badSize (h : FvbCall.BadSize v offset numBytes) :
    fvbRead v.toNorFlashInstance lba offset numBytes buffer f = .error .badBufferSize := by
  have hzero : (0 : U64).toNat = 0 := rfl
  have hsize := v.toNat_setWidth_blockSize
  have hlt := v.blockSize.isLt
  rw [fvbRead]
  split
  · rfl
  · next hspan =>
    simp only [Bool.or_eq_true, decide_eq_true_eq, ge_iff_le, gt_iff_lt, BitVec.le_def,
      BitVec.lt_def, BitVec.toNat_add, hsize, not_or] at hspan
    rw [if_pos]
    apply BitVec.eq_of_toNat_eq
    rw [FvbCall.BadSize] at h
    omega

/-- A read inside one block returns its bytes unless the check refuses it. -/
theorem fvbRead_eq (hpos : 0 < numBytes.toNat)
    (hend : offset.toNat + numBytes.toNat ≤ v.blockSize.toNat) :
    (FvbCall.ReadRefused v lba offset numBytes →
      fvbRead v.toNorFlashInstance lba offset numBytes buffer f = .error .deviceError) ∧
    (¬ FvbCall.ReadRefused v lba offset numBytes →
      fvbRead v.toNorFlashInstance lba offset numBytes buffer f =
        .ok (Segment.overlay buffer 0 numBytes.toNat
          (fun i => f.bytes (v.blockAddress (v.startLba + lba) + offset.toNat + i)))) := by
  have hsize := v.toNat_setWidth_blockSize
  have hlt := v.blockSize.isLt
  have hspan : ¬ (offset ≥ v.blockSize.setWidth 64 || numBytes > v.blockSize.setWidth 64 ||
      offset + numBytes > v.blockSize.setWidth 64) = true := by
    simp only [Bool.or_eq_true, decide_eq_true_eq, ge_iff_le, gt_iff_lt, BitVec.le_def,
      BitVec.lt_def, BitVec.toNat_add, hsize]
    omega
  have hne : ¬ numBytes = 0 := by
    intro h
    exact absurd (congrArg BitVec.toNat h) (Nat.ne_of_gt hpos)
  rw [fvbRead, if_neg hspan, if_neg hne, FvbCall.ReadRefused]
  by_cases hwhole : numBytes.toNat = v.blockSize.toNat
  · have hbytes : numBytes = v.blockSize.setWidth 64 := by
      apply BitVec.eq_of_toNat_eq
      rw [hwhole, hsize]
    rw [if_pos hwhole, if_neg (by rw [hbytes]; simp), ← v.beyond_iff]
    refine ⟨fun h => ?_, fun h => ?_⟩
    · rw [readBlocks_refused v.toNorFlashDevice _ buffer f h]
    · rw [readBlocks_eq v.toNorFlashDevice _ buffer f h, hwhole,
        show offset.toNat = 0 by omega]
      rfl
  · have hpart : numBytes % v.blockSize.setWidth 64 ≠ 0 := by
      intro h
      have hmod := congrArg BitVec.toNat h
      rw [BitVec.toNat_umod, hsize, Nat.mod_eq_of_lt (by omega)] at hmod
      exact absurd hmod (Nat.ne_of_gt hpos)
    rw [if_neg hwhole, if_pos hpart, ← v.toNat_end, ← BitVec.lt_def]
    refine ⟨fun h => ?_, fun h => ?_⟩
    · rw [norFlashRead, if_neg hne, if_pos h]
    · rw [norFlashRead, if_neg hne, if_neg h]
      dsimp only
      rw [v.toNat_norBlockAddress_add _ offset (by omega)]

theorem not_readRefused (h : (v.startLba + lba).toNat ≤ v.lastBlock.toNat)
    (hend : offset.toNat + numBytes.toNat ≤ v.blockSize.toNat) :
    ¬ FvbCall.ReadRefused v lba offset numBytes := by
  have hblock := v.block_le_size (v.startLba + lba) h
  have hnat := BitVec.toNat_add v.startLba lba
  rw [FvbCall.ReadRefused]
  split
  · omega
  · have hrequest := v.toNat_end lba offset numBytes
    rw [BitVec.toNat_add, BitVec.toNat_add, BitVec.toNat_mul, v.toNat_setWidth_blockSize]
      at hrequest
    rw [← hrequest]
    omega

end Read

section Write

variable (v : FvbVolume) (lba : U64) (offset numBytes : Uintn) (data : Nat → U8)
  (f : NorFlash) (shadow : Nat → U8)

theorem fvbWrite_badSize (h : FvbCall.BadSize v offset numBytes) :
    fvbWrite v.toNorFlashInstance lba offset numBytes data f shadow =
      ⟨.error .badBufferSize, f, shadow⟩ := by
  have hzero : (0 : U64).toNat = 0 := rfl
  have hsize := v.toNat_setWidth_blockSize
  have hlt := v.blockSize.isLt
  rw [fvbWrite, norFlashWriteSingleBlock]
  split
  · rfl
  · next hspan =>
    simp only [Bool.or_eq_true, decide_eq_true_eq, ge_iff_le, gt_iff_lt, BitVec.le_def,
      BitVec.lt_def, BitVec.toNat_add, hsize, not_or] at hspan
    rw [if_pos]
    apply BitVec.eq_of_toNat_eq
    rw [FvbCall.BadSize] at h
    omega

/-- The old bytes of the lines of a write, unless the check refuses it. -/
theorem readBack_at (hend : offset.toNat + numBytes.toNat ≤ v.blockSize.toNat)
    (hpos : 0 < numBytes.toNat) :
    (v.size.toNat < ((v.startLba.toNat + lba.toNat) * v.blockSize.toNat +
        (offset.toNat - offset.toNat % 128) + (numBytes.toNat / 128 + 1) * 128) % 2 ^ 64 →
      norFlashRead v.toNorFlashInstance (v.startLba + lba)
        (offset &&& ~~~ BOUNDARY_OF_32_WORDS) ((numBytes ||| BOUNDARY_OF_32_WORDS) + 1) shadow
        f = .error .invalidParameter) ∧
    (¬ v.size.toNat < ((v.startLba.toNat + lba.toNat) * v.blockSize.toNat +
        (offset.toNat - offset.toNat % 128) + (numBytes.toNat / 128 + 1) * 128) % 2 ^ 64 →
      norFlashRead v.toNorFlashInstance (v.startLba + lba)
        (offset &&& ~~~ BOUNDARY_OF_32_WORDS) ((numBytes ||| BOUNDARY_OF_32_WORDS) + 1) shadow
        f = .ok (Segment.overlay shadow 0 ((numBytes.toNat / 128 + 1) * 128)
          (fun i => f.bytes (v.blockAddress (v.startLba + lba) +
            (offset.toNat - offset.toNat % 128) + i)))) := by
  have hlt := v.blockSize.isLt
  have hread := toNat_readBack numBytes (by omega)
  have hne : ¬ (numBytes ||| BOUNDARY_OF_32_WORDS) + 1 = 0 := by
    intro h
    have hnat := congrArg BitVec.toNat h
    have hzero : (0 : U64).toNat = 0 := rfl
    omega
  rw [← hread, ← toNat_lineBase, ← v.toNat_end, ← BitVec.lt_def]
  refine ⟨fun h => ?_, fun h => ?_⟩
  · rw [norFlashRead, if_neg hne, if_pos h]
  · rw [norFlashRead, if_neg hne, if_neg h]
    dsimp only
    rw [v.toNat_norBlockAddress_add _ _ (by rw [toNat_lineBase]; omega)]

theorem fvbWrite_refused (hpos : 0 < numBytes.toNat)
    (hend : offset.toNat + numBytes.toNat ≤ v.blockSize.toNat)
    (h : FvbCall.WriteRefused v lba offset numBytes) :
    fvbWrite v.toNorFlashInstance lba offset numBytes data f shadow =
      ⟨.error .deviceError, f, shadow⟩ := by
  have hrun := writeSingleBlock_eq v.toNorFlashInstance (v.startLba + lba) offset numBytes data f
    shadow hpos hend
  rw [FvbCall.WriteRefused] at h
  rw [fvbWrite, hrun]
  split
  · next hbuffered =>
    rw [if_pos hbuffered] at h
    rw [(readBack_at v lba offset numBytes f shadow hend hpos).1 h]
  · next hlong =>
    rw [if_neg hlong, ← v.beyond_iff] at h
    exact eraseAndWrite_refused v.toNorFlashDevice _ offset numBytes data f shadow h

theorem fvbWrite_succeeds (hpos : 0 < numBytes.toNat)
    (hend : offset.toNat + numBytes.toNat ≤ v.blockSize.toNat)
    (h : ¬ FvbCall.WriteRefused v lba offset numBytes) :
    (fvbWrite v.toNorFlashInstance lba offset numBytes data erasedFlash
      (fun _ => BitVec.allOnes 8)).status = .ok () := by
  have hrun := writeSingleBlock_eq v.toNorFlashInstance (v.startLba + lba) offset numBytes data
    erasedFlash (fun _ => BitVec.allOnes 8) hpos hend
  rw [FvbCall.WriteRefused] at h
  rw [fvbWrite, hrun]
  split
  · next hbuffered =>
    rw [if_pos hbuffered] at h
    have hones : Segment.overlay (fun _ => BitVec.allOnes 8) 0
        ((numBytes.toNat / 128 + 1) * 128) (fun i => erasedFlash.bytes
          (v.blockAddress (v.startLba + lba) + (offset.toNat - offset.toNat % 128) + i)) =
        fun _ => BitVec.allOnes 8 := by
      apply Segment.overlay_self
      intro i _
      rfl
    have hloop := updateShadowLoop_clears (offset.toNat % 128) data numBytes.toNat 0
      (fun _ => BitVec.allOnes 8) (by intro i _; simp)
    obtain ⟨g, hprogram, -⟩ := programLines_at v.toNorFlashDevice (v.startLba + lba) offset
      numBytes erasedFlash (Segment.overlay (fun _ => BitVec.allOnes 8)
        (offset.toNat % 128 + 0) numBytes.toNat (fun i => data (0 + i))) hpos hend hbuffered
    rw [(readBack_at v lba offset numBytes erasedFlash _ hend hpos).2 h, hones]
    dsimp only
    rw [hloop]
    dsimp only
    rw [hprogram]
  · next hlong =>
    rw [if_neg hlong, ← v.beyond_iff] at h
    obtain ⟨g, _, hrewrite, -⟩ := eraseAndWrite_eq v.toNorFlashDevice (v.startLba + lba) offset
      numBytes data erasedFlash (fun _ => BitVec.allOnes 8) h hend
    rw [hrewrite]

/-- The lines read back lie in the region when the check lets them through. -/
theorem readBack_within_region (h : v.HasBlock lba)
    (hend : offset.toNat + numBytes.toNat ≤ v.blockSize.toNat)
    (hchecked : ¬ v.size.toNat < ((v.startLba.toNat + lba.toNat) * v.blockSize.toNat +
        (offset.toNat - offset.toNat % 128) + (numBytes.toNat / 128 + 1) * 128) % 2 ^ 64)
    (i : Nat) (hi : i < (numBytes.toNat / 128 + 1) * 128) :
    Span.Mem (v.blockAddress (v.startLba + lba) + (offset.toNat - offset.toNat % 128) + i)
      v.region := by
  obtain ⟨m, hm⟩ := v.dvd_blockSize
  obtain ⟨k, hk⟩ := v.dvd_size
  have hlast := v.add_startLba_le lba h
  have hblock := v.block_le_size (v.startLba + lba) hlast
  have hsize := v.size.isLt
  rw [v.toNat_add_startLba lba h] at hblock
  rw [v.blockAddress_eq _ hlast, NorFlashDevice.blockStart, v.toNat_add_startLba lba h,
    FvbVolume.region, Span.Mem, Span.limit_mk]
  dsimp only
  rw [Nat.mod_eq_of_lt (by omega)] at hchecked
  omega

theorem eraseAndWrite_reads (h : v.HasBlock lba)
    (hend : offset.toNat + numBytes.toNat ≤ v.blockSize.toNat) (f f' : NorFlash)
    (buffer : Nat → U8) (hagree : f.AgreeOn v.region f') :
    (norFlashEraseAndWrite v.toNorFlashInstance (v.startLba + lba) offset numBytes data f
          buffer).status =
        (norFlashEraseAndWrite v.toNorFlashInstance (v.startLba + lba) offset numBytes data f'
          buffer).status ∧
      ∀ a, Span.Mem a v.region →
        (norFlashEraseAndWrite v.toNorFlashInstance (v.startLba + lba) offset numBytes data f
            buffer).flash.bytes a =
          (norFlashEraseAndWrite v.toNorFlashInstance (v.startLba + lba) offset numBytes data f'
            buffer).flash.bytes a := by
  have hcheck := v.not_beyond_lastBlock _ (v.add_startLba_le lba h)
  obtain ⟨g, _, hrun, hbytes⟩ := eraseAndWrite_eq v.toNorFlashDevice (v.startLba + lba)
    offset numBytes data f buffer hcheck hend
  obtain ⟨g', _, hrun', hbytes'⟩ := eraseAndWrite_eq v.toNorFlashDevice (v.startLba + lba)
    offset numBytes data f' buffer hcheck hend
  rw [hrun, hrun', hbytes, hbytes']
  exact ⟨rfl, fun a ha => Segment.overlay_eq_of_eq _ _ _ _ _ _ (hagree.2 a ha)⟩

theorem programLines_reads (h : v.HasBlock lba) (hpos : 0 < numBytes.toNat)
    (hend : offset.toNat + numBytes.toNat ≤ v.blockSize.toNat)
    (hbuffered : numBytes.toNat + offset.toNat % 128 ≤ 256) (f f' : NorFlash)
    (buffer : Nat → U8) (hagree : f.AgreeOn v.region f') :
    (norFlashProgramLines v.toNorFlashInstance (v.startLba + lba) offset numBytes f
          buffer).status =
        (norFlashProgramLines v.toNorFlashInstance (v.startLba + lba) offset numBytes f'
          buffer).status ∧
      ∀ a, Span.Mem a v.region →
        (norFlashProgramLines v.toNorFlashInstance (v.startLba + lba) offset numBytes f
            buffer).flash.bytes a =
          (norFlashProgramLines v.toNorFlashInstance (v.startLba + lba) offset numBytes f'
            buffer).flash.bytes a := by
  obtain ⟨m, hm⟩ := v.dvd_blockSize
  obtain ⟨g, hrun, hbytes⟩ := programLines_at v.toNorFlashDevice (v.startLba + lba)
    offset numBytes f buffer hpos hend hbuffered
  obtain ⟨g', hrun', hbytes'⟩ := programLines_at v.toNorFlashDevice (v.startLba + lba)
    offset numBytes f' buffer hpos hend hbuffered
  rw [hrun, hrun', hbytes, hbytes']
  refine ⟨rfl, fun a ha => ?_⟩
  rw [Segment.overlay_eq_of_eq _ _ _ _ _ _ (hagree.2 a ha)]
  refine congrFun (Segment.overlay_congr _ _ _ _ _ fun i hi => ?_) a
  have hinside : offset.toNat - offset.toNat % 128 + i < v.blockSize.toNat := by
    split at hi <;> omega
  have hmem := v.block_within_region lba h _ hinside
  rw [← Nat.add_assoc] at hmem
  rw [hagree.2 _ hmem]

/-- A write of data in one block of the volume depends on bytes of the region only. -/
theorem fvbWrite_reads (h : v.HasBlock lba) (hpos : 0 < numBytes.toNat)
    (hend : offset.toNat + numBytes.toNat ≤ v.blockSize.toNat) (f f' : NorFlash)
    (hagree : f.AgreeOn v.region f') :
    (fvbWrite v.toNorFlashInstance lba offset numBytes data f shadow).status =
        (fvbWrite v.toNorFlashInstance lba offset numBytes data f' shadow).status ∧
      ∀ a, Span.Mem a v.region →
        (fvbWrite v.toNorFlashInstance lba offset numBytes data f shadow).flash.bytes a =
          (fvbWrite v.toNorFlashInstance lba offset numBytes data f' shadow).flash.bytes a := by
  rw [fvbWrite, fvbWrite,
    writeSingleBlock_eq v.toNorFlashInstance (v.startLba + lba) offset numBytes data f shadow hpos
      hend,
    writeSingleBlock_eq v.toNorFlashInstance (v.startLba + lba) offset numBytes data f' shadow hpos
      hend]
  split
  · next hbuffered =>
    have hread := readBack_at v lba offset numBytes f shadow hend hpos
    have hread' := readBack_at v lba offset numBytes f' shadow hend hpos
    by_cases hchecked : v.size.toNat < ((v.startLba.toNat + lba.toNat) * v.blockSize.toNat +
        (offset.toNat - offset.toNat % 128) + (numBytes.toNat / 128 + 1) * 128) % 2 ^ 64
    · rw [hread.1 hchecked, hread'.1 hchecked]
      exact ⟨rfl, hagree.2⟩
    · have hlines := readBack_within_region v lba offset numBytes h hend hchecked
      rw [hread.2 hchecked, hread'.2 hchecked,
        Segment.overlay_congr shadow 0 _ _ _ (fun i hi => hagree.2 _ (hlines i hi))]
      dsimp only
      rcases updateShadowLoop (offset.toNat % 128) data numBytes.toNat 0 _ with ⟨buffer, clears⟩
      cases clears with
      | true =>
          exact programLines_reads v lba offset numBytes h hpos hend hbuffered f f' buffer hagree
      | false => exact eraseAndWrite_reads v lba offset numBytes data h hend f f' buffer hagree
  · exact eraseAndWrite_reads v lba offset numBytes data h hend f f' shadow hagree

theorem fvbWrite_writes (h : v.HasBlock lba) (hpos : 0 < numBytes.toNat)
    (hend : offset.toNat + numBytes.toNat ≤ v.blockSize.toNat) (f : NorFlash) (a : Nat)
    (ha : ¬ Span.Mem a v.region) :
    (fvbWrite v.toNorFlashInstance lba offset numBytes data f shadow).flash.bytes a =
      f.bytes a := by
  obtain ⟨x, n, src, hle, hbytes⟩ := writeSingleBlock_changes v.toNorFlashDevice
    (v.startLba + lba) offset numBytes data f shadow hpos hend
  rw [fvbWrite, hbytes]
  apply Segment.overlay_outside
  by_contra hin
  have hmem := v.block_within_region lba h (a - v.blockAddress (v.startLba + lba)) (by omega)
  rw [Nat.add_sub_cancel' (by omega)] at hmem
  exact ha hmem

end Write

section Erase

variable (v : FvbVolume)

/-- The blocks of a pair are erased one after the other, without a gap. -/
theorem eraseLbaLoop_bytes (numOfLba : Nat) (startingLba : U64) (f : NorFlash)
    (h : v.startLba.toNat + startingLba.toNat + numOfLba ≤ v.lastBlock.toNat + 1) :
    (eraseLbaLoop v.toNorFlashInstance numOfLba startingLba f).2.bytes =
      Segment.overlay f.bytes
        (v.storageVariableBase.toNat + startingLba.toNat * v.blockSize.toNat)
        (numOfLba * v.blockSize.toNat) (fun _ => BitVec.allOnes 8) := by
  induction numOfLba generalizing startingLba f with
  | zero => rw [eraseLbaLoop, Nat.zero_mul, Segment.overlay_zero]
  | succ numOfLba ih =>
      have hhas : v.HasBlock startingLba := by
        rw [FvbVolume.HasBlock]
        omega
      have haddress : (norBlockAddress v.toNorFlashInstance
          (v.startLba + startingLba)).toNat =
            v.storageVariableBase.toNat + startingLba.toNat * v.blockSize.toNat := by
        rw [v.toNat_norBlockAddress _ (v.add_startLba_le _ hhas), v.store_eq,
          NorFlashDevice.blockStart, NorFlashDevice.blockStart,
          v.toNat_add_startLba _ hhas, Nat.add_mul, Nat.add_assoc]
      rw [eraseLbaLoop, unlockAndErase_eq]
      dsimp only
      rcases Nat.eq_zero_or_pos numOfLba with rfl | hmore
      · rw [eraseLbaLoop, NorFlash.bytes_erase, NorFlash.bytes_unlock, haddress, Nat.zero_add,
          Nat.one_mul]
      · have hnext : (startingLba + 1).toNat = startingLba.toNat + 1 := by
          have hone : (1 : U64).toNat = 1 := rfl
          have hlast := v.lastBlock.isLt
          rw [BitVec.toNat_add, hone]
          exact Nat.mod_eq_of_lt (by omega)
        rw [ih _ _ (by omega), hnext, NorFlash.bytes_erase, NorFlash.bytes_unlock, haddress,
          Nat.succ_mul, Nat.succ_mul, ← Nat.add_assoc,
          Nat.add_comm (numOfLba * v.blockSize.toNat)]
        exact Segment.overlay_append _ _ _ _ (fun _ => BitVec.allOnes 8)

theorem listed_cons (p : U64 × Uintn) (args : List (U64 × Uintn)) :
    FvbCall.listed (p :: args) =
      if p.1 = EFI_LBA_LIST_TERMINATOR then [] else p :: FvbCall.listed args := by
  rw [FvbCall.listed, List.takeWhile_cons]
  split
  · next h => rw [if_neg (by simpa using h), FvbCall.listed]
  · next h => rw [if_pos (by simpa using h)]

theorem pairRefused_iff (startingLba : U64) (numOfLba : Uintn) :
    (numOfLba = 0 ||
      v.startLba + startingLba + numOfLba - 1 > v.lastBlock) = true ↔
      FvbCall.PairRefused v (startingLba, numOfLba) := by
  have hzero : (0 : U64).toNat = 0 := rfl
  have hone : (1 : U64).toNat = 1 := rfl
  have hempty : numOfLba = 0 ↔ numOfLba.toNat = 0 := by
    rw [← BitVec.toNat_inj, hzero]
  rw [Bool.or_eq_true, decide_eq_true_eq, decide_eq_true_eq, FvbCall.PairRefused, hempty,
    gt_iff_lt, BitVec.lt_def, BitVec.toNat_sub, BitVec.toNat_add, BitVec.toNat_add, hone]
  dsimp only
  omega

theorem eraseListCheck_eq (args : List (U64 × Uintn)) :
    ((∃ p ∈ FvbCall.listed args, FvbCall.PairRefused v p) →
      eraseListCheck v.toNorFlashInstance args = .error .invalidParameter) ∧
    ((∀ p ∈ FvbCall.listed args, ¬ FvbCall.PairRefused v p) →
      eraseListCheck v.toNorFlashInstance args = .ok ()) := by
  induction args with
  | nil => simp [FvbCall.listed, eraseListCheck]
  | cons p args ih =>
      rcases p with ⟨startingLba, numOfLba⟩
      rw [eraseListCheck, listed_cons]
      split
      · simp
      · have hrefused := pairRefused_iff v startingLba numOfLba
        by_cases h : FvbCall.PairRefused v (startingLba, numOfLba)
        · rw [if_pos (hrefused.mpr h)]
          exact ⟨fun _ => rfl, fun hall => absurd h (hall _ List.mem_cons_self)⟩
        · rw [if_neg (fun hcheck => h (hrefused.mp hcheck))]
          simpa [h] using ih

theorem eraseListLoop_bytes (args : List (U64 × Uintn)) (f : NorFlash)
    (h : ∀ p ∈ FvbCall.listed args, FvbCall.ValidPair v p) (a : Nat) :
    ((∃ p ∈ FvbCall.listed args, Span.Mem a (FvbCall.pairSpan v p)) →
      (eraseListLoop v.toNorFlashInstance args f).2.bytes a = BitVec.allOnes 8) ∧
    ((∀ p ∈ FvbCall.listed args, ¬ Span.Mem a (FvbCall.pairSpan v p)) →
      (eraseListLoop v.toNorFlashInstance args f).2.bytes a = f.bytes a) := by
  induction args generalizing f with
  | nil => simp [FvbCall.listed, eraseListLoop]
  | cons p args ih =>
      rcases p with ⟨startingLba, numOfLba⟩
      rw [listed_cons] at h ⊢
      rw [eraseListLoop]
      split
      · simp
      · next hterminator =>
        rw [if_neg hterminator] at h
        have hpair := eraseLbaLoop_succeeds v.toNorFlashInstance numOfLba.toNat startingLba f
        have hbytes := eraseLbaLoop_bytes v numOfLba.toNat startingLba f
          (h _ List.mem_cons_self).2
        rcases hrun : eraseLbaLoop v.toNorFlashInstance numOfLba.toNat startingLba f with
          ⟨status, g⟩
        rw [hrun] at hpair hbytes
        subst hpair
        obtain ⟨herased, hkept⟩ := ih g (fun q hq => h q (List.mem_cons_of_mem _ hq))
        have hinside (hmem : Span.Mem a (FvbCall.pairSpan v (startingLba, numOfLba))) :
            g.bytes a = BitVec.allOnes 8 := by
          rw [hbytes]
          exact Segment.overlay_inside _ _ _ _ _ hmem.1 hmem.2
        have houtside (hmem : ¬ Span.Mem a (FvbCall.pairSpan v (startingLba, numOfLba))) :
            g.bytes a = f.bytes a := by
          rw [hbytes]
          apply Segment.overlay_outside
          rw [Span.Mem, FvbCall.pairSpan, Span.limit_mk] at hmem
          dsimp only at hmem
          omega
        dsimp only
        refine ⟨fun hex => ?_, fun hall => ?_⟩
        · by_cases hrest : ∃ q ∈ FvbCall.listed args, Span.Mem a (FvbCall.pairSpan v q)
          · exact herased hrest
          · push Not at hrest
            obtain ⟨q, hq, hmem⟩ := hex
            rcases List.mem_cons.mp hq with rfl | hq
            · rw [hkept hrest, hinside hmem]
            · exact absurd hmem (hrest q hq)
        · rw [hkept (fun q hq => hall q (List.mem_cons_of_mem _ hq))]
          exact houtside (hall _ List.mem_cons_self)

end Erase

section Contained

variable (v : FvbVolume)

theorem mem_region_of_pairSpan (p : U64 × Uintn) (h : FvbCall.ValidPair v p) (a : Nat)
    (ha : Span.Mem a (FvbCall.pairSpan v p)) : Span.Mem a v.region := by
  have hblocks : (v.startLba.toNat + p.1.toNat + p.2.toNat) * v.blockSize.toNat ≤
      v.size.toNat := by
    rw [v.size_eq]
    exact Nat.mul_le_mul_right _ h.2
  rw [Nat.add_mul, Nat.add_mul] at hblocks
  rw [Span.Mem, FvbCall.pairSpan, Span.limit_mk, v.store_eq, NorFlashDevice.blockStart] at ha
  rw [Span.Mem, FvbVolume.region, Span.limit_mk]
  dsimp only at *
  omega

theorem contained_of_refused (c : FvbCall) (e : EfiError) (he : c.Refusal e)
    (h : ∀ buffer f, c.run v buffer f = (.error e, f)) : c.Contained v where
  touches buffer := by
    rw [show c.run v buffer = fun f => (.error e, f) from funext (h buffer)]
    exact touchesOnly_const _ _
  refused _ buffer f := ⟨e, he, h buffer f⟩
  erases args _ buffer f b g hrun := by
    rw [h buffer f] at hrun
    cases hrun

theorem read_contained_iff (lba : U64) (offset numBytes : Uintn) :
    (FvbCall.read lba offset numBytes).Contained v ↔
      (FvbCall.read lba offset numBytes).Sound v := by
  by_cases hbad : FvbCall.BadSize v offset numBytes
  · refine iff_of_true ?_ (Or.inr (Or.inl hbad))
    refine contained_of_refused v _ .badBufferSize trivial fun buffer f => ?_
    rw [FvbCall.run, fvbRead_badSize v lba offset numBytes buffer f hbad]
  have hsize := hbad
  rw [FvbCall.BadSize, not_or, Nat.not_lt] at hsize
  have hpos := Nat.pos_of_ne_zero hsize.1
  have hread (buffer : Nat → U8) (f : NorFlash) :=
    fvbRead_eq v lba offset numBytes buffer f hpos hsize.2
  by_cases hrefused : FvbCall.ReadRefused v lba offset numBytes
  · refine iff_of_true ?_ (Or.inr (Or.inr hrefused))
    refine contained_of_refused v _ .deviceError trivial fun buffer f => ?_
    rw [FvbCall.run, (hread buffer f).1 hrefused]
  rw [FvbCall.Sound, or_iff_left hrefused, or_iff_left hbad]
  constructor
  · intro h
    by_contra hhas
    obtain ⟨e, -, hrun⟩ := h.refused (fun hin => hhas hin.1) (fun _ => 0) erasedFlash
    rw [FvbCall.run, (hread _ _).2 hrefused] at hrun
    cases hrun
  · intro hhas
    refine ⟨fun buffer => ⟨fun _ _ _ => rfl, fun f g hagree => ⟨?_, hagree.2⟩⟩,
      fun hout => absurd ⟨hhas, hsize.2⟩ hout, fun args heq => nomatch heq⟩
    rw [FvbCall.run, FvbCall.run, (hread _ _).2 hrefused, (hread _ _).2 hrefused]
    refine congrArg Except.ok (Segment.overlay_congr _ _ _ _ _ fun i hi => ?_)
    rw [Nat.add_assoc]
    exact hagree.2 _ (v.block_within_region lba hhas _ (by omega))

theorem write_contained_iff (lba : U64) (offset numBytes : Uintn) (data : Nat → U8) :
    (FvbCall.write lba offset numBytes data).Contained v ↔
      (FvbCall.write lba offset numBytes data).Sound v := by
  by_cases hbad : FvbCall.BadSize v offset numBytes
  · refine iff_of_true ?_ (Or.inr (Or.inl hbad))
    refine contained_of_refused v _ .badBufferSize trivial fun buffer f => ?_
    rw [FvbCall.run, fvbWrite_badSize v lba offset numBytes data f buffer hbad]
    rfl
  have hsize := hbad
  rw [FvbCall.BadSize, not_or, Nat.not_lt] at hsize
  have hpos := Nat.pos_of_ne_zero hsize.1
  by_cases hrefused : FvbCall.WriteRefused v lba offset numBytes
  · refine iff_of_true ?_ (Or.inr (Or.inr hrefused))
    refine contained_of_refused v _ .deviceError trivial fun buffer f => ?_
    rw [FvbCall.run,
      fvbWrite_refused v lba offset numBytes data f buffer hpos hsize.2 hrefused]
    rfl
  rw [FvbCall.Sound, or_iff_left hrefused, or_iff_left hbad]
  constructor
  · intro h
    by_contra hhas
    obtain ⟨e, -, hrun⟩ := h.refused (fun hin => hhas hin.1) (fun _ => BitVec.allOnes 8)
      erasedFlash
    have hstatus := congrArg Prod.fst hrun
    rw [FvbCall.run] at hstatus
    dsimp only at hstatus
    rw [fvbWrite_succeeds v lba offset numBytes data hpos hsize.2 hrefused] at hstatus
    cases hstatus
  · intro hhas
    refine ⟨fun buffer => ⟨fun f a ha => ?_, fun f g hagree => ?_⟩,
      fun hout => absurd ⟨hhas, hsize.2⟩ hout, fun args heq => nomatch heq⟩
    · exact fvbWrite_writes v lba offset numBytes data buffer hhas hpos hsize.2 f a ha
    · obtain ⟨hstatus, hbytes⟩ :=
        fvbWrite_reads v lba offset numBytes data buffer hhas hpos hsize.2 f g hagree
      exact ⟨congrArg (Except.map fun _ => buffer) hstatus, hbytes⟩

theorem eraseBlocks_contained_iff (args : List (U64 × Uintn)) :
    (FvbCall.eraseBlocks args).Contained v ↔ (FvbCall.eraseBlocks args).Sound v := by
  have hcheck := eraseListCheck_eq v args
  by_cases hrefused : ∃ p ∈ FvbCall.listed args, FvbCall.PairRefused v p
  · refine iff_of_true ?_ (Or.inr hrefused)
    refine contained_of_refused v _ .invalidParameter rfl fun buffer f => ?_
    rw [FvbCall.run, fvbEraseBlocks, hcheck.1 hrefused]
    rfl
  have hpassed : eraseListCheck v.toNorFlashInstance args = .ok () := by
    push Not at hrefused
    exact hcheck.2 hrefused
  have hstatus := eraseListLoop_succeeds v.toNorFlashInstance args
  rw [FvbCall.Sound, or_iff_left hrefused]
  constructor
  · intro h
    by_contra hvalid
    obtain ⟨e, -, hrun⟩ := h.refused hvalid (fun _ => 0) erasedFlash
    have herror := congrArg Prod.fst hrun
    rw [FvbCall.run, fvbEraseBlocks, hpassed] at herror
    dsimp only at herror
    rw [hstatus] at herror
    cases herror
  · intro hvalid
    have hbytes := eraseListLoop_bytes v args
    have hrun (buffer : Nat → U8) (f : NorFlash) :
        (FvbCall.eraseBlocks args).run v buffer f =
          (.ok buffer, (eraseListLoop v.toNorFlashInstance args f).2) := by
      rw [FvbCall.run, fvbEraseBlocks, hpassed]
      dsimp only
      rw [hstatus]
      rfl
    refine ⟨fun buffer => ⟨fun f a ha => ?_, fun f g hagree => ?_⟩,
      fun hout => absurd hvalid hout, fun args' heq buffer f b g hok => ?_⟩
    · rw [hrun]
      refine (hbytes f hvalid a).2 fun p hp hmem => ?_
      exact ha (mem_region_of_pairSpan v p (hvalid p hp) a hmem)
    · rw [hrun, hrun]
      refine ⟨rfl, fun a ha => ?_⟩
      by_cases hlisted : ∃ p ∈ FvbCall.listed args, Span.Mem a (FvbCall.pairSpan v p)
      · dsimp only
        rw [(hbytes f hvalid a).1 hlisted, (hbytes g hvalid a).1 hlisted]
      · push Not at hlisted
        dsimp only
        rw [(hbytes f hvalid a).2 hlisted, (hbytes g hvalid a).2 hlisted]
        exact hagree.2 a ha
    · cases heq
      rw [hrun] at hok
      cases hok
      exact ⟨fun p hp a hmem => (hbytes f hvalid a).1 ⟨p, hp, hmem⟩,
        fun a hall => (hbytes f hvalid a).2 hall⟩

end Contained

/-- A call of the firmware volume block protocol is contained, whatever the flash
holds, if and only if the blocks it names exist or its check sees that they do not. -/
theorem fvbCall_contained_iff (v : FvbVolume) (c : FvbCall) : c.Contained v ↔ c.Sound v := by
  cases c with
  | read lba offset numBytes => exact read_contained_iff v lba offset numBytes
  | write lba offset numBytes data => exact write_contained_iff v lba offset numBytes data
  | eraseBlocks args => exact eraseBlocks_contained_iff v args

/-- Sixty-four megabytes of 256 KiB blocks, all of them the volume. -/
def wholeRegionVolume : FvbVolume where
  regionBaseAddress := 0x4000000
  size := 0x4000000
  startLba := 0
  lastBlock := 255
  blockSize := 0x40000
  blockBits := 18
  blockSize_eq := rfl
  nine_le_blockBits := by decide
  base_aligned := rfl
  size_eq := rfl
  region_le := by decide
  storageVariableBase := 0x4000000
  region_le_store := Nat.le_refl _
  store_lt := by decide
  store_aligned := rfl
  startLba_eq := by decide

/-- Three blocks from the last but one block number on pass the check, and the two
blocks below the region are erased. -/
theorem eraseBlocks_wraps_below_region :
    ¬ (FvbCall.eraseBlocks [(0xFFFFFFFFFFFFFFFE, 3)]).Contained wholeRegionVolume := by
  intro h
  have hbyte := (h.touches fun _ => 0).writes ⟨fun _ => 0, fun _ => false⟩ 0x3FFFFFF
    (by decide)
  exact absurd hbyte (by decide)

end FdtBusPkg
