import FdtBusPkg.NorFlash.Device
import FdtBusPkg.Library.Align

/-!
The path that rewrites a whole block. On a flash of aligned power-of-two blocks
it stores the data and nothing else, whatever the shadow buffer held before.
-/
namespace FdtBusPkg

/-- A region of power-of-two blocks that starts on a block boundary. -/
structure NorFlashDevice extends NorFlashInstance where
  blockBits : Nat
  blockSize_eq : blockSize.toNat = 2 ^ blockBits
  nine_le_blockBits : 9 ≤ blockBits
  base_aligned : regionBaseAddress.toNat % blockSize.toNat = 0
  size_eq : size.toNat = (lastBlock.toNat + 1) * blockSize.toNat
  region_le : regionBaseAddress.toNat + size.toNat ≤ 2 ^ 64

/-- A write inside one block of the region. -/
structure BlockWrite (d : NorFlashDevice) where
  lba : U64
  offset : Uintn
  numBytes : Uintn
  data : Nat → U8
  lba_le : lba.toNat ≤ d.lastBlock.toNat
  numBytes_pos : 0 < numBytes.toNat
  end_le : offset.toNat + numBytes.toNat ≤ d.blockSize.toNat

namespace NorFlashDevice

variable (d : NorFlashDevice)

def blockStart (lba : U64) : Nat := d.regionBaseAddress.toNat + lba.toNat * d.blockSize.toNat

theorem dvd_blockSize : 512 ∣ d.blockSize.toNat := by
  rw [d.blockSize_eq]
  exact Nat.pow_dvd_pow 2 d.nine_le_blockBits

theorem dvd_size : 512 ∣ d.size.toNat := by
  rw [d.size_eq]
  exact Nat.dvd_mul_left_of_dvd d.dvd_blockSize _

theorem blockSize_pos : 0 < d.blockSize.toNat := by
  rw [d.blockSize_eq]
  exact Nat.two_pow_pos _

theorem block_le_size (lba : U64) (h : lba.toNat ≤ d.lastBlock.toNat) :
    lba.toNat * d.blockSize.toNat + d.blockSize.toNat ≤ d.size.toNat := by
  rw [d.size_eq, ← Nat.succ_mul]
  exact Nat.mul_le_mul_right _ (by omega)

theorem block_eq_size_iff (lba : U64) :
    lba.toNat * d.blockSize.toNat + d.blockSize.toNat = d.size.toNat ↔
      lba = d.lastBlock := by
  rw [d.size_eq, ← Nat.succ_mul, Nat.mul_right_cancel_iff d.blockSize_pos, BitVec.toNat_eq]
  omega

theorem next_block_le_size (lba : U64) (h : lba.toNat ≤ d.lastBlock.toNat)
    (hne : lba ≠ d.lastBlock) :
    lba.toNat * d.blockSize.toNat + d.blockSize.toNat + d.blockSize.toNat ≤ d.size.toNat := by
  rw [d.size_eq, ← Nat.succ_mul, ← Nat.succ_mul]
  refine Nat.mul_le_mul_right _ ?_
  have hlt : lba.toNat ≠ d.lastBlock.toNat := fun heq => hne (BitVec.eq_of_toNat_eq heq)
  omega

theorem dvd_two_pow : d.blockSize.toNat ∣ 2 ^ 64 := by
  have hlt := d.blockSize.isLt
  rw [d.blockSize_eq] at hlt ⊢
  refine Nat.pow_dvd_pow 2 ?_
  have hbits := (Nat.pow_lt_pow_iff_right (by decide)).mp hlt
  omega

theorem toNat_setWidth_blockSize : (d.blockSize.setWidth 64).toNat = d.blockSize.toNat :=
  BitVec.toNat_setWidth_of_le (by decide)

theorem toNat_norBlockAddress (lba : U64) (h : lba.toNat ≤ d.lastBlock.toNat) :
    (norBlockAddress d.toNorFlashInstance lba).toNat = d.blockStart lba := by
  have hblock := d.block_le_size lba h
  have hregion := d.region_le
  have hpos := d.blockSize_pos
  rw [norBlockAddress, blockStart, BitVec.toNat_add, BitVec.toNat_mul,
    d.toNat_setWidth_blockSize]
  omega

/-- First byte of a block as the driver computes it, also where there is no such
block. -/
def blockAddress (lba : U64) : Nat := (norBlockAddress d.toNorFlashInstance lba).toNat

theorem blockAddress_eq (lba : U64) (h : lba.toNat ≤ d.lastBlock.toNat) :
    d.blockAddress lba = d.blockStart lba :=
  d.toNat_norBlockAddress lba h

theorem dvd_blockAddress (lba : U64) : d.blockSize.toNat ∣ d.blockAddress lba := by
  rw [blockAddress, norBlockAddress, BitVec.toNat_add, BitVec.toNat_mul,
    d.toNat_setWidth_blockSize, Nat.add_mod_mod]
  refine (Nat.dvd_mod_iff d.dvd_two_pow).mpr ?_
  exact (Nat.dvd_add_right (Nat.dvd_of_mod_eq_zero d.base_aligned)).mpr (Nat.dvd_mul_left _ _)

theorem blockAddress_end_le (lba : U64) : d.blockAddress lba + d.blockSize.toNat ≤ 2 ^ 64 := by
  obtain ⟨q, hq⟩ := d.dvd_blockAddress lba
  obtain ⟨k, hk⟩ := d.dvd_two_pow
  have hlt : d.blockAddress lba < 2 ^ 64 := BitVec.isLt _
  rw [hq, hk, ← Nat.mul_succ]
  rw [hq, hk] at hlt
  exact Nat.mul_le_mul_left _ (Nat.lt_of_mul_lt_mul_left hlt)

theorem toNat_norBlockAddress_add (lba : U64) (offset : Uintn)
    (h : offset.toNat < d.blockSize.toNat) :
    (norBlockAddress d.toNorFlashInstance lba + offset).toNat =
      d.blockAddress lba + offset.toNat := by
  have hend := d.blockAddress_end_le lba
  rw [BitVec.toNat_add, ← blockAddress]
  exact Nat.mod_eq_of_lt (by omega)

theorem blockAddress_mod_line (lba : U64) : d.blockAddress lba % 128 = 0 := by
  have hdvd : 128 ∣ d.blockAddress lba :=
    Nat.dvd_trans (Nat.dvd_trans (by decide) d.dvd_blockSize) (d.dvd_blockAddress lba)
  exact Nat.mod_eq_zero_of_dvd hdvd

theorem div_of_lt_blockSize (lba : U64) (x : Nat) (hx : x < d.blockSize.toNat) :
    (d.blockAddress lba + x) / d.blockSize.toNat = d.blockAddress lba / d.blockSize.toNat := by
  obtain ⟨q, hq⟩ := d.dvd_blockAddress lba
  rw [hq, Nat.mul_add_div d.blockSize_pos, Nat.mul_div_cancel_left _ d.blockSize_pos,
    Nat.div_eq_of_lt hx, Nat.add_zero]

theorem setWidth_blockSize_ne : ¬ d.blockSize.setWidth 64 = 0 := by
  have hpos := d.blockSize_pos
  intro h
  have hnat := congrArg BitVec.toNat h
  rw [d.toNat_setWidth_blockSize] at hnat
  exact absurd hnat (Nat.ne_of_gt hpos)

theorem not_partial_block : ¬ d.blockSize.setWidth 64 % d.blockSize.setWidth 64 ≠ 0 := by
  simp

theorem numBlocks_eq : (d.blockSize.setWidth 64).setWidth 32 / d.blockSize = 1 := by
  have hone : (1 : U32).toNat = 1 := rfl
  apply BitVec.eq_of_toNat_eq
  rw [BitVec.toNat_udiv, BitVec.toNat_setWidth, d.toNat_setWidth_blockSize,
    Nat.mod_eq_of_lt d.blockSize.isLt, Nat.div_self d.blockSize_pos, hone]

theorem not_beyond_lastBlock (lba : U64) (h : lba.toNat ≤ d.lastBlock.toNat) :
    ¬ lba + (1 : U32).setWidth 64 > d.lastBlock + 1 := by
  have hblock := d.block_le_size d.lastBlock (Nat.le_refl _)
  have hsize := d.size.isLt
  have hblocks : d.lastBlock.toNat ≤ d.lastBlock.toNat * d.blockSize.toNat :=
    Nat.le_mul_of_pos_right _ d.blockSize_pos
  have hpos := d.blockSize_pos
  have hone : ((1 : U32).setWidth 64).toNat = 1 := rfl
  have hone64 : (1 : U64).toNat = 1 := rfl
  rw [gt_iff_lt, BitVec.lt_def, BitVec.toNat_add, BitVec.toNat_add, hone, hone64]
  omega

end NorFlashDevice

section Chip

variable (inst : NorFlashInstance)

theorem unlockSingleBlock_eq (a : Uintn) (f : NorFlash) :
    norFlashUnlockSingleBlockIfNecessary inst a f =
      (.ok (), f.unlock (blockNumber inst a)) := by
  unfold norFlashUnlockSingleBlockIfNecessary
  split
  · rfl
  · next h =>
    have hself : f.unlock (blockNumber inst a) = f := by
      rw [NorFlash.unlock, Function.update_eq_self_iff.mpr (by simpa using h)]
    rw [hself]

theorem unlockAndErase_eq (a : Uintn) (f : NorFlash) :
    norFlashUnlockAndEraseSingleBlock inst a f =
      (.ok (), (f.unlock (blockNumber inst a)).erase a.toNat
        inst.blockSize.toNat) := by
  simp [norFlashUnlockAndEraseSingleBlock, NOR_FLASH_ERASE_RETRY, unlockAndEraseLoop,
    unlockSingleBlock_eq, norFlashEraseSingleBlock]

theorem boundary_eq : BOUNDARY_OF_32_WORDS = Align.lowMask 64 7 := rfl

/-- A full line is programmed when it is aligned and its block is unlocked. -/
theorem writeBuffer_line (a : Uintn) (src : Nat → U8) (f : NorFlash)
    (haligned : a.toNat % 128 = 0)
    (hunlocked : f.locked (blockNumber inst a) = false) :
    norFlashWriteBuffer inst a P30_MAX_BUFFER_SIZE_IN_BYTES src f =
      (.ok (), f.program a.toNat 128 src) := by
  have hzero : a &&& BOUNDARY_OF_32_WORDS = 0 := by
    apply BitVec.eq_of_toNat_eq
    rw [boundary_eq, Align.toNat_and_lowMask a 7 (by decide)]
    exact haligned
  unfold norFlashWriteBuffer
  rw [if_neg (not_not_intro hzero), if_neg (by decide), if_neg (by decide),
    if_neg (by decide), hunlocked]
  rfl

theorem writeBuffer_misaligned (a n : Uintn) (src : Nat → U8) (f : NorFlash)
    (h : ¬ a.toNat % 128 = 0) :
    norFlashWriteBuffer inst a n src f = (.error .invalidParameter, f) := by
  rw [norFlashWriteBuffer, if_pos]
  intro hzero
  have hnat := congrArg BitVec.toNat hzero
  rw [boundary_eq, Align.toNat_and_lowMask a 7 (by decide)] at hnat
  exact h hnat

theorem norFlashRead_ok (lba : U64) (offset bytes : Uintn) (buffer b : Nat → U8) (f : NorFlash)
    (hne : bytes ≠ 0) (h : norFlashRead inst lba offset bytes buffer f = .ok b) :
    b = Segment.overlay buffer 0 bytes.toNat
      (fun i => f.bytes ((norBlockAddress inst lba + offset).toNat + i)) := by
  rw [norFlashRead, if_neg hne] at h
  split at h
  · cases h
  · cases h
    rfl

end Chip

section Rewrite

variable (d : NorFlashDevice)

theorem loadCell_eq_allOnes (data : Nat → U8) (a : Nat)
    (h : ~~~ loadCell data a = 0) (j : Nat) (hj : j < 4) :
    data (a + j) = BitVec.allOnes 8 := by
  have hbits (i : Nat) (hi : i < 32) : (loadCell data a).getLsbD i = true := by
    have hbit := congrArg (fun x => BitVec.getLsbD x i) h
    simpa [hi] using hbit
  simp only [loadCell, BitVec.getLsbD_append] at hbits
  apply BitVec.eq_of_getLsbD_eq
  intro i hi
  have hbit := hbits (8 * j + i) (by omega)
  rw [BitVec.getLsbD_allOnes, decide_eq_true hi]
  rcases (by omega : j = 0 ∨ j = 1 ∨ j = 2 ∨ j = 3) with rfl | rfl | rfl | rfl
  all_goals grind

theorem eq_allOnes_of_not_chunkHasData (data : Nat → U8) (h : chunkHasData data = false)
    (i : Nat) (hi : i < 128) : data i = BitVec.allOnes 8 := by
  have hwords : P30_MAX_BUFFER_SIZE_IN_WORDS.toNat = 32 := rfl
  simp only [chunkHasData, hwords, List.any_eq_false, List.mem_range, bne_iff_ne, ne_eq,
    not_not] at h
  have hbyte := loadCell_eq_allOnes data _ (h (i / 4) (by omega)) (i % 4) (by omega)
  rwa [Nat.div_add_mod] at hbyte

/-- The next chunk, on erased bytes: all of it is stored, programmed or not. -/
theorem writeChunk_eq (a : Uintn) (data : Nat → U8) (f : NorFlash)
    (haligned : a.toNat % 128 = 0)
    (hunlocked : f.locked (blockNumber d.toNorFlashInstance a) = false)
    (herased : ∀ i < 128, f.bytes (a.toNat + i) = BitVec.allOnes 8) :
    (if chunkHasData data then
        norFlashWriteBuffer d.toNorFlashInstance a P30_MAX_BUFFER_SIZE_IN_BYTES data f
      else
        (.ok (), f)) =
      (.ok (), { f with bytes := Segment.overlay f.bytes a.toNat 128 data }) := by
  split
  · rw [writeBuffer_line d.toNorFlashInstance a data f haligned hunlocked, NorFlash.program]
    refine congrArg (fun m => (_, { f with bytes := m })) ?_
    apply Segment.overlay_congr
    intro i hi
    rw [herased i hi, BitVec.allOnes_and]
  · next h =>
    rw [Segment.overlay_self]
    intro i hi
    rw [herased i hi]
    exact eq_allOnes_of_not_chunkHasData data (by simpa using h) i hi

theorem writeChunksLoop_eq (chunks : Nat) (a : Uintn) (data : Nat → U8) (f : NorFlash)
    (haligned : a.toNat % 128 = 0) (hend : a.toNat + 128 * chunks ≤ 2 ^ 64)
    (hunlocked : ∀ i < 128 * chunks, f.locked ((a.toNat + i) / d.blockSize.toNat) = false)
    (herased : ∀ i < 128 * chunks, f.bytes (a.toNat + i) = BitVec.allOnes 8) :
    writeChunksLoop d.toNorFlashInstance chunks a data f =
      (.ok (), { f with bytes := Segment.overlay f.bytes a.toNat (128 * chunks) data }) := by
  induction chunks generalizing a data f with
  | zero => rw [writeChunksLoop, Nat.mul_zero, Segment.overlay_zero]
  | succ chunks ih =>
      have hchunk := writeChunk_eq d a data f haligned (hunlocked 0 (by omega))
        (fun i hi => herased i (by omega))
      simp only [writeChunksLoop, hchunk]
      have hbytes : P30_MAX_BUFFER_SIZE_IN_BYTES.toNat = 128 := rfl
      rcases Nat.eq_zero_or_pos chunks with rfl | hchunks
      · rfl
      · have hnext : (a + P30_MAX_BUFFER_SIZE_IN_BYTES).toNat = a.toNat + 128 := by
          rw [BitVec.toNat_add, hbytes]
          exact Nat.mod_eq_of_lt (by omega)
        rw [ih, hnext, hbytes]
        · refine congrArg (fun m => (_, { f with bytes := m })) ?_
          rw [show 128 * (chunks + 1) = 128 + 128 * chunks by omega,
            ← Segment.overlay_append]
          simp only [Nat.add_comm 128]
        · omega
        · omega
        · intro i hi
          rw [hnext, Nat.add_assoc]
          exact hunlocked (128 + i) (by omega)
        · intro i hi
          dsimp only
          rw [hnext, Segment.overlay_outside _ _ _ _ _ (by omega), Nat.add_assoc]
          exact herased (128 + i) (by omega)

theorem writeFullBlock_eq (lba : U64) (data : Nat → U8) (f : NorFlash) :
    ∃ g, norFlashWriteFullBlock d.toNorFlashInstance lba data (d.blockSize / 4) f =
        (.ok (), g) ∧
      g.bytes = Segment.overlay f.bytes (d.blockAddress lba) d.blockSize.toNat data := by
  obtain ⟨m, hm⟩ := d.dvd_blockSize
  have hlt := d.blockSize.isLt
  have hpos := d.blockSize_pos
  have hend := d.blockAddress_end_le lba
  have hline := d.blockAddress_mod_line lba
  have haddress : (norBlockAddress d.toNorFlashInstance lba).toNat = d.blockAddress lba := rfl
  have hfour : (4 : U32).toNat = 4 := rfl
  have hwords : (d.blockSize / 4).toNat = 128 * m := by
    rw [BitVec.toNat_udiv, hfour, hm]
    omega
  have hstart : d.regionBaseAddress + lba * (d.blockSize / 4).setWidth 64 * 4 =
      norBlockAddress d.toNorFlashInstance lba := by
    have hfour64 : (4 : U64).toNat = 4 := rfl
    have hproduct : lba.toNat * d.blockSize.toNat = lba.toNat * (128 * m) * 4 := by
      rw [hm, Nat.mul_assoc]
      congr 1
      omega
    apply BitVec.eq_of_toNat_eq
    rw [norBlockAddress, BitVec.toNat_add, BitVec.toNat_add, BitVec.toNat_mul,
      BitVec.toNat_mul, BitVec.toNat_mul, d.toNat_setWidth_blockSize, BitVec.toNat_setWidth,
      hwords, hfour64, Nat.mod_eq_of_lt (show 128 * m < 2 ^ 64 by omega)]
    omega
  have hzero : norBlockAddress d.toNorFlashInstance lba &&& BOUNDARY_OF_32_WORDS = 0 := by
    apply BitVec.eq_of_toNat_eq
    rw [boundary_eq, Align.toNat_and_lowMask _ 7 (by decide), haddress]
    exact hline
  have hbuffers : ((d.blockSize / 4 * 4).setWidth 64 /
      P30_MAX_BUFFER_SIZE_IN_BYTES).toNat = 4 * m := by
    have hbytes : P30_MAX_BUFFER_SIZE_IN_BYTES.toNat = 128 := rfl
    rw [BitVec.toNat_udiv, hbytes, BitVec.toNat_setWidth, BitVec.toNat_mul, hwords, hfour]
    omega
  have hremaining : (d.blockSize / 4).setWidth 64 % P30_MAX_BUFFER_SIZE_IN_WORDS = 0 := by
    have hchunk : P30_MAX_BUFFER_SIZE_IN_WORDS.toNat = 32 := rfl
    have hzero64 : (0 : U64).toNat = 0 := rfl
    apply BitVec.eq_of_toNat_eq
    rw [BitVec.toNat_umod, hchunk, BitVec.toNat_setWidth, hwords, hzero64]
    omega
  have hsize : 128 * (4 * m) = d.blockSize.toNat := by omega
  simp only [norFlashWriteFullBlock, hstart, unlockAndErase_eq, hzero, ↓reduceIte, hbuffers,
    hremaining, ne_eq, not_true_eq_false]
  rw [writeChunksLoop_eq, hsize, haddress]
  · refine ⟨_, rfl, ?_⟩
    dsimp only
    rw [NorFlash.bytes_erase, NorFlash.bytes_unlock]
    exact Segment.overlay_overlay_of_within _ _ _ _ _ _ _ (Nat.le_refl _) (Nat.le_refl _)
  · rw [haddress]
    exact hline
  · rw [haddress, hsize]
    exact hend
  · intro i hi
    rw [haddress, d.div_of_lt_blockSize lba i (by omega), ← haddress]
    exact Function.update_self ..
  · intro i hi
    rw [haddress, NorFlash.bytes_erase]
    exact Segment.overlay_offset _ _ _ _ i (by omega)

theorem writeBlocks_eq (lba : U64) (data : Nat → U8) (f : NorFlash)
    (h : ¬ lba + (1 : U32).setWidth 64 > d.lastBlock + 1) :
    ∃ g, norFlashWriteBlocks d.toNorFlashInstance lba (d.blockSize.setWidth 64) data f =
        (.ok (), g) ∧
      g.bytes = Segment.overlay f.bytes (d.blockAddress lba) d.blockSize.toNat data := by
  obtain ⟨g, hwrite, hbytes⟩ := writeFullBlock_eq d lba data f
  have hone : (1 : U32).toNat = 1 := rfl
  refine ⟨g, ?_, hbytes⟩
  rw [norFlashWriteBlocks, if_neg d.setWidth_blockSize_ne, if_neg d.not_partial_block,
    d.numBlocks_eq]
  dsimp only
  rw [if_neg h, hone]
  simp only [writeBlocksLoop, hwrite]

theorem readBlocks_eq (lba : U64) (shadow : Nat → U8) (f : NorFlash)
    (h : ¬ lba + (1 : U32).setWidth 64 > d.lastBlock + 1) :
    norFlashReadBlocks d.toNorFlashInstance lba (d.blockSize.setWidth 64) shadow f =
      .ok (Segment.overlay shadow 0 d.blockSize.toNat
        (fun i => f.bytes (d.blockAddress lba + i))) := by
  rw [norFlashReadBlocks, if_neg d.setWidth_blockSize_ne, if_neg d.not_partial_block,
    d.numBlocks_eq]
  dsimp only
  rw [if_neg h, d.toNat_setWidth_blockSize]
  rfl

/-- Rewriting a block that passes the check leaves the old block with the data in
place. -/
theorem eraseAndWrite_eq (lba : U64) (offset numBytes : Uintn) (data : Nat → U8)
    (f : NorFlash) (shadow : Nat → U8) (h : ¬ lba + (1 : U32).setWidth 64 > d.lastBlock + 1)
    (hend : offset.toNat + numBytes.toNat ≤ d.blockSize.toNat) :
    ∃ g shadow', norFlashEraseAndWrite d.toNorFlashInstance lba offset numBytes data f shadow =
        ⟨.ok (), g, shadow'⟩ ∧
      g.bytes =
        Segment.overlay f.bytes (d.blockAddress lba + offset.toNat) numBytes.toNat data := by
  obtain ⟨g, hwrite, hbytes⟩ := writeBlocks_eq d lba
    (Segment.overlay (Segment.overlay shadow 0 d.blockSize.toNat
      (fun i => f.bytes (d.blockAddress lba + i))) offset.toNat numBytes.toNat data) f h
  simp only [norFlashEraseAndWrite, readBlocks_eq d lba shadow f h, hwrite]
  refine ⟨g, _, rfl, ?_⟩
  rw [hbytes, ← Segment.overlay_copy f.bytes (d.blockAddress lba) d.blockSize.toNat _ _ _ hend]
  apply Segment.overlay_congr
  intro i hi
  apply Segment.overlay_eq_of_eq
  rw [Segment.overlay_inside _ _ _ _ _ (by omega) (by omega), Nat.sub_zero]

theorem readBlocks_refused (lba : U64) (shadow : Nat → U8) (f : NorFlash)
    (h : lba + (1 : U32).setWidth 64 > d.lastBlock + 1) :
    norFlashReadBlocks d.toNorFlashInstance lba (d.blockSize.setWidth 64) shadow f =
      .error .invalidParameter := by
  rw [norFlashReadBlocks, if_neg d.setWidth_blockSize_ne, if_neg d.not_partial_block,
    d.numBlocks_eq]
  exact if_pos h

theorem eraseAndWrite_refused (lba : U64) (offset numBytes : Uintn) (data : Nat → U8)
    (f : NorFlash) (shadow : Nat → U8) (h : lba + (1 : U32).setWidth 64 > d.lastBlock + 1) :
    norFlashEraseAndWrite d.toNorFlashInstance lba offset numBytes data f shadow =
      ⟨.error .deviceError, f, shadow⟩ := by
  simp only [norFlashEraseAndWrite, readBlocks_refused d lba shadow f h]

end Rewrite

/-- The status is success, and the flash is the old one with the data in place. -/
def StoresExactly (d : NorFlashDevice) (w : BlockWrite d) (old : NorFlash)
    (run : NorFlashRun) : Prop :=
  run.status = .ok () ∧
    run.flash.bytes =
      Segment.overlay old.bytes (d.blockStart w.lba + w.offset.toNat) w.numBytes.toNat w.data

/-- Erasing and rewriting the block stores the data, whatever the shadow buffer
held. -/
theorem eraseAndWrite_storesExactly (d : NorFlashDevice) (w : BlockWrite d) (f : NorFlash)
    (shadow : Nat → U8) :
    StoresExactly d w f
      (norFlashEraseAndWrite d.toNorFlashInstance w.lba w.offset w.numBytes w.data f shadow) := by
  obtain ⟨g, _, hrun, hbytes⟩ := eraseAndWrite_eq d w.lba w.offset w.numBytes w.data f shadow
    (d.not_beyond_lastBlock w.lba w.lba_le) w.end_le
  rw [hrun, StoresExactly, ← d.blockAddress_eq w.lba w.lba_le]
  exact ⟨rfl, hbytes⟩

end FdtBusPkg
