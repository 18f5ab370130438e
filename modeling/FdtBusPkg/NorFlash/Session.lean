import FdtBusPkg.NorFlash.Views
import FdtBusPkg.Library.Session

/-!
Whole sessions with the firmware volume block protocol. To its callers the volume is an
array of bytes in blocks: a read returns bytes of it, a write replaces some, an erasure
sets blocks to ones. The driver keeps two more things, a shadow buffer that is left over
from call to call and the rest of the region; no answer shows either.
-/
namespace FdtBusPkg

structure FvbState where
  flash : NorFlash
  shadow : Nat → U8

/-- What the callers see of a volume, besides its bytes. -/
structure VolumeShape where
  blocks : Nat
  blockSize : Nat

namespace FvbCall

/-- A call with its answer: for a read, what the caller finds in its buffer. -/
def step (v : FvbVolume) (buffer : Nat → U8) :
    FvbCall → FvbState → EfiResult (List U8) × FvbState
  | .read lba offset numBytes, s =>
    ((fvbRead v.toNorFlashInstance lba offset numBytes buffer s.flash).map
      (fun b => (List.range numBytes.toNat).map b), s)
  | .write lba offset numBytes data, s =>
    let written := fvbWrite v.toNorFlashInstance lba offset numBytes data s.flash s.shadow
    (written.status.map (fun _ => []), ⟨written.flash, written.shadow⟩)
  | .eraseBlocks args, s =>
    let erased := fvbEraseBlocks v.toNorFlashInstance args s.flash
    (erased.1.map (fun _ => []), ⟨erased.2, s.shadow⟩)

def fits (shape : VolumeShape) (offset numBytes : Uintn) : Bool :=
  numBytes.toNat ≠ 0 && offset.toNat + numBytes.toNat ≤ shape.blockSize

def place (shape : VolumeShape) (lba : U64) (offset : Uintn) : Nat :=
  lba.toNat * shape.blockSize + offset.toNat

/-- The volume with the blocks of a pair erased. -/
def erasePair (shape : VolumeShape) (contents : Nat → U8) (p : U64 × Uintn) : Nat → U8 :=
  Segment.overlay contents (p.1.toNat * shape.blockSize) (p.2.toNat * shape.blockSize)
    (fun _ => BitVec.allOnes 8)

/-- What a call means: its answer and the contents it leaves. -/
def meaning (shape : VolumeShape) :
    FvbCall → (Nat → U8) → EfiResult (List U8) × (Nat → U8)
  | .read lba offset numBytes, contents =>
    if !fits shape offset numBytes then
      (.error .badBufferSize, contents)
    else if shape.blocks ≤ lba.toNat then
      (.error .deviceError, contents)
    else
      (.ok ((List.range numBytes.toNat).map
        (fun i => contents (place shape lba offset + i))), contents)
  | .write lba offset numBytes data, contents =>
    if !fits shape offset numBytes then
      (.error .badBufferSize, contents)
    else if shape.blocks ≤ lba.toNat then
      (.error .deviceError, contents)
    else
      (.ok [], Segment.overlay contents (place shape lba offset) numBytes.toNat data)
  | .eraseBlocks args, contents =>
    if (listed args).all
        (fun p => p.2.toNat ≠ 0 && p.1.toNat + p.2.toNat ≤ shape.blocks) then
      (.ok [], (listed args).foldl (erasePair shape) contents)
    else
      (.error .invalidParameter, contents)

/-- The call is sound, and if it writes to a block of the volume it stores its data
there: no short write over a stale line, no whole lines at the end of the region. -/
def Kept (v : FvbVolume) (c : FvbCall) (s : FvbState) : Prop :=
  c.Sound v ∧ ∀ w : BlockWrite v.toNorFlashDevice,
    c = .write (w.lba - v.startLba) w.offset w.numBytes w.data → w.Sound s.flash s.shadow

end FvbCall

/-- Away from the end of the region and within its lines, a write is kept whatever the
shadow buffer holds. -/
theorem FvbCall.kept_of_plain (v : FvbVolume) (c : FvbCall) (hsound : c.Sound v)
    (hplain : ∀ w : BlockWrite v.toNorFlashDevice,
      c = .write (w.lba - v.startLba) w.offset w.numBytes w.data →
        ¬ w.EndsRegion ∧ ¬ w.Straddles) (s : FvbState) : c.Kept v s :=
  ⟨hsound, fun w hw => ⟨(hplain w hw).1, fun h => absurd h (hplain w hw).2⟩⟩

namespace FvbVolume

variable (v : FvbVolume)

def shape : VolumeShape where
  blocks := v.lastBlock.toNat + 1 - v.startLba.toNat
  blockSize := v.blockSize.toNat

def volumeBytes : Nat := v.shape.blocks * v.blockSize.toNat

def contents (f : NorFlash) (i : Nat) : U8 := f.bytes (v.storageVariableBase.toNat + i)

/-- The volume has these contents, and the rest of the region is as it was. -/
def Holds (old : NorFlash) (s : FvbState) (contents : Nat → U8) : Prop :=
  s.flash.bytes =
    Segment.overlay old.bytes v.storageVariableBase.toNat v.volumeBytes contents

theorem hasBlock_iff (lba : U64) : v.HasBlock lba ↔ ¬ v.shape.blocks ≤ lba.toNat := by
  have hstart := v.startLba_le
  rw [shape, HasBlock]
  dsimp only
  omega

theorem fits_iff (offset numBytes : Uintn) :
    (!FvbCall.fits v.shape offset numBytes) = true ↔ FvbCall.BadSize v offset numBytes := by
  have hsize : v.shape.blockSize = v.blockSize.toNat := rfl
  rw [FvbCall.fits, FvbCall.BadSize, hsize]
  simp only [ne_eq, Bool.not_eq_true', Bool.and_eq_false_iff, decide_eq_false_iff_not,
    not_not, Nat.not_le]

theorem blockAddress_add_startLba (lba : U64) (offset : Uintn) (h : v.HasBlock lba) :
    v.blockAddress (v.startLba + lba) + offset.toNat =
      v.storageVariableBase.toNat + FvbCall.place v.shape lba offset := by
  have hsize : v.shape.blockSize = v.blockSize.toNat := rfl
  rw [v.blockAddress_eq _ (v.add_startLba_le lba h), v.store_eq, NorFlashDevice.blockStart,
    NorFlashDevice.blockStart, v.toNat_add_startLba lba h, Nat.add_mul, FvbCall.place, hsize]
  omega

theorem blocks_le_volumeBytes (first count : Nat) (h : first + count ≤ v.shape.blocks) :
    first * v.blockSize.toNat + count * v.blockSize.toNat ≤ v.volumeBytes := by
  rw [← Nat.add_mul]
  exact Nat.mul_le_mul_right _ h

theorem place_le_volumeBytes (lba : U64) (offset : Uintn) (n : Nat) (h : v.HasBlock lba)
    (hend : offset.toNat + n ≤ v.blockSize.toNat) :
    FvbCall.place v.shape lba offset + n ≤ v.volumeBytes := by
  have hblock := v.blocks_le_volumeBytes lba.toNat 1
    (Nat.lt_of_not_le ((v.hasBlock_iff lba).mp h))
  rw [FvbCall.place, show v.shape.blockSize = v.blockSize.toNat from rfl]
  omega

theorem validPair_iff (p : U64 × Uintn) :
    FvbCall.ValidPair v p ↔ p.2.toNat ≠ 0 ∧ p.1.toNat + p.2.toNat ≤ v.shape.blocks := by
  have hstart := v.startLba_le
  rw [FvbCall.ValidPair, shape]
  dsimp only
  omega

end FvbVolume

section Step

variable (v : FvbVolume) (old : NorFlash)

open FvbCall FvbVolume

def Matches (buffer : Nat → U8) (c : FvbCall) (s : FvbState) (contents : Nat → U8) : Prop :=
  (c.step v buffer s).1 = (c.meaning v.shape contents).1 ∧
    v.Holds old (c.step v buffer s).2 (c.meaning v.shape contents).2

theorem read_matches (buffer : Nat → U8) (lba : U64) (offset numBytes : Uintn) (s : FvbState)
    (contents : Nat → U8) (h : v.Holds old s contents)
    (hsound : (FvbCall.read lba offset numBytes).Sound v) :
    Matches v old buffer (.read lba offset numBytes) s contents := by
  rw [Matches, step, meaning]
  by_cases hbad : BadSize v offset numBytes
  · rw [if_pos ((v.fits_iff offset numBytes).mpr hbad),
      fvbRead_badSize v lba offset numBytes buffer s.flash hbad]
    exact ⟨rfl, h⟩
  have hsize := hbad
  rw [BadSize, not_or, Nat.not_lt] at hsize
  have hread := fvbRead_eq v lba offset numBytes buffer s.flash
    (Nat.pos_of_ne_zero hsize.1) hsize.2
  rw [if_neg (fun hfit => hbad ((v.fits_iff offset numBytes).mp hfit))]
  by_cases hblock : v.shape.blocks ≤ lba.toNat
  · have hnone : ¬ v.HasBlock lba := fun hhas => (v.hasBlock_iff lba).mp hhas hblock
    rcases hsound with hhas | hbad' | hrefused
    · exact absurd hhas hnone
    · exact absurd hbad' hbad
    · rw [if_pos hblock, hread.1 hrefused]
      exact ⟨rfl, h⟩
  · have hhas := (v.hasBlock_iff lba).mpr hblock
    have hrefused := not_readRefused v lba offset numBytes (v.add_startLba_le lba hhas) hsize.2
    have hplace := v.place_le_volumeBytes lba offset numBytes.toNat hhas hsize.2
    rw [if_neg hblock, hread.2 hrefused]
    refine ⟨congrArg Except.ok (List.map_congr_left fun i hi => ?_), h⟩
    have hi : i < numBytes.toNat := List.mem_range.mp hi
    rw [Segment.overlay_inside _ _ _ _ i (Nat.zero_le i) (by omega), Nat.sub_zero, h,
      v.blockAddress_add_startLba lba offset hhas, Nat.add_assoc]
    exact Segment.overlay_offset _ _ _ _ _ (by omega)

theorem write_matches (buffer : Nat → U8) (lba : U64) (offset numBytes : Uintn)
    (data : Nat → U8) (s : FvbState) (contents : Nat → U8) (h : v.Holds old s contents)
    (hkept : (FvbCall.write lba offset numBytes data).Kept v s) :
    Matches v old buffer (.write lba offset numBytes data) s contents := by
  rw [Matches, step, meaning]
  dsimp only
  by_cases hbad : BadSize v offset numBytes
  · rw [if_pos ((v.fits_iff offset numBytes).mpr hbad),
      fvbWrite_badSize v lba offset numBytes data s.flash s.shadow hbad]
    exact ⟨rfl, h⟩
  have hsize := hbad
  rw [BadSize, not_or, Nat.not_lt] at hsize
  have hpos := Nat.pos_of_ne_zero hsize.1
  rw [if_neg (fun hfit => hbad ((v.fits_iff offset numBytes).mp hfit))]
  by_cases hblock : v.shape.blocks ≤ lba.toNat
  · have hnone : ¬ v.HasBlock lba := fun hhas => (v.hasBlock_iff lba).mp hhas hblock
    rcases hkept.1 with hhas | hbad' | hrefused
    · exact absurd hhas hnone
    · exact absurd hbad' hbad
    · rw [if_pos hblock, fvbWrite_refused v lba offset numBytes data s.flash s.shadow hpos
        hsize.2 hrefused]
      exact ⟨rfl, h⟩
  · have hhas := (v.hasBlock_iff lba).mpr hblock
    have hplace := v.place_le_volumeBytes lba offset numBytes.toNat hhas hsize.2
    let w : BlockWrite v.toNorFlashDevice :=
      { lba := v.startLba + lba, offset, numBytes, data,
        lba_le := v.add_startLba_le lba hhas, numBytes_pos := hpos, end_le := hsize.2 }
    have hlba : w.lba - v.startLba = lba := by
      rw [show w.lba = v.startLba + lba from rfl, BitVec.add_comm, BitVec.add_sub_cancel]
    have hsound : w.Sound s.flash s.shadow := hkept.2 w (by rw [hlba])
    obtain ⟨hstatus, hbytes⟩ :=
      (writeSingleBlock_stores_iff w s.flash s.shadow).mpr hsound
    rw [if_neg hblock]
    refine ⟨?_, ?_⟩
    · exact congrArg (Except.map fun _ => []) hstatus
    · refine hbytes.trans ?_
      rw [← v.blockAddress_eq w.lba w.lba_le, v.blockAddress_add_startLba lba offset hhas, h]
      exact Segment.overlay_overlay_inside _ _ _ _ _ _ _ hplace

/-- Erasing the listed pairs, one after the other, erases them in the contents. -/
theorem eraseListLoop_holds (args : List (U64 × Uintn)) (s : FvbState) (contents : Nat → U8)
    (h : v.Holds old s contents) (hvalid : ∀ p ∈ listed args, ValidPair v p) :
    v.Holds old ⟨(eraseListLoop v.toNorFlashInstance args s.flash).2, s.shadow⟩
      ((listed args).foldl (erasePair v.shape) contents) := by
  induction args generalizing s contents with
  | nil => exact h
  | cons p args ih =>
      rcases p with ⟨startingLba, numOfLba⟩
      rw [listed_cons] at hvalid ⊢
      rw [eraseListLoop]
      split
      · exact h
      · next hterminator =>
        rw [if_neg hterminator] at hvalid
        have hpair := hvalid _ List.mem_cons_self
        have hrun := eraseLbaLoop_succeeds v.toNorFlashInstance numOfLba.toNat startingLba s.flash
        have hbytes := eraseLbaLoop_bytes v numOfLba.toNat startingLba s.flash hpair.2
        have hroom := v.blocks_le_volumeBytes startingLba.toNat numOfLba.toNat
          ((v.validPair_iff _).mp hpair).2
        rcases herase : eraseLbaLoop v.toNorFlashInstance numOfLba.toNat startingLba s.flash with
          ⟨status, g⟩
        rw [herase] at hrun hbytes
        subst hrun
        refine ih ⟨g, s.shadow⟩ _ ?_ fun q hq => hvalid q (List.mem_cons_of_mem _ hq)
        refine hbytes.trans ?_
        rw [h]
        exact Segment.overlay_overlay_inside _ _ _ _ _ _ _ hroom

theorem eraseBlocks_matches (buffer : Nat → U8) (args : List (U64 × Uintn)) (s : FvbState)
    (contents : Nat → U8) (h : v.Holds old s contents)
    (hsound : (FvbCall.eraseBlocks args).Sound v) :
    Matches v old buffer (.eraseBlocks args) s contents := by
  have hcheck := eraseListCheck_eq v args
  have hall : (listed args).all
      (fun p => p.2.toNat ≠ 0 && p.1.toNat + p.2.toNat ≤ v.shape.blocks) = true ↔
        ∀ p ∈ listed args, ValidPair v p := by
    simp [v.validPair_iff]
  rw [Matches, step, meaning, fvbEraseBlocks]
  by_cases hvalid : ∀ p ∈ listed args, ValidPair v p
  · have hpassed := hcheck.2 fun p hp hrefused => ?_
    · rw [if_pos (hall.mpr hvalid), hpassed]
      refine ⟨?_, eraseListLoop_holds v old args s contents h hvalid⟩
      exact congrArg (Except.map fun _ => [])
        (eraseListLoop_succeeds v.toNorFlashInstance args s.flash)
    · obtain ⟨hpos, hend⟩ := hvalid p hp
      have hlast := v.lastBlock.isLt
      rw [PairRefused] at hrefused
      omega
  · rw [if_neg (fun h => hvalid (hall.mp h)), hcheck.1 (hsound.resolve_left hvalid)]
    exact ⟨rfl, h⟩

theorem step_matches (buffer : Nat → U8) (c : FvbCall) (s : FvbState)
    (contents : Nat → U8) (h : v.Holds old s contents) (hkept : c.Kept v s) :
    Matches v old buffer c s contents := by
  cases c with
  | read lba offset numBytes =>
      exact read_matches v old buffer lba offset numBytes s contents h hkept.1
  | write lba offset numBytes data =>
      exact write_matches v old buffer lba offset numBytes data s contents h hkept
  | eraseBlocks args => exact eraseBlocks_matches v old buffer args s contents h hkept.1

end Step

/-- A session whose calls are kept gives the answers of the volume alone, leaves the
contents the calls mean, and changes no other byte of the flash. -/
theorem fvbSession_refines (v : FvbVolume) (buffer : Nat → U8) (calls : List FvbCall)
    (s : FvbState)
    (h : Session.Along (FvbCall.step v buffer) (FvbCall.Kept v) calls s) :
    (Session.run (FvbCall.step v buffer) calls s).1 =
        (Session.run (FvbCall.meaning v.shape) calls (v.contents s.flash)).1 ∧
      (Session.run (FvbCall.step v buffer) calls s).2.flash.bytes =
        Segment.overlay s.flash.bytes v.storageVariableBase.toNat v.volumeBytes
          (Session.run (FvbCall.meaning v.shape) calls (v.contents s.flash)).2 := by
  refine Session.refines (v.Holds s.flash) (step_matches v s.flash buffer) calls s _ h ?_
  exact (Segment.overlay_self _ _ _ _ fun i _ => rfl).symm

/-- Zeros written, read back, and looked for in a block that does not exist. -/
def zerosSession : List FvbCall :=
  [.write 0 8 2 (fun _ => 0), .read 0 6 4, .read 1 0 4, .eraseBlocks [(0, 1)], .read 0 8 2]

theorem zerosSession_refines :
    (Session.run (FvbCall.step lastBlockVolume fun _ => 0) zerosSession
        ⟨erasedFlash, fun _ => 0⟩).1 =
      [.ok [], .ok [0xFF, 0xFF, 0, 0], .error .deviceError, .ok [], .ok [0xFF, 0xFF]] := by
  have hfirst : lastBlockVolume.HasBlock 0 := by
    unfold FvbVolume.HasBlock
    decide
  have hpair : ∀ p ∈ FvbCall.listed [(0, 1)], FvbCall.ValidPair lastBlockVolume p := by
    intro p hp
    obtain rfl := List.mem_singleton.mp (List.takeWhile_subset _ hp)
    exact ⟨Nat.zero_lt_one, Nat.le_refl 256⟩
  refine (fvbSession_refines lastBlockVolume (fun _ => 0) zerosSession
    ⟨erasedFlash, fun _ => 0⟩ ?_).1.trans rfl
  refine Session.along_of_forall _ _ _ _ fun c hc s => ?_
  refine FvbCall.kept_of_plain _ _ ?_ (fun w hw => ?_) s
  · simp only [zerosSession, List.mem_cons, List.not_mem_nil, or_false] at hc
    rcases hc with rfl | rfl | rfl | rfl | rfl
    · exact Or.inl hfirst
    · exact Or.inl hfirst
    · exact Or.inr (Or.inr (by rw [FvbCall.ReadRefused, if_neg (by decide)]; decide))
    · exact Or.inl hpair
    · exact Or.inl hfirst
  · simp only [zerosSession, List.mem_cons, List.not_mem_nil, or_false] at hc
    subst hw
    simp only [FvbCall.write.injEq, reduceCtorEq, or_false] at hc
    obtain ⟨-, hoffset, hbytes, -⟩ := hc
    rw [BlockWrite.EndsRegion, BlockWrite.Straddles, BlockWrite.lineOffset, hoffset, hbytes]
    exact ⟨fun h => absurd h.2.1 (by decide), fun h => absurd h.2 (by decide)⟩

end FdtBusPkg
