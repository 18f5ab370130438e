import FdtBusPkg.NorFlash.Containment

/-!
The views of the volume: the block counts of `GetBlockSize`, the blocks the other calls
accept, and the address that `GetPhysicalAddress` reports. Bytes are where the address
says they are, but the counts leave out the blocks of the region before the volume.
-/
namespace FdtBusPkg

namespace FvbVolume

variable (v : FvbVolume)

def Accepts (lba : U64) : Prop :=
  (∀ offset numBytes : Uintn, 0 < numBytes.toNat →
      offset.toNat + numBytes.toNat ≤ v.blockSize.toNat →
        ∀ buffer f, ∃ b, fvbRead v.toNorFlashInstance lba offset numBytes buffer f = .ok b) ∧
    ∀ f, (fvbEraseBlocks v.toNorFlashInstance [(lba, 1)] f).1 = .ok ()

/-- `GetBlockSize` counts the blocks from `lba` on that the other calls accept. -/
def CountsAccepted (lba : U64) : Prop :=
  ∀ n : Uintn, fvbGetBlockSize v.fvb lba = .ok (v.blockSize.setWidth 64, n) ↔
    0 < n.toNat ∧ ∀ b : U64, lba.toNat ≤ b.toNat →
      (v.Accepts b ↔ b.toNat < lba.toNat + n.toNat)

/-- Address of a byte of the volume, by the base that `GetPhysicalAddress` reports. -/
def byteAddress (address : Uintn) (lba : U64) (offset : Uintn) : Uintn :=
  address + lba * v.blockSize.setWidth 64 + offset

/-- A read returns the bytes from that address on, and a write stores its first byte
there; a write of one byte changes no other. -/
structure PlacesBytes (lba : U64) (offset : Uintn) : Prop where
  reads : ∀ address, fvbGetPhysicalAddress v.fvb = .ok address → ∀ numBytes buffer f b,
    fvbRead v.toNorFlashInstance lba offset numBytes buffer f = .ok b →
      ∀ i < numBytes.toNat, b i = f.bytes ((v.byteAddress address lba offset).toNat + i)
  writes : ∀ address, fvbGetPhysicalAddress v.fvb = .ok address →
    ∀ numBytes data f shadow,
      (fvbWrite v.toNorFlashInstance lba offset numBytes data f shadow).status = .ok () →
        (fvbWrite v.toNorFlashInstance lba offset numBytes data f shadow).flash.bytes
            (v.byteAddress address lba offset).toNat = data 0 ∧
          (numBytes = 1 → ∀ a ≠ (v.byteAddress address lba offset).toNat,
            (fvbWrite v.toNorFlashInstance lba offset numBytes data f shadow).flash.bytes a =
              f.bytes a)

structure ViewsAgree (lba : U64) (offset : Uintn) : Prop where
  counts : v.CountsAccepted lba
  places : v.PlacesBytes lba offset

end FvbVolume

section Accepted

variable (v : FvbVolume)

theorem FvbVolume.size_add_block_le : v.size.toNat + v.blockSize.toNat ≤ 2 ^ 64 := by
  obtain ⟨k, hk⟩ := v.dvd_two_pow
  have hsize := v.size.isLt
  rw [v.size_eq, Nat.mul_comm] at hsize ⊢
  rw [hk] at hsize
  rw [← Nat.mul_succ, hk]
  exact Nat.mul_le_mul_left _ (Nat.lt_of_mul_lt_mul_left hsize)

theorem FvbVolume.lastBlock_lt : v.lastBlock.toNat < 2 ^ 55 := by
  have hle := Nat.le_of_dvd v.blockSize_pos v.dvd_blockSize
  have hblocks := Nat.mul_le_mul_left v.lastBlock.toNat hle
  have hblock := v.block_le_size v.lastBlock (Nat.le_refl _)
  have hsize := v.size.isLt
  omega

theorem accepts_iff (lba : U64) :
    v.Accepts lba ↔ (v.startLba + lba).toNat ≤ v.lastBlock.toNat := by
  have hnat := BitVec.toNat_add v.startLba lba
  have hpos := v.blockSize_pos
  have hwidth := v.toNat_setWidth_blockSize
  have hone : (1 : Uintn).toNat = 1 := rfl
  have hzero : (0 : Uintn).toNat = 0 := rfl
  constructor
  · intro h
    have hread (numBytes : Uintn) (hbytes : 0 < numBytes.toNat)
        (hend : numBytes.toNat ≤ v.blockSize.toNat) :
        ¬ FvbCall.ReadRefused v lba 0 numBytes := by
      intro hrefused
      have hinside : (0 : Uintn).toNat + numBytes.toNat ≤ v.blockSize.toNat := by
        rw [hzero, Nat.zero_add]
        exact hend
      obtain ⟨b, hok⟩ := h.1 0 numBytes hbytes hinside (fun _ => 0) erasedFlash
      rw [(fvbRead_eq v lba 0 numBytes _ _ hbytes hinside).1 hrefused] at hok
      cases hok
    by_contra hout
    have hwhole := hread (v.blockSize.setWidth 64) (by omega) (by omega)
    rw [FvbCall.ReadRefused, if_pos hwidth] at hwhole
    have htop : (v.startLba + lba).toNat = 2 ^ 64 - 1 := by omega
    obtain ⟨m, hm⟩ := v.dvd_blockSize
    have hroom := v.size_add_block_le
    have hbyte := hread 1 (by decide) hpos
    have hrequest := v.toNat_end lba 0 1
    rw [BitVec.toNat_add, BitVec.toNat_add, BitVec.toNat_mul, hwidth, htop] at hrequest
    rw [FvbCall.ReadRefused, if_neg (by omega), ← hrequest] at hbyte
    omega
  · intro h
    refine ⟨fun offset numBytes hbytes hend buffer f => ?_, fun f => ?_⟩
    · have hread := not_readRefused v lba offset numBytes h hend
      exact ⟨_, (fvbRead_eq v lba offset numBytes buffer f hbytes hend).2 hread⟩
    · have hcheck := eraseListCheck_eq v [(lba, 1)]
      rw [fvbEraseBlocks, hcheck.2 ?_]
      · exact eraseListLoop_succeeds v.toNorFlashInstance _ f
      · intro p hp
        rw [listed_cons] at hp
        split at hp
        · cases hp
        · rcases List.mem_singleton.mp hp with rfl
          rw [FvbCall.PairRefused, hone]
          dsimp only
          omega

theorem fvbGetBlockSize_iff (lba : U64) (n : Uintn) :
    fvbGetBlockSize v.fvb lba = .ok (v.blockSize.setWidth 64, n) ↔
      lba.toNat ≤ v.lastBlock.toNat ∧ n.toNat = v.lastBlock.toNat - lba.toNat + 1 := by
  have hlast := v.lastBlock_lt
  have hone : (1 : U64).toNat = 1 := rfl
  rw [fvbGetBlockSize]
  split
  · next h =>
    have hlt : v.lastBlock.toNat < lba.toNat := h
    simp
    omega
  · next h =>
    have hle : lba.toNat ≤ v.lastBlock.toNat := Nat.le_of_not_lt h
    have hcount : (v.lastBlock - lba + 1).toNat = v.lastBlock.toNat - lba.toNat + 1 := by
      rw [BitVec.toNat_add, BitVec.toNat_sub_of_le hle, hone]
      exact Nat.mod_eq_of_lt (by omega)
    rw [and_iff_right hle, ← hcount, Except.ok.injEq, Prod.mk.injEq, eq_comm (a := n.toNat),
      BitVec.toNat_inj]
    exact and_iff_right rfl

theorem countsAccepted_iff (lba : U64) :
    v.CountsAccepted lba ↔
      v.startLba = 0 ∨
        (v.lastBlock.toNat < lba.toNat ∧ v.startLba.toNat + lba.toNat < 2 ^ 64) := by
  have hstart := v.startLba_le
  have hlast := v.lastBlock_lt
  have hzero : v.startLba = 0 ↔ v.startLba.toNat = 0 := by
    rw [← BitVec.toNat_inj]
    exact Iff.rfl
  rw [FvbVolume.CountsAccepted, hzero]
  simp only [fvbGetBlockSize_iff, accepts_iff, BitVec.toNat_add]
  constructor
  · intro h
    by_contra hout
    rw [not_or, not_and_or, Nat.not_lt, Nat.not_lt] at hout
    obtain ⟨hne, hle | hwraps⟩ := hout
    · have hcount := (h (BitVec.ofNat 64 (v.lastBlock.toNat - lba.toNat + 1))).mp
        ⟨hle, by rw [BitVec.toNat_ofNat]; omega⟩
      have hlastBlock := hcount.2 v.lastBlock hle
      rw [BitVec.toNat_ofNat] at hlastBlock
      omega
    · have hcount := (h (BitVec.ofNat 64 (2 ^ 64 - lba.toNat))).mpr ?_
      · rw [BitVec.toNat_ofNat] at hcount
        omega
      · rw [BitVec.toNat_ofNat]
        refine ⟨by omega, fun b hb => ?_⟩
        have hlt := b.isLt
        omega
  · intro h n
    constructor
    · rintro ⟨hle, hcount⟩
      refine ⟨by omega, fun b hb => ?_⟩
      have hlt := b.isLt
      omega
    · rintro ⟨hcount, hall⟩
      have hfirst := hall lba (Nat.le_refl _)
      have hlastBlock := hall v.lastBlock
      have hnext := hall (v.lastBlock + 1)
      rw [show (v.lastBlock + 1).toNat = v.lastBlock.toNat + 1 from by
        rw [BitVec.toNat_add, show (1 : U64).toNat = 1 from rfl]
        omega] at hnext
      have hlt := lba.isLt
      omega

end Accepted

section Places

theorem eraseAndWrite_places (d : NorFlashDevice) (lba : U64) (offset numBytes : Uintn)
    (data : Nat → U8) (f : NorFlash) (buffer : Nat → U8) (hpos : 0 < numBytes.toNat)
    (hend : offset.toNat + numBytes.toNat ≤ d.blockSize.toNat)
    (hok : (norFlashEraseAndWrite d.toNorFlashInstance lba offset numBytes data f
      buffer).status = .ok ()) :
    (norFlashEraseAndWrite d.toNorFlashInstance lba offset numBytes data f
        buffer).flash.bytes (d.blockAddress lba + offset.toNat) = data 0 ∧
      (numBytes.toNat = 1 → ∀ a ≠ d.blockAddress lba + offset.toNat,
        (norFlashEraseAndWrite d.toNorFlashInstance lba offset numBytes data f
          buffer).flash.bytes a = f.bytes a) := by
  by_cases hcheck : lba + (1 : U32).setWidth 64 > d.lastBlock + 1
  · rw [eraseAndWrite_refused d lba offset numBytes data f buffer hcheck] at hok
    cases hok
  · obtain ⟨g, _, hrun, hbytes⟩ :=
      eraseAndWrite_eq d lba offset numBytes data f buffer hcheck hend
    rw [hrun, hbytes]
    refine ⟨Segment.overlay_offset _ _ _ _ 0 hpos, fun hone a ha => ?_⟩
    exact Segment.overlay_outside _ _ _ _ a (by omega)

/-- Lines of which the first is programmed with its own contents, apart from `n` bytes
that only clear bits, hold the first of these. A single byte changes no other. -/
theorem programmed_places (bytes buffer data : Nat → U8) (line start n : Nat) (hpos : 0 < n)
    (hstart : start < 128) (hold : ∀ i < 128, buffer i = bytes (line + i))
    (hclears : ~~~ buffer start &&& data 0 = 0) :
    Segment.overlay bytes line (if 128 < n + start then 256 else 128)
        (fun i => bytes (line + i) &&& Segment.overlay buffer start n data i)
        (line + start) = data 0 ∧
      (n = 1 → ∀ a ≠ line + start,
        Segment.overlay bytes line (if 128 < n + start then 256 else 128)
          (fun i => bytes (line + i) &&& Segment.overlay buffer start n data i) a =
            bytes a) := by
  constructor
  · rw [hold start hstart] at hclears
    rw [Segment.overlay_offset _ _ _ _ _ (by split <;> omega),
      Segment.overlay_inside _ _ _ _ _ (Nat.le_refl _) (by omega), Nat.sub_self]
    exact (and_eq_right_iff _ _).mpr hclears
  · intro hone a ha
    rw [hone, if_neg (by omega)]
    by_cases hin : line ≤ a ∧ a < line + 128
    · obtain ⟨j, rfl⟩ := Nat.exists_eq_add_of_le hin.1
      rw [Segment.overlay_offset _ _ _ _ j (by omega),
        Segment.overlay_outside _ _ _ _ j (by omega), hold j (by omega), BitVec.and_self]
    · exact Segment.overlay_outside _ _ _ _ a (by omega)

/-- A write that succeeds stores its first byte at the address of its block, and a
write of one byte changes no other, at any block number. -/
theorem writeSingleBlock_places (d : NorFlashDevice) (lba : U64) (offset numBytes : Uintn)
    (data : Nat → U8) (f : NorFlash) (shadow : Nat → U8) (hpos : 0 < numBytes.toNat)
    (hend : offset.toNat + numBytes.toNat ≤ d.blockSize.toNat)
    (hok : (norFlashWriteSingleBlock d.toNorFlashInstance lba offset numBytes data f
      shadow).status = .ok ()) :
    (norFlashWriteSingleBlock d.toNorFlashInstance lba offset numBytes data f
        shadow).flash.bytes (d.blockAddress lba + offset.toNat) = data 0 ∧
      (numBytes.toNat = 1 → ∀ a ≠ d.blockAddress lba + offset.toNat,
        (norFlashWriteSingleBlock d.toNorFlashInstance lba offset numBytes data f
          shadow).flash.bytes a = f.bytes a) := by
  have hlt := d.blockSize.isLt
  have hbase := toNat_lineBase offset
  have hlines := toNat_readBack numBytes (by omega)
  have hne : (numBytes ||| BOUNDARY_OF_32_WORDS) + 1 ≠ 0 := by
    intro h
    have hnat := congrArg BitVec.toNat h
    have hzero : (0 : U64).toNat = 0 := rfl
    omega
  rw [writeSingleBlock_eq d.toNorFlashInstance lba offset numBytes data f shadow hpos hend] at hok ⊢
  split at hok
  · next hbuffered =>
    rw [if_pos hbuffered]
    cases hread : norFlashRead d.toNorFlashInstance lba (offset &&& ~~~ BOUNDARY_OF_32_WORDS)
        ((numBytes ||| BOUNDARY_OF_32_WORDS) + 1) shadow f with
    | error e =>
        rw [hread] at hok
        cases hok
    | ok buffer =>
        rw [hread] at hok
        dsimp only at hok ⊢
        by_cases hclears : ∀ i < numBytes.toNat,
            ~~~ buffer (offset.toNat % 128 + i) &&& data i = 0
        · have hloop := updateShadowLoop_clears (offset.toNat % 128) data numBytes.toNat 0 buffer
            (by simpa using hclears)
          simp only [Nat.add_zero, Nat.zero_add] at hloop
          obtain ⟨g, hrun, hbytes⟩ := programLines_at d lba offset numBytes f
            (Segment.overlay buffer (offset.toNat % 128) numBytes.toNat data) hpos hend hbuffered
          have hold (i : Nat) (hi : i < 128) : buffer i =
              f.bytes (d.blockAddress lba + (offset.toNat - offset.toNat % 128) + i) := by
            rw [norFlashRead_ok _ lba _ _ shadow buffer f hne hread,
              d.toNat_norBlockAddress_add lba _ (by omega), hbase,
              Segment.overlay_inside _ _ _ _ i (Nat.zero_le i) (by omega), Nat.sub_zero]
          have hfirst : d.blockAddress lba + offset.toNat = d.blockAddress lba +
              (offset.toNat - offset.toNat % 128) + offset.toNat % 128 := by
            omega
          rw [hloop]
          dsimp only
          rw [hrun, hbytes, hfirst]
          exact programmed_places f.bytes buffer data _ _ _ hpos (Nat.mod_lt _ (by decide)) hold
            (hclears 0 hpos)
        · push Not at hclears
          obtain ⟨i, hi, hsets⟩ := hclears
          have hloop := updateShadowLoop_sets (offset.toNat % 128) data numBytes.toNat 0 buffer i
            hi (by simpa using hsets)
          rcases hrun : updateShadowLoop (offset.toNat % 128) data numBytes.toNat 0 buffer with
            ⟨dirty, clears⟩
          rw [hrun] at hloop hok
          subst hloop
          exact eraseAndWrite_places d lba offset numBytes data f dirty hpos hend hok
  · next hlong =>
    rw [if_neg hlong]
    exact eraseAndWrite_places d lba offset numBytes data f shadow hpos hend hok

variable (v : FvbVolume)

theorem toNat_byteAddress (lba : U64) (offset : Uintn) (h : offset.toNat < v.blockSize.toNat) :
    (v.byteAddress v.storageVariableBase lba offset).toNat =
      v.blockAddress (v.startLba + lba) + offset.toNat := by
  have hstore : v.storageVariableBase = norBlockAddress v.toNorFlashInstance v.startLba := by
    apply BitVec.eq_of_toNat_eq
    rw [v.store_eq, v.toNat_norBlockAddress _ v.startLba_le]
  have hblock : v.storageVariableBase + lba * v.blockSize.setWidth 64 =
      norBlockAddress v.toNorFlashInstance (v.startLba + lba) := by
    rw [hstore, norBlockAddress, norBlockAddress, BitVec.add_mul, BitVec.add_assoc]
  rw [FvbVolume.byteAddress, hblock]
  exact v.toNat_norBlockAddress_add _ offset h

theorem placesBytes (lba : U64) (offset : Uintn) : v.PlacesBytes lba offset := by
  constructor
  · intro address haddress numBytes buffer f b hread i hi
    cases haddress
    by_cases hbad : FvbCall.BadSize v offset numBytes
    · rw [fvbRead_badSize v lba offset numBytes buffer f hbad] at hread
      cases hread
    rw [FvbCall.BadSize, not_or, Nat.not_lt] at hbad
    have hrun := fvbRead_eq v lba offset numBytes buffer f (Nat.pos_of_ne_zero hbad.1) hbad.2
    by_cases hrefused : FvbCall.ReadRefused v lba offset numBytes
    · rw [hrun.1 hrefused] at hread
      cases hread
    rw [hrun.2 hrefused] at hread
    cases hread
    have haddress : (v.byteAddress v.fvb.storageVariableBase lba offset).toNat =
        v.blockAddress (v.startLba + lba) + offset.toNat :=
      toNat_byteAddress v lba offset (by omega)
    rw [haddress, Segment.overlay_inside _ _ _ _ i (Nat.zero_le i) (by omega), Nat.sub_zero]
  · intro address haddress numBytes data f shadow hok
    cases haddress
    by_cases hbad : FvbCall.BadSize v offset numBytes
    · rw [fvbWrite_badSize v lba offset numBytes data f shadow hbad] at hok
      cases hok
    rw [FvbCall.BadSize, not_or, Nat.not_lt] at hbad
    have hpos := Nat.pos_of_ne_zero hbad.1
    have haddress : (v.byteAddress v.fvb.storageVariableBase lba offset).toNat =
        v.blockAddress (v.startLba + lba) + offset.toNat :=
      toNat_byteAddress v lba offset (by omega)
    obtain ⟨hstored, hothers⟩ := writeSingleBlock_places v.toNorFlashDevice (v.startLba + lba)
      offset numBytes data f shadow hpos hbad.2 hok
    rw [haddress]
    exact ⟨hstored, fun hone => hothers (congrArg BitVec.toNat hone)⟩

end Places

/-- The views of a volume agree on a block if and only if the volume starts the region,
or the block is past the last one and no count is given. -/
theorem viewsAgree_iff (v : FvbVolume) (lba : U64) (offset : Uintn) :
    v.ViewsAgree lba offset ↔
      v.startLba = 0 ∨
        (v.lastBlock.toNat < lba.toNat ∧ v.startLba.toNat + lba.toNat < 2 ^ 64) := by
  rw [← countsAccepted_iff v lba]
  exact ⟨fun h => h.counts, fun h => ⟨h, placesBytes v lba offset⟩⟩

def lastBlockVolume : FvbVolume where
  regionBaseAddress := 0x4000000
  size := 0x4000000
  startLba := 255
  lastBlock := 255
  blockSize := 0x40000
  blockBits := 18
  blockSize_eq := wholeRegionVolume.blockSize_eq
  nine_le_blockBits := wholeRegionVolume.nine_le_blockBits
  base_aligned := wholeRegionVolume.base_aligned
  size_eq := wholeRegionVolume.size_eq
  region_le := wholeRegionVolume.region_le
  storageVariableBase := 0x7FC0000
  region_le_store := by decide
  store_lt := by decide
  store_aligned := rfl
  startLba_eq := by decide

/-- `GetBlockSize` promises 256 blocks where the other calls accept one. -/
theorem lastBlockVolume_counts_too_many : ¬ lastBlockVolume.ViewsAgree 0 0 := by
  intro h
  have hcount := (h.counts 256).mp (by decide)
  have hsecond := (hcount.2 1 (by decide)).mpr (by decide)
  obtain ⟨b, hread⟩ := hsecond.1 0 1 (by decide) (by decide) (fun _ => 0) erasedFlash
  have hrefused : fvbRead lastBlockVolume.toNorFlashInstance 1 0 1 (fun _ => 0) erasedFlash =
      .error .deviceError := rfl
  rw [hrefused] at hread
  cases hread

end FdtBusPkg
