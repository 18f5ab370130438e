import FdtBusPkg.NorFlash.Initialize

/-!
The headers that the initialisation installs pass its own check, so a second
initialisation finds nothing to do, if and only if they are installed where the check
looks for them.
-/
namespace FdtBusPkg

open LittleEndian (Field)

section Headers

variable (pcds : FlashPcds) (guids : FvGuids) (inst : NorFlashInstance)

theorem calculateSum16_congr (mem mem' : Nat → U8) (a a' length : Nat)
    (h : ∀ i < length, mem (a + i) = mem' (a' + i)) :
    calculateSum16 mem a length = calculateSum16 mem' a' length := by
  rw [calculateSum16, calculateSum16]
  rw [LittleEndian.wordSum_congr mem mem' a a' _ fun i hi => h i (by omega)]

/-- A checksum stored in a clear checksum field makes the words add up to zero. -/
theorem wordSum_checksum (record : Nat → U8) (h : Checksum.get record 0 = 0) :
    BitVec.ofNat 16 (LittleEndian.wordSum (Checksum.set record
      (calculateCheckSum16 record 0 FV_HEADER_LENGTH).toNat) 0 (FV_HEADER_LENGTH / 2)) = 0 := by
  have hstore := LittleEndian.wordSum_store record 36 25
    (calculateCheckSum16 record 0 FV_HEADER_LENGTH).toNat (by decide)
  have hword : LittleEndian.value record (2 * 25) 2 = 0 := h
  have hzero : (0 : BitVec 16).toNat = 0 := rfl
  have hset : Checksum.set record (calculateCheckSum16 record 0 FV_HEADER_LENGTH).toNat =
      LittleEndian.store record (2 * 25) 2
        (calculateCheckSum16 record 0 FV_HEADER_LENGTH).toNat := rfl
  have hwords : FV_HEADER_LENGTH / 2 = 36 := rfl
  rw [hword, Nat.add_zero] at hstore
  apply BitVec.eq_of_toNat_eq
  rw [hset, hwords, hstore, BitVec.toNat_ofNat, calculateCheckSum16, calculateSum16, hwords,
    BitVec.toNat_sub, BitVec.toNat_ofNat, hzero]
  omega

theorem sum_headers :
    calculateSum16 (fvAndVariableStoreHeaders pcds guids inst) 0 FV_HEADER_LENGTH = 0 := by
  rw [calculateSum16, fvAndVariableStoreHeaders]
  simp (disch := decide) only [LittleEndian.wordSum_set_of_le]
  apply wordSum_checksum
  simp (disch := decide) only [Field.get_set_of_apart]
  rfl

theorem get_headers :
    Revision.get (fvAndVariableStoreHeaders pcds guids inst) 0 = EFI_FVH_REVISION ∧
    Signature.get (fvAndVariableStoreHeaders pcds guids inst) 0 = EFI_FVH_SIGNATURE ∧
    FvLength.get (fvAndVariableStoreHeaders pcds guids inst) 0 = (nvStorageSize pcds).toNat ∧
    FileSystemGuid.get (fvAndVariableStoreHeaders pcds guids inst) 0 =
      guids.efiSystemNvDataFv.toNat ∧
    HeaderLength.get (fvAndVariableStoreHeaders pcds guids inst) 0 = FV_HEADER_LENGTH ∧
    (StoreSignature FV_HEADER_LENGTH).get (fvAndVariableStoreHeaders pcds guids inst) 0 =
      guids.efiAuthenticatedVariable.toNat ∧
    (StoreSize FV_HEADER_LENGTH).get (fvAndVariableStoreHeaders pcds guids inst) 0 =
      (pcds.variableSize - BitVec.ofNat 32 FV_HEADER_LENGTH).toNat := by
  have hlength := (nvStorageSize pcds).isLt
  simp (disch := decide) only [fvAndVariableStoreHeaders, Field.get_set_of_apart,
    Field.get_set_self]
  refine ⟨rfl, rfl, Nat.mod_eq_of_lt ?_, Nat.mod_eq_of_lt guids.efiSystemNvDataFv.isLt, rfl,
    Nat.mod_eq_of_lt guids.efiAuthenticatedVariable.isLt, Nat.mod_eq_of_lt (BitVec.isLt _)⟩
  exact Nat.lt_trans hlength (by decide)

theorem validate_headers (f : NorFlash)
    (h : ∀ i < 100, f.bytes (inst.regionBaseAddress.toNat + i) =
      fvAndVariableStoreHeaders pcds guids inst i) :
    validateFvHeader pcds guids inst f = .ok () := by
  obtain ⟨hrevision, hsignature, hlength, hguid, hheader, hstore, hsize⟩ :=
    get_headers pcds guids inst
  have hget (field : Field) (hfield : field.offset + field.bytes ≤ 100) :
      field.get f.bytes inst.regionBaseAddress.toNat =
        field.get (fvAndVariableStoreHeaders pcds guids inst) 0 := by
    apply Field.get_congr
    intro i hi
    rw [Nat.zero_add]
    exact h i (by omega)
  have hsum : calculateSum16 f.bytes inst.regionBaseAddress.toNat FV_HEADER_LENGTH = 0 := by
    refine Eq.trans (calculateSum16_congr _ _ _ 0 _ fun i hi => ?_)
      (sum_headers pcds guids inst)
    rw [Nat.zero_add]
    exact h i (Nat.lt_trans hi (by decide))
  rw [validateFvHeader, hget Revision (by decide), hget Signature (by decide),
    hget FvLength (by decide), hget FileSystemGuid (by decide), hget HeaderLength (by decide),
    hrevision, hsignature, hlength, hguid, hheader]
  simp only [hsum, hget (StoreSignature FV_HEADER_LENGTH) (by decide), hstore,
    hget (StoreSize FV_HEADER_LENGTH) (by decide), hsize]
  simp

theorem validate_congr (f g : NorFlash)
    (h : ∀ i < QEMU_NOR_BLOCK_SIZE.toNat, f.bytes (inst.regionBaseAddress.toNat + i) =
      g.bytes (inst.regionBaseAddress.toNat + i)) :
    validateFvHeader pcds guids inst f = validateFvHeader pcds guids inst g := by
  have hblock : QEMU_NOR_BLOCK_SIZE.toNat = 0x40000 := rfl
  have hget (field : Field) (hfield : field.offset + field.bytes ≤ 0x40000) :
      field.get f.bytes inst.regionBaseAddress.toNat =
        field.get g.bytes inst.regionBaseAddress.toNat := by
    apply Field.get_congr
    intro i hi
    exact h i (by omega)
  have hheader : HeaderLength.get g.bytes inst.regionBaseAddress.toNat < 0x10000 :=
    LittleEndian.value_lt _ _ 2
  rw [validateFvHeader, validateFvHeader, hget Revision (by decide), hget Signature (by decide),
    hget FvLength (by decide), hget FileSystemGuid (by decide), hget HeaderLength (by decide)]
  generalize HeaderLength.get g.bytes inst.regionBaseAddress.toNat = length at hheader
  have hsum := calculateSum16_congr f.bytes g.bytes inst.regionBaseAddress.toNat
    inst.regionBaseAddress.toNat length fun i hi => h i (by omega)
  have hsignature := hget (StoreSignature length) (by dsimp only [StoreSignature]; omega)
  have hsize := hget (StoreSize length) (by dsimp only [StoreSize]; omega)
  simp only [hsum, hsignature, hsize]

theorem validate_erased (f : NorFlash)
    (h : ∀ i < QEMU_NOR_BLOCK_SIZE.toNat,
      f.bytes (inst.regionBaseAddress.toNat + i) = BitVec.allOnes 8) :
    validateFvHeader pcds guids inst f = .error .notFound := by
  have hrevision : Revision.get f.bytes inst.regionBaseAddress.toNat = 0xFF := by
    have hbyte := h 55 (by decide)
    rw [Field.get, Revision]
    dsimp only
    rw [LittleEndian.value, LittleEndian.value, hbyte]
    rfl
  rw [validateFvHeader, hrevision]
  rfl

end Headers

section Install

variable (inst : NorFlashInstance)

/-- First byte of the block that holds the headers. -/
def storeAddress : Nat := (norBlockAddress inst (inst.startLba + 0)).toNat

theorem toNat_norBlockAddress_qemu (hblock : inst.blockSize = QEMU_NOR_BLOCK_SIZE) (lba : U64) :
    (norBlockAddress inst lba).toNat =
      (inst.regionBaseAddress.toNat + lba.toNat * 0x40000) % 2 ^ 64 := by
  have hwidth : (QEMU_NOR_BLOCK_SIZE.setWidth 64).toNat = 0x40000 := rfl
  rw [norBlockAddress, hblock, BitVec.toNat_add, BitVec.toNat_mul, hwidth, Nat.add_mod_mod]

/-- A block on the grid of the region is erased as a whole or not at all. -/
theorem eraseLbaLoop_block (hblock : inst.blockSize = QEMU_NOR_BLOCK_SIZE) (numOfLba : Nat)
    (startingLba : U64) (f : NorFlash) (c : Nat)
    (hgrid : c % 0x40000 = inst.regionBaseAddress.toNat % 0x40000) :
    (∀ i < 0x40000, (eraseLbaLoop inst numOfLba startingLba f).2.bytes (c + i) =
        f.bytes (c + i)) ∨
      ∀ i < 0x40000, (eraseLbaLoop inst numOfLba startingLba f).2.bytes (c + i) =
        BitVec.allOnes 8 := by
  induction numOfLba generalizing startingLba f with
  | zero => exact Or.inl fun _ _ => rfl
  | succ numOfLba ih =>
      have hsize : inst.blockSize.toNat = 0x40000 := by
        rw [hblock]
        rfl
      have haddress := toNat_norBlockAddress_qemu inst hblock (inst.startLba + startingLba)
      rw [eraseLbaLoop, unlockAndErase_eq]
      dsimp only
      rcases ih (startingLba + 1) ((f.unlock _).erase
          (norBlockAddress inst (inst.startLba + startingLba)).toNat inst.blockSize.toNat) with
        hkept | herased
      · by_cases hsame : (norBlockAddress inst (inst.startLba + startingLba)).toNat = c
        · refine Or.inr fun i hi => ?_
          rw [hkept i hi, NorFlash.bytes_erase, hsame]
          exact Segment.overlay_offset _ _ _ _ i (by omega)
        · refine Or.inl fun i hi => ?_
          rw [hkept i hi, NorFlash.bytes_erase, NorFlash.bytes_unlock]
          exact Segment.overlay_outside _ _ _ _ _ (by omega)
      · exact Or.inr herased

theorem eraseLbaLoop_first (hblock : inst.blockSize = QEMU_NOR_BLOCK_SIZE) (numOfLba : Nat)
    (hpos : 0 < numOfLba) (f : NorFlash) (i : Nat) (hi : i < 0x40000) :
    (eraseLbaLoop inst numOfLba 0 f).2.bytes (storeAddress inst + i) = BitVec.allOnes 8 := by
  obtain ⟨n, rfl⟩ := Nat.exists_eq_succ_of_ne_zero (Nat.ne_of_gt hpos)
  have hsize : inst.blockSize.toNat = 0x40000 := by
    rw [hblock]
    rfl
  have haddress := toNat_norBlockAddress_qemu inst hblock (inst.startLba + 0)
  rw [← storeAddress] at haddress
  rw [eraseLbaLoop, unlockAndErase_eq]
  dsimp only
  rcases eraseLbaLoop_block inst hblock n (0 + 1) ((f.unlock _).erase
      (norBlockAddress inst (inst.startLba + 0)).toNat inst.blockSize.toNat)
      (storeAddress inst) (by omega) with hkept | herased
  · rw [hkept i hi, NorFlash.bytes_erase, ← storeAddress]
    exact Segment.overlay_offset _ _ _ _ i (by omega)
  · exact herased i hi

/-- The first line of the volume lies in the region and on the grid of the write buffer. -/
structure FirstLineWritable : Prop where
  inside : (inst.startLba + 0) * inst.blockSize.setWidth 64 + 0 + 128 ≤ inst.size
  aligned : storeAddress inst % 128 = 0

/-- Headers written to an erased line are stored as they are, or refused as a whole. -/
theorem fvbWrite_headers_cases (hblock : inst.blockSize = QEMU_NOR_BLOCK_SIZE)
    (headers : Nat → U8) (f : NorFlash) (shadow : Nat → U8)
    (herased : ∀ i < 128, f.bytes (storeAddress inst + i) = BitVec.allOnes 8) :
    (FirstLineWritable inst ∧
      (fvbWrite inst 0 0 HEADERS_LENGTH headers f shadow).status = .ok () ∧
        (fvbWrite inst 0 0 HEADERS_LENGTH headers f shadow).flash.bytes =
          Segment.overlay f.bytes (storeAddress inst) 100 headers) ∨
    (¬ FirstLineWritable inst ∧
      (fvbWrite inst 0 0 HEADERS_LENGTH headers f shadow).status ≠ .ok () ∧
        (fvbWrite inst 0 0 HEADERS_LENGTH headers f shadow).flash.bytes = f.bytes) := by
  have hsize : inst.blockSize.toNat = 0x40000 := by
    rw [hblock]
    rfl
  have hlength : HEADERS_LENGTH.toNat = 100 := rfl
  have hzero : (0 : Uintn).toNat = 0 := rfl
  have hline : (HEADERS_LENGTH ||| BOUNDARY_OF_32_WORDS) + 1 = 128 := by decide
  have hbase : (0 : Uintn) &&& ~~~ BOUNDARY_OF_32_WORDS = 0 := by decide
  have haddress : norBlockAddress inst (inst.startLba + 0) + 0 =
      norBlockAddress inst (inst.startLba + 0) := BitVec.add_zero _
  have hrun := writeSingleBlock_eq inst (inst.startLba + 0) 0 HEADERS_LENGTH headers f shadow
    (by decide) (by omega)
  rw [if_pos (by decide), hline, hbase, hzero, Nat.zero_mod, hlength] at hrun
  rw [fvbWrite, hrun]
  by_cases hinside : (inst.startLba + 0) * inst.blockSize.setWidth 64 + 0 + 128 > inst.size
  · have hread : norFlashRead inst (inst.startLba + 0) 0 128 shadow f =
        .error .invalidParameter := by
      rw [norFlashRead, if_neg (by decide), if_pos hinside]
    rw [hread]
    refine .inr ⟨fun h => absurd h.inside (BitVec.not_le.mpr hinside), fun h => ?_, rfl⟩
    cases h
  · cases hread : norFlashRead inst (inst.startLba + 0) 0 128 shadow f with
    | error e =>
        rw [norFlashRead, if_neg (by decide), if_neg hinside] at hread
        cases hread
    | ok buffer =>
        have hones (i : Nat) (hi : i < 128) : buffer i = BitVec.allOnes 8 := by
          rw [norFlashRead_ok inst _ 0 128 shadow buffer f (by decide) hread, haddress,
            Segment.overlay_inside _ _ _ _ i (Nat.zero_le i) (by
              rw [show (128 : Uintn).toNat = 128 from rfl]
              omega), Nat.sub_zero]
          exact herased i hi
        have hloop := updateShadowLoop_clears 0 headers 100 0 buffer (by
          intro i hi
          rw [hones _ (by omega)]
          simp)
        simp only [Nat.add_zero, Nat.zero_add] at hloop
        dsimp only
        rw [hloop]
        dsimp only
        rw [norFlashProgramLines, unlockSingleBlock_eq, hbase, haddress]
        dsimp only
        by_cases haligned : (norBlockAddress inst (inst.startLba + 0)).toNat % 128 = 0
        · rw [writeBuffer_line inst _ _ _ haligned (Function.update_self ..)]
          dsimp only
          rw [if_neg (by decide)]
          refine .inl ⟨⟨BitVec.not_lt.mp hinside, haligned⟩, rfl, ?_⟩
          have hcopy := Segment.overlay_copy f.bytes (storeAddress inst) 128 0 100 headers
            (by decide)
          rw [Nat.add_zero] at hcopy
          rw [NorFlash.bytes_program, NorFlash.bytes_unlock, ← storeAddress, ← hcopy]
          apply Segment.overlay_congr
          intro i hi
          rw [herased i hi, BitVec.allOnes_and]
          apply Segment.overlay_eq_of_eq
          rw [hones i hi, herased i hi]
        · rw [writeBuffer_misaligned inst _ _ _ _ haligned]
          refine .inr ⟨fun h => absurd h.aligned haligned, fun h => ?_, rfl⟩
          cases h

end Install

section Outcome

variable (pcds : FlashPcds) (guids : FvGuids) (inst : NorFlashInstance)

/-- The configuration that `InitializeFvAndVariableStoreHeaders` accepts: the variable, the
working and the spare area follow each other, start on a block and have one. -/
structure StoreConfigured (blockSize : U32) : Prop where
  working : nvStorageBase pcds.variableBase64 pcds.variableBase + pcds.variableSize.setWidth 64 =
    nvStorageBase pcds.ftwWorkingBase64 pcds.ftwWorkingBase
  spare : nvStorageBase pcds.ftwWorkingBase64 pcds.ftwWorkingBase +
    pcds.ftwWorkingSize.setWidth 64 = nvStorageBase pcds.ftwSpareBase64 pcds.ftwSpareBase
  variable_blocks : pcds.variableSize ≠ 0 ∧ pcds.variableSize / blockSize ≠ 0
  working_blocks : pcds.ftwWorkingSize ≠ 0 ∧ pcds.ftwWorkingSize / blockSize ≠ 0
  spare_blocks : pcds.ftwSpareSize ≠ 0 ∧ pcds.ftwSpareSize / blockSize ≠ 0
  aligned : nvStorageBase pcds.variableBase64 pcds.variableBase % blockSize.setWidth 64 = 0 ∧
    nvStorageBase pcds.ftwWorkingBase64 pcds.ftwWorkingBase % blockSize.setWidth 64 = 0 ∧
    nvStorageBase pcds.ftwSpareBase64 pcds.ftwSpareBase % blockSize.setWidth 64 = 0

theorem not_blockless {size blockSize : U32} (h : size ≠ 0 ∧ size / blockSize ≠ 0) :
    ¬ (decide (size = 0) || decide (size / blockSize = 0)) = true := by
  rw [Bool.or_eq_true, decide_eq_true_eq, decide_eq_true_eq, not_or]
  exact h

/-- What comes of the installation of the headers: it is refused, with the record of the headers
left in the pool if there was room for it; it uses a null pointer; or they are written. -/
inductive HeadersInstalled (allocated : Bool) (f : NorFlash) (shadow : Nat → U8) :
    Option FvbInitRun → Prop
  | refused (h : ¬ StoreConfigured pcds inst.blockSize) :
      HeadersInstalled allocated f shadow
        (some ⟨.error .invalidParameter, f, [], headersAllocation allocated⟩)
  | nullUsed (h : StoreConfigured pcds inst.blockSize) (hallocated : allocated = false) :
      HeadersInstalled allocated f shadow none
  | written (h : StoreConfigured pcds inst.blockSize) (hallocated : allocated = true)
      (run : NorFlashRun) (hrun : run = fvbWrite inst 0 0 HEADERS_LENGTH
        (fvAndVariableStoreHeaders pcds guids inst) f shadow) :
      HeadersInstalled allocated f shadow (some ⟨run.status, run.flash,
        [.write 0 0 HEADERS_LENGTH (fvAndVariableStoreHeaders pcds guids inst)],
        [.allocate .headers, .free .headers]⟩)

theorem initializeHeaders_installed (allocated : Bool) (f : NorFlash) (shadow : Nat → U8) :
    HeadersInstalled pcds guids inst allocated f shadow
      (initializeFvAndVariableStoreHeaders pcds guids inst allocated f shadow) := by
  rw [initializeFvAndVariableStoreHeaders]
  dsimp only
  split_ifs with h1 h2 h3 h4 h5 h6 h7
  · exact .refused fun h => h1 h.working
  · exact .refused fun h => h2 h.spare
  · exact .refused fun h => not_blockless h.variable_blocks h3
  · exact .refused fun h => not_blockless h.working_blocks h4
  · exact .refused fun h => not_blockless h.spare_blocks h5
  · refine .refused fun h => ?_
    simp [h.aligned] at h6
  all_goals
    simp only [Bool.or_eq_true, decide_eq_true_eq, not_or, not_not, ne_eq] at h1 h2 h3 h4 h5 h6
    have hconfigured : StoreConfigured pcds inst.blockSize :=
      ⟨h1, h2, h3, h4, h5, ⟨h6.1.1, h6.1.2, h6.2⟩⟩
  · exact .nullUsed hconfigured (by simpa using h7)
  · have hallocated : allocated = true := by simpa using h7
    rw [hallocated]
    exact .written hconfigured rfl _ rfl

def storageBlocks : List (U64 × Uintn) :=
  [(0, (nvStorageSize pcds / inst.blockSize).setWidth 64)]

/-- The blocks of the storage can be erased. -/
def StorageErasable : Prop := eraseListCheck inst (storageBlocks pcds inst) = .ok ()

/-- Erasing the storage erases its blocks, of which there is one at least. -/
theorem fvbEraseBlocks_storage (h : StorageErasable pcds inst) (f : NorFlash) :
    ∃ numOfLba, 0 < numOfLba ∧ fvbEraseBlocks inst (storageBlocks pcds inst) f =
      (.ok (), (eraseLbaLoop inst numOfLba 0 f).2) := by
  rw [StorageErasable, storageBlocks] at h
  rw [storageBlocks]
  generalize (nvStorageSize pcds / inst.blockSize).setWidth 64 = numOfLba at h ⊢
  refine ⟨(numOfLba : Uintn).toNat, ?_, ?_⟩
  · rw [eraseListCheck, if_neg (by decide)] at h
    split at h
    · cases h
    · next hvalid =>
        refine Nat.pos_of_ne_zero fun hzero => hvalid ?_
        rw [show numOfLba = 0 from BitVec.eq_of_toNat_eq hzero]
        rfl
  · have herase := eraseLbaLoop_succeeds inst numOfLba.toNat 0 f
    rw [fvbEraseBlocks, h]
    dsimp only
    rw [eraseListLoop, if_neg (by decide)]
    rcases hloop : eraseLbaLoop inst numOfLba.toNat 0 f with ⟨status, g⟩
    rw [hloop] at herase
    subst herase
    rfl

/-- The initialisation goes on to erase the storage and install the headers. -/
def InstallsHeaders (bootMode : U32) (f : NorFlash) : Prop :=
  (bootMode = BOOT_WITH_DEFAULT_SETTINGS ∨ validateFvHeader pcds guids inst f ≠ .ok ()) ∧
    StorageErasable pcds inst

/-- What comes of the initialisation: there is nothing to do; the storage cannot be erased; or it
is, and what follows is up to the installation of the headers. -/
inductive Initialised (bootMode : U32) (allocated : Bool) (installed : EfiStatus) (f : NorFlash)
    (shadow : Nat → U8) : Option FvbInitRun → Prop
  | valid (hmode : bootMode ≠ BOOT_WITH_DEFAULT_SETTINGS)
      (h : validateFvHeader pcds guids inst f = .ok ()) :
      Initialised bootMode allocated installed f shadow (some ⟨installed, f, [], []⟩)
  | refused (e : EfiError) (h : ¬ StorageErasable pcds inst) :
      Initialised bootMode allocated installed f shadow
        (some ⟨.error e, f, [.eraseBlocks (storageBlocks pcds inst)], []⟩)
  | erased (h : InstallsHeaders pcds guids inst bootMode f) (g : NorFlash)
      (herase : fvbEraseBlocks inst (storageBlocks pcds inst) f = (.ok (), g))
      (headers : Option FvbInitRun)
      (hheaders : HeadersInstalled pcds guids inst allocated g shadow headers) :
      Initialised bootMode allocated installed f shadow
        (headers.map (·.finish installed (storageBlocks pcds inst)))

theorem norFlashFvbInitialize_initialised (bootMode : U32) (allocated : Bool)
    (installed : EfiStatus) (f : NorFlash) (shadow : Nat → U8) :
    Initialised pcds guids inst bootMode allocated installed f shadow
      (norFlashFvbInitialize pcds guids inst bootMode allocated installed f shadow) := by
  rw [norFlashFvbInitialize]
  dsimp only
  split
  · next hvalid =>
    by_cases hmode : bootMode = BOOT_WITH_DEFAULT_SETTINGS
    · rw [if_pos hmode] at hvalid
      cases hvalid
    · rw [if_neg hmode] at hvalid
      exact .valid hmode hvalid
  · next e hneeded =>
    have hinstalls : bootMode = BOOT_WITH_DEFAULT_SETTINGS ∨
        validateFvHeader pcds guids inst f ≠ .ok () := by
      refine or_iff_not_imp_left.mpr fun hmode hvalid => ?_
      rw [if_neg hmode, hvalid] at hneeded
      cases hneeded
    rw [← storageBlocks]
    by_cases herasable : StorageErasable pcds inst
    · obtain ⟨numOfLba, hpos, herase⟩ := fvbEraseBlocks_storage pcds inst herasable f
      rw [herase]
      exact .erased ⟨hinstalls, herasable⟩ _ herase _
        (initializeHeaders_installed pcds guids inst allocated _ shadow)
    · rw [fvbEraseBlocks]
      cases hcheck : eraseListCheck inst (storageBlocks pcds inst) with
      | error e' => exact .refused e' herasable
      | ok u => exact absurd hcheck herasable

end Outcome

section Once

variable (pcds : FlashPcds) (guids : FvGuids)

/-- A region that `DriverStart` makes a child for. -/
structure FlashRegion where
  regBase : Uintn
  length : U128
  outside : outsidePrimaryFv pcds regBase length = true
  contains : containVariableStorage pcds regBase length = true

def FlashRegion.instance_ (r : FlashRegion pcds) : NorFlashInstance :=
  fvbInstance pcds r.regBase (r.length.setWidth 64) QEMU_NOR_BLOCK_SIZE

/-- The check succeeds, and the next boot leaves the flash alone. -/
structure InitialisedFor (inst : NorFlashInstance) (g : NorFlash) : Prop where
  valid : validateFvHeader pcds guids inst g = .ok ()
  idle : ∀ bootMode ≠ BOOT_WITH_DEFAULT_SETTINGS, ∀ allocated installed shadow, ∃ run,
    norFlashFvbInitialize pcds guids inst bootMode allocated installed g shadow = some run ∧
      run.calls = [] ∧ run.flash = g

theorem initialize_valid (inst : NorFlashInstance) (bootMode : U32) (allocated : Bool)
    (installed : EfiStatus) (g : NorFlash) (shadow : Nat → U8)
    (hmode : bootMode ≠ BOOT_WITH_DEFAULT_SETTINGS)
    (h : validateFvHeader pcds guids inst g = .ok ()) :
    norFlashFvbInitialize pcds guids inst bootMode allocated installed g shadow =
      some ⟨installed, g, [], []⟩ := by
  rw [norFlashFvbInitialize, if_neg hmode, h]

theorem initialisedFor_iff (inst : NorFlashInstance) (g : NorFlash) :
    InitialisedFor pcds guids inst g ↔ validateFvHeader pcds guids inst g = .ok () := by
  refine ⟨fun h => h.valid, fun h => ⟨h, fun bootMode hmode allocated installed shadow => ?_⟩⟩
  exact ⟨_, initialize_valid pcds guids inst bootMode allocated installed g shadow hmode h, rfl,
    rfl⟩

theorem initialize_installs (inst : NorFlashInstance)
    (hblock : inst.blockSize = QEMU_NOR_BLOCK_SIZE) {bootMode : U32} {allocated : Bool}
    {installed : EfiStatus} {f : NorFlash} {shadow : Nat → U8} {run : FvbInitRun}
    (hinvalid : validateFvHeader pcds guids inst f ≠ .ok ())
    (hrun : norFlashFvbInitialize pcds guids inst bootMode allocated installed f shadow = some run)
    (hok : run.status = .ok ()) :
    ∃ numOfLba, 0 < numOfLba ∧ run.flash.bytes =
      Segment.overlay (eraseLbaLoop inst numOfLba 0 f).2.bytes (storeAddress inst) 100
        (fvAndVariableStoreHeaders pcds guids inst) := by
  have hcases := norFlashFvbInitialize_initialised pcds guids inst bootMode allocated installed f
    shadow
  rw [hrun] at hcases
  generalize hresult : some run = result at hcases
  cases hcases with
  | valid hmode hvalid => exact absurd hvalid hinvalid
  | refused e h =>
      cases hresult
      cases hok
  | erased h g herase headers hheaders =>
      obtain ⟨numOfLba, hpos, hsame⟩ := fvbEraseBlocks_storage pcds inst h.2 f
      obtain rfl := (Prod.mk.inj (herase.symm.trans hsame)).2
      refine ⟨numOfLba, hpos, ?_⟩
      cases hheaders with
      | refused h =>
          cases hresult
          cases hok
      | nullUsed h hallocated => cases hresult
      | written h hallocated written hwritten =>
          cases hresult
          rw [hwritten] at hok ⊢
          obtain ⟨-, -, hstored⟩ | ⟨-, hrefused, -⟩ := fvbWrite_headers_cases inst hblock
            (fvAndVariableStoreHeaders pcds guids inst) (eraseLbaLoop inst numOfLba 0 f).2 shadow
            fun i hi => eraseLbaLoop_first inst hblock numOfLba hpos f i (by omega)
          · exact hstored
          · simp only [FvbInitRun.finish] at hok
            split at hok
            · cases hok
            · next hstatus => exact absurd hstatus hrefused

theorem storeAddress_cases (regionBase size : Uintn) :
    let inst := fvbInstance pcds regionBase size QEMU_NOR_BLOCK_SIZE
    (inst.startLba = 0 → storeAddress inst = regionBase.toNat) ∧
      (inst.startLba ≠ 0 → ∀ i < 0x40000, regionBase.toNat + i < storeAddress inst ∨
        storeAddress inst + 100 ≤ regionBase.toNat + i) := by
  intro inst
  have hzero : (0 : U64).toNat = 0 := rfl
  have hbase := regionBase.isLt
  have hstart : inst.startLba.toNat < 2 ^ 46 := by
    have hdiv : inst.startLba.toNat =
        (nvStorageBase pcds.variableBase64 pcds.variableBase - regionBase).toNat / 0x40000 :=
      BitVec.toNat_udiv
    have hlt := (nvStorageBase pcds.variableBase64 pcds.variableBase - regionBase).isLt
    omega
  have haddress : storeAddress inst =
      (regionBase.toNat + (inst.startLba + 0).toNat * 0x40000) % 2 ^ 64 :=
    toNat_norBlockAddress_qemu inst rfl _
  have hadd : inst.startLba + 0 = inst.startLba := BitVec.add_zero _
  rw [hadd] at haddress
  refine ⟨fun h => ?_, fun h i hi => ?_⟩
  · rw [haddress, h, hzero]
    omega
  · have hne : inst.startLba.toNat ≠ 0 := fun hnat => h (BitVec.eq_of_toNat_eq hnat)
    omega

end Once

/-- After an initialisation that succeeded, the check succeeds and the next boot leaves
the flash alone if and only if the volume starts the region, or there was nothing to
install. -/
theorem initialize_idempotent_iff (pcds : FlashPcds) (guids : FvGuids)
    (region : FlashRegion pcds) (bootMode : U32) (allocated : Bool) (installed : EfiStatus)
    (f : NorFlash) (shadow : Nat → U8) (hmode : bootMode ≠ BOOT_WITH_DEFAULT_SETTINGS)
    (run : FvbInitRun) (hrun : norFlashFvbInitialize pcds guids region.instance_ bootMode
      allocated installed f shadow = some run) (hok : run.status = .ok ()) :
    InitialisedFor pcds guids region.instance_ run.flash ↔
      region.instance_.startLba = 0 ∨
        validateFvHeader pcds guids region.instance_ f = .ok () := by
  rw [initialisedFor_iff]
  cases hvalid : validateFvHeader pcds guids region.instance_ f with
  | ok u =>
      have hsame := hrun.symm.trans (initialize_valid pcds guids region.instance_ bootMode allocated
        installed f shadow hmode hvalid)
      rw [Option.some.inj hsame, hvalid]
      exact iff_of_true rfl (Or.inr rfl)
  | error e =>
      obtain ⟨numOfLba, hpos, hbytes⟩ := initialize_installs pcds guids region.instance_ rfl
        (by simp [hvalid]) hrun hok
      obtain ⟨hsame, hmisses⟩ := storeAddress_cases pcds region.regBase
        (region.length.setWidth 64)
      have hblock := eraseLbaLoop_block region.instance_ rfl numOfLba 0 f
        region.regBase.toNat rfl
      rw [or_iff_left (by simp)]
      constructor
      · intro h
        by_contra hstart
        have hout (i : Nat) (hi : i < 0x40000) := Segment.overlay_outside
          (eraseLbaLoop region.instance_ numOfLba 0 f).2.bytes (storeAddress region.instance_) 100
          (fvAndVariableStoreHeaders pcds guids region.instance_) (region.regBase.toNat + i)
          (hmisses hstart i hi)
        rcases hblock with hkept | herased
        · rw [validate_congr pcds guids region.instance_ _ f fun i hi => by
            rw [hbytes]
            exact (hout i hi).trans (hkept i hi), hvalid] at h
          cases h
        · rw [validate_erased pcds guids region.instance_ _ fun i hi => by
            rw [hbytes]
            exact (hout i hi).trans (herased i hi)] at h
          cases h
      · intro hstart
        apply validate_headers
        intro i hi
        have haddress : storeAddress region.instance_ = region.instance_.regionBaseAddress.toNat :=
          hsame hstart
        rw [hbytes, ← haddress]
        exact Segment.overlay_offset _ _ _ _ i hi

/-- A store of three blocks at `0x4040000`. -/
def threeBlockPcds : FlashPcds where
  ovmfFdBaseAddress := 0
  ovmfFirmwareFdSize := 0
  variableBase := 0x4040000
  variableBase64 := 0
  variableSize := 0x40000
  ftwWorkingBase := 0x4080000
  ftwWorkingBase64 := 0
  ftwWorkingSize := 0x40000
  ftwSpareBase := 0x40C0000
  ftwSpareBase64 := 0
  ftwSpareSize := 0x40000

def edk2Guids : FvGuids where
  efiSystemNvDataFv := 0x504F5B07472785A94C8B7696FFF12B8D
  efiVariable := 0x7DFE7F7085FEB69841643275DDCF3616
  efiAuthenticatedVariable := 0x9277C34E142E80A1439A947BAAF32C78

def storeRegion : FlashRegion threeBlockPcds where
  regBase := 0x4040000
  length := 0xC0000
  outside := by decide
  contains := by decide

theorem initialize_idempotent_storeRegion : ∃ run,
    norFlashFvbInitialize threeBlockPcds edk2Guids storeRegion.instance_ 0 true (.ok ())
        erasedFlash (fun _ => 0) = some run ∧
      InitialisedFor threeBlockPcds edk2Guids storeRegion.instance_ run.flash := by
  have hstatus : (norFlashFvbInitialize threeBlockPcds edk2Guids storeRegion.instance_ 0 true
      (.ok ()) erasedFlash (fun _ => 0)).map (·.status) = some (.ok ()) := by decide +kernel
  obtain ⟨run, hrun, hok⟩ := Option.map_eq_some_iff.mp hstatus
  exact ⟨run, hrun, (initialize_idempotent_iff threeBlockPcds edk2Guids storeRegion 0 true (.ok ())
    erasedFlash (fun _ => 0) (by decide) run hrun hok).mpr (Or.inl (by decide))⟩

/-- One more block stands before the store. -/
def fourBlockRegion : FlashRegion threeBlockPcds where
  regBase := 0x4000000
  length := 0x100000
  outside := by decide
  contains := by decide

/-- The headers are installed in the second block, and missed in the first. -/
theorem fourBlockRegion_not_initialised : ∃ run,
    norFlashFvbInitialize threeBlockPcds edk2Guids fourBlockRegion.instance_ 0 true (.ok ())
        erasedFlash (fun _ => 0) = some run ∧
      run.status = .ok () ∧
        ¬ InitialisedFor threeBlockPcds edk2Guids fourBlockRegion.instance_ run.flash := by
  have hboot : (norFlashFvbInitialize threeBlockPcds edk2Guids fourBlockRegion.instance_ 0 true
      (.ok ()) erasedFlash (fun _ => 0)).map (fun run => (run.status,
        validateFvHeader threeBlockPcds edk2Guids fourBlockRegion.instance_ run.flash)) =
          some (.ok (), .error .notFound) := by decide +kernel
  obtain ⟨run, hrun, hboot⟩ := Option.map_eq_some_iff.mp hboot
  rw [Prod.mk.injEq] at hboot
  exact ⟨run, hrun, hboot.1, fun h => nomatch h.valid.symm.trans hboot.2⟩

end FdtBusPkg
