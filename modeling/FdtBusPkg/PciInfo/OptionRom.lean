import FdtBusPkg.Base
import FdtBusPkg.Library.LittleEndian
import FdtBusPkg.Library.LoggedLoop

/-!
The listing of the images in an option ROM. The listing follows the headers that the data
of the ROM leads to; it ends, and stays inside the ROM, exactly when no header on the way is
cut off by the end of the ROM and every image that is not the last one has a length.
-/
namespace FdtBusPkg

open LittleEndian (Field)

/-- The ROM of a PCI device, at `romImage` in memory. -/
structure OptionRom where
  mem : Nat → U8
  romImage : Nat
  romSize : U64

/-- What `ParseImage` prints of a UEFI image besides the line that every image has. -/
structure EfiImageListing where
  subsystem : Nat
  initializationSize : Nat
  efiImageHeaderOffset : Nat
  compressed : Bool
  supported : Bool
  deriving DecidableEq, Repr

/-- The types that `ParseImage` tells apart. -/
inductive ImageType
  | uefi
  | bios
  | openFirmware
  | hpPaRisc
  | unknown
  deriving DecidableEq, Repr

/-- What `ParseImage` prints; `code` is the machine type of a UEFI image and the code type of
any other one. -/
structure ImageListing where
  romOffset : Nat
  type : ImageType
  code : Nat
  length : Nat
  efi : Option EfiImageListing
  deriving DecidableEq, Repr

/-- The variables of the loop of `ParseImages`, and what it has printed. -/
structure ImageWalk where
  romHeader : Nat
  indicator : U8
  printed : List ImageListing
  deriving DecidableEq, Repr

namespace PciExpansionRomHeader

def Signature : Field := ⟨0, 2⟩
def PcirOffset : Field := ⟨0x18, 2⟩

end PciExpansionRomHeader

namespace EfiPciExpansionRomHeader

def InitializationSize : Field := ⟨2, 2⟩
def EfiSubsystem : Field := ⟨8, 2⟩
def EfiMachineType : Field := ⟨10, 2⟩
def CompressionType : Field := ⟨12, 2⟩
def EfiImageHeaderOffset : Field := ⟨22, 2⟩

end EfiPciExpansionRomHeader

namespace EfiLegacyExpansionRomHeader

def Size512 : Field := ⟨2, 1⟩

end EfiLegacyExpansionRomHeader

namespace PciDataStructure

def Signature : Field := ⟨0, 4⟩
def ImageLength : Field := ⟨16, 2⟩
def CodeType : Field := ⟨20, 1⟩
def Indicator : Field := ⟨21, 1⟩

end PciDataStructure

def PCI_EXPANSION_ROM_HEADER_SIGNATURE : Nat := 0xaa55
def PCI_DATA_STRUCTURE_SIGNATURE : Nat := 0x52494350
def PCI_CODE_TYPE_PCAT_IMAGE : Nat := 0
def PCI_CODE_TYPE_EFI_IMAGE : Nat := 3

/-- `sizeof (PCI_DATA_STRUCTURE)`. -/
def PCI_DATA_STRUCTURE_LENGTH : Nat := 24

namespace OptionRom

variable (rom : OptionRom)

def limit : Nat := rom.romImage + rom.romSize.toNat

def span : Span := ⟨rom.romImage, rom.romSize.toNat⟩

/-- Load a field of a record, and note which bytes were read. -/
def read (base : Nat) (field : Field) : Logged Span Nat :=
  Logged.record (field.get rom.mem base) ⟨base + field.offset, field.bytes⟩

/-- The condition of the `do ... while`. -/
def whileTest (s : ImageWalk) : Loop.Step ImageWalk (List ImageListing) :=
  if s.romHeader < rom.limit ∧ s.indicator &&& 0x80 = 0 then .next s else .exit s.printed

end OptionRom

def imageType (codeType : Nat) : ImageType :=
  if codeType = PCI_CODE_TYPE_EFI_IMAGE then .uefi
  else if codeType = PCI_CODE_TYPE_PCAT_IMAGE then .bios
  else if codeType = 1 then .openFirmware
  else if codeType = 2 then .hpPaRisc
  else .unknown

open PciDataStructure in
def parseImage (rom : OptionRom) (romHeader length pcir : Nat) : Logged Span ImageListing := do
  let codeType ← rom.read pcir CodeType
  if codeType ≠ PCI_CODE_TYPE_EFI_IMAGE then
    pure ⟨romHeader - rom.romImage, imageType codeType, codeType, length, none⟩
  else do
    let initializationSize ← rom.read romHeader EfiPciExpansionRomHeader.InitializationSize
    let efiMachineType ← rom.read romHeader EfiPciExpansionRomHeader.EfiMachineType
    let efiSubsystem ← rom.read romHeader EfiPciExpansionRomHeader.EfiSubsystem
    let headerOffset ← rom.read romHeader EfiPciExpansionRomHeader.EfiImageHeaderOffset
    let compressionType ← rom.read romHeader EfiPciExpansionRomHeader.CompressionType
    let initializationSize := initializationSize * 512
    pure ⟨romHeader - rom.romImage, imageType codeType, efiMachineType, length, some
      ⟨efiSubsystem, initializationSize, headerOffset, compressionType ≠ 0,
        ¬ (length < initializationSize ∨ headerOffset > initializationSize)⟩⟩

/-- The length of an image in units of 512 bytes. -/
def readImageLength (rom : OptionRom) (romHeader romPcir : Nat) : Logged Span Nat := do
  let imageLength ← rom.read romPcir PciDataStructure.ImageLength
  let codeType ← rom.read romPcir PciDataStructure.CodeType
  if codeType = PCI_CODE_TYPE_PCAT_IMAGE then do
    -- some legacy cards only report the length of the legacy header
    let size512 ← rom.read romHeader EfiLegacyExpansionRomHeader.Size512
    pure (max imageLength size512)
  else
    pure imageLength

def parseImagesBody (rom : OptionRom) (s : ImageWalk) :
    Logged Span (Loop.Step ImageWalk (List ImageListing)) := do
  let signature ← rom.read s.romHeader PciExpansionRomHeader.Signature
  if signature ≠ PCI_EXPANSION_ROM_HEADER_SIGNATURE then
    pure (rom.whileTest { s with romHeader := s.romHeader + 512 })
  else do
    let pcirOffset ← rom.read s.romHeader PciExpansionRomHeader.PcirOffset
    if pcirOffset = 0 ∨ pcirOffset &&& 3 ≠ 0 ∨
        s.romHeader + pcirOffset + PCI_DATA_STRUCTURE_LENGTH > rom.limit then
      pure (.exit s.printed)
    else do
      let romPcir := s.romHeader + pcirOffset
      let pcirSignature ← rom.read romPcir PciDataStructure.Signature
      if pcirSignature ≠ PCI_DATA_STRUCTURE_SIGNATURE then
        pure (.exit s.printed)
      else do
        let imageLength ← readImageLength rom s.romHeader romPcir
        let listing ← parseImage rom s.romHeader (imageLength * 512) romPcir
        let indicator ← rom.read romPcir PciDataStructure.Indicator
        pure (rom.whileTest
          ⟨s.romHeader + imageLength * 512, BitVec.ofNat 8 indicator, s.printed ++ [listing]⟩)

/-- `ParseImages`, for at most `fuel` headers. -/
def parseImages (rom : OptionRom) (fuel : Nat) : Logged Span (Option (List ImageListing)) :=
  if rom.romImage = 0 then
    pure (some [])
  else
    LoggedLoop.run (parseImagesBody rom) fuel ⟨rom.romImage, 0, []⟩

namespace OptionRom

variable (rom : OptionRom)

/-- There is a header at `h`. -/
def Signed (h : Nat) : Prop :=
  PciExpansionRomHeader.Signature.get rom.mem h = PCI_EXPANSION_ROM_HEADER_SIGNATURE

/-- The data structure that the header at `h` refers to. -/
def pcir (h : Nat) : Nat := h + PciExpansionRomHeader.PcirOffset.get rom.mem h

/-- The header at `h` refers to an aligned data structure inside the ROM. -/
def HasPcir (h : Nat) : Prop :=
  PciExpansionRomHeader.PcirOffset.get rom.mem h ≠ 0 ∧
    PciExpansionRomHeader.PcirOffset.get rom.mem h &&& 3 = 0 ∧
    rom.pcir h + PCI_DATA_STRUCTURE_LENGTH ≤ rom.limit ∧
    PciDataStructure.Signature.get rom.mem (rom.pcir h) = PCI_DATA_STRUCTURE_SIGNATURE

/-- There is an image at `h`. -/
def IsImage (h : Nat) : Prop := rom.Signed h ∧ rom.HasPcir h

/-- The length of the image at `h` in units of 512 bytes. -/
def imageLength (h : Nat) : Nat := (readImageLength rom h (rom.pcir h)).value

/-- The image at `h` says that it is the last one. -/
def IsLast (h : Nat) : Prop :=
  BitVec.ofNat 8 (PciDataStructure.Indicator.get rom.mem (rom.pcir h)) &&& 0x80 ≠ 0

instance (h : Nat) : Decidable (rom.Signed h) := inferInstanceAs (Decidable (_ = _))
instance (h : Nat) : Decidable (rom.HasPcir h) := inferInstanceAs (Decidable (_ ∧ _))
instance (h : Nat) : Decidable (rom.IsImage h) := inferInstanceAs (Decidable (_ ∧ _))
instance (h : Nat) : Decidable (rom.IsLast h) := inferInstanceAs (Decidable (_ ≠ _))

/-- The places to which the data of the ROM leads: the start, 512 bytes on from a place
without a header, and the end of an image that is not the last one. -/
inductive Visits : Nat → Prop
  | start : Visits rom.romImage
  | gap {h : Nat} : Visits h → ¬ rom.Signed h → h + 512 < rom.limit → Visits (h + 512)
  | image {h : Nat} : Visits h → rom.IsImage h → ¬ rom.IsLast h →
      h + rom.imageLength h * 512 < rom.limit → Visits (h + rom.imageLength h * 512)

/-- The end of the ROM does not cut off a signature or a header at `h`, and an image at `h`
that is not the last one has a length. -/
structure SoundAt (h : Nat) : Prop where
  signature : h + 2 ≤ rom.limit
  header : rom.Signed h → h + 26 ≤ rom.limit
  length : rom.IsImage h → ¬ rom.IsLast h → rom.imageLength h ≠ 0

/-- There is no ROM, or every place that its data leads to is sound. -/
def WellLinked : Prop := rom.romImage = 0 ∨ ∀ h, rom.Visits h → rom.SoundAt h

/-- The listing ends, and reads only bytes of the ROM. -/
structure ListingTotal : Prop where
  ends : ∃ fuel listing, (parseImages rom fuel).value = some listing
  inside : ∀ fuel, (parseImages rom fuel).All fun bytes => bytes.Within rom.span

theorem value_read (base : Nat) (field : Field) :
    (rom.read base field).value = field.get rom.mem base := rfl

theorem all_read (base : Nat) (field : Field) :
    ((rom.read base field).All fun bytes => bytes.Within rom.span) ↔
      rom.romImage ≤ base + field.offset ∧ base + field.offset + field.bytes ≤ rom.limit :=
  Logged.all_record _ _ _

/-- A field of a record that starts in the ROM and does not run out of it. -/
theorem all_read_of_le (base length : Nat) (field : Field) (hbase : rom.romImage ≤ base)
    (hend : base + length ≤ rom.limit) (hfield : field.offset + field.bytes ≤ length) :
    (rom.read base field).All fun bytes => bytes.Within rom.span := by
  rw [all_read]
  omega

section Body

variable (s : ImageWalk)

/-- What the loop has printed after the image at its header. -/
def printedAfter : List ImageListing :=
  s.printed ++
    [(parseImage rom s.romHeader (rom.imageLength s.romHeader * 512)
      (rom.pcir s.romHeader)).value]

theorem plain_of_unsigned (h : ¬ rom.Signed s.romHeader) :
    LoggedLoop.plain (parseImagesBody rom) s =
      rom.whileTest { s with romHeader := s.romHeader + 512 } := by
  rw [LoggedLoop.plain, parseImagesBody, Logged.value_bind]
  exact congrArg Logged.value (if_pos h)

theorem plain_of_signed (h : rom.Signed s.romHeader) :
    LoggedLoop.plain (parseImagesBody rom) s =
      if rom.HasPcir s.romHeader then
        rom.whileTest ⟨s.romHeader + rom.imageLength s.romHeader * 512,
          BitVec.ofNat 8 (PciDataStructure.Indicator.get rom.mem (rom.pcir s.romHeader)),
          rom.printedAfter s⟩
      else .exit s.printed := by
  have hsigned : PciExpansionRomHeader.Signature.get rom.mem s.romHeader =
      PCI_EXPANSION_ROM_HEADER_SIGNATURE := h
  rw [LoggedLoop.plain, parseImagesBody, Logged.value_bind, value_read,
    if_neg (not_not_intro hsigned), Logged.value_bind, value_read]
  split
  · next hbad =>
      rw [if_neg fun hpcir => ?_]
      · rfl
      · obtain ⟨hzero, haligned, hlimit, -⟩ := hpcir
        exact hbad.elim hzero fun hbad => hbad.elim (absurd haligned) (Nat.not_lt.mpr hlimit)
  · next hgood =>
      push Not at hgood
      rw [Logged.value_bind, value_read]
      split
      · next hsignature =>
          rw [if_neg fun hpcir => hsignature hpcir.2.2.2]
          rfl
      · next hsignature =>
          have hpcir : rom.HasPcir s.romHeader :=
            ⟨hgood.1, hgood.2.1, hgood.2.2, not_not.mp hsignature⟩
          rw [if_pos hpcir]
          rfl

end Body

section Reads

theorem all_readImageLength (h pcir : Nat) (hbase : rom.romImage ≤ h) (hend : h + 26 ≤ rom.limit)
    (hpcir : h ≤ pcir) (hpcirEnd : pcir + PCI_DATA_STRUCTURE_LENGTH ≤ rom.limit) :
    (readImageLength rom h pcir).All fun bytes => bytes.Within rom.span := by
  have hpcirBase := Nat.le_trans hbase hpcir
  rw [readImageLength, Logged.all_bind, Logged.all_bind]
  refine ⟨rom.all_read_of_le pcir _ _ hpcirBase hpcirEnd (by decide),
    rom.all_read_of_le pcir _ _ hpcirBase hpcirEnd (by decide), ?_⟩
  split
  · rw [Logged.all_bind]
    exact ⟨rom.all_read_of_le h 26 _ hbase hend (by decide), Logged.all_pure _ _⟩
  · exact Logged.all_pure _ _

theorem all_parseImage (h length pcir : Nat) (hbase : rom.romImage ≤ h)
    (hend : h + 26 ≤ rom.limit) (hpcir : h ≤ pcir)
    (hpcirEnd : pcir + PCI_DATA_STRUCTURE_LENGTH ≤ rom.limit) :
    (parseImage rom h length pcir).All fun bytes => bytes.Within rom.span := by
  have hheader (field : Field) (hfield : field.offset + field.bytes ≤ 26) :=
    rom.all_read_of_le h 26 field hbase hend hfield
  rw [parseImage, Logged.all_bind]
  refine ⟨rom.all_read_of_le pcir _ _ (Nat.le_trans hbase hpcir) hpcirEnd (by decide), ?_⟩
  split
  · exact Logged.all_pure _ _
  · simp only [Logged.all_bind]
    exact ⟨hheader _ (by decide), hheader _ (by decide), hheader _ (by decide),
      hheader _ (by decide), hheader _ (by decide), Logged.all_pure _ _⟩

/-- Only a signature or a header that the end of the ROM cuts off is read beyond it; all
other reads are behind the check of the data structure. -/
theorem all_parseImagesBody (s : ImageWalk) (hbase : rom.romImage ≤ s.romHeader) :
    ((parseImagesBody rom s).All fun bytes => bytes.Within rom.span) ↔
      s.romHeader + 2 ≤ rom.limit ∧ (rom.Signed s.romHeader → s.romHeader + 26 ≤ rom.limit) := by
  have hsignature : ((rom.read s.romHeader PciExpansionRomHeader.Signature).All fun bytes =>
      bytes.Within rom.span) ↔ s.romHeader + 2 ≤ rom.limit := by
    rw [all_read]
    exact and_iff_right hbase
  have hpcirOffset : ((rom.read s.romHeader PciExpansionRomHeader.PcirOffset).All fun bytes =>
      bytes.Within rom.span) ↔ s.romHeader + 26 ≤ rom.limit := by
    rw [all_read]
    exact and_iff_right (Nat.le_add_right_of_le hbase)
  rw [parseImagesBody, Logged.all_bind, hsignature, value_read]
  refine and_congr_right fun _ => ?_
  by_cases hsigned : PciExpansionRomHeader.Signature.get rom.mem s.romHeader =
      PCI_EXPANSION_ROM_HEADER_SIGNATURE
  · rw [if_neg (not_not_intro hsigned), Logged.all_bind, hpcirOffset, value_read]
    refine ⟨fun h _ => h.1, fun h => ⟨h hsigned, ?_⟩⟩
    split
    · exact Logged.all_pure _ _
    · next hgood =>
        push Not at hgood
        have hend := h hsigned
        have hpcir := Nat.le_add_right s.romHeader
          (PciExpansionRomHeader.PcirOffset.get rom.mem s.romHeader)
        have hpcirField (field : Field)
            (hfield : field.offset + field.bytes ≤ PCI_DATA_STRUCTURE_LENGTH) :=
          rom.all_read_of_le _ _ field (Nat.le_trans hbase hpcir) hgood.2.2 hfield
        rw [Logged.all_bind]
        refine ⟨hpcirField _ (by decide), ?_⟩
        split
        · exact Logged.all_pure _ _
        · rw [Logged.all_bind, Logged.all_bind, Logged.all_bind]
          exact ⟨rom.all_readImageLength _ _ hbase hend hpcir hgood.2.2,
            rom.all_parseImage _ _ _ hbase hend hpcir hgood.2.2,
            hpcirField _ (by decide), Logged.all_pure _ _⟩
  · rw [if_pos hsigned]
    exact iff_of_true (Logged.all_pure _ _) fun h => absurd h hsigned

end Reads

/-- A state at the head of the loop: the last image has not been seen. -/
def ImageWalk.Open (s : ImageWalk) : Prop := s.indicator &&& 0x80 = 0

def startWalk : ImageWalk := ⟨rom.romImage, 0, []⟩

section Walk

variable {rom} {s t : ImageWalk}

theorem whileTest_next (h : rom.whileTest s = .next t) :
    t = s ∧ s.romHeader < rom.limit ∧ ImageWalk.Open s := by
  rw [whileTest] at h
  split at h
  · next htest => exact ⟨(Loop.Step.next.inj h).symm, htest⟩
  · exact nomatch h

theorem next_of_gap (hopen : ImageWalk.Open s) (hgap : ¬ rom.Signed s.romHeader)
    (hinside : s.romHeader + 512 < rom.limit) :
    LoggedLoop.plain (parseImagesBody rom) s =
      .next { s with romHeader := s.romHeader + 512 } := by
  rw [plain_of_unsigned rom s hgap]
  exact if_pos ⟨hinside, hopen⟩

theorem next_of_image (himage : rom.IsImage s.romHeader) (hlast : ¬ rom.IsLast s.romHeader)
    (hinside : s.romHeader + rom.imageLength s.romHeader * 512 < rom.limit) :
    ∃ t, LoggedLoop.plain (parseImagesBody rom) s = .next t ∧ ImageWalk.Open t ∧
      t.romHeader = s.romHeader + rom.imageLength s.romHeader * 512 := by
  rw [plain_of_signed rom s himage.1, if_pos himage.2]
  exact ⟨_, if_pos ⟨hinside, not_not.mp hlast⟩, not_not.mp hlast, rfl⟩

theorem next_cases (h : LoggedLoop.plain (parseImagesBody rom) s = .next t) :
    t.romHeader < rom.limit ∧ ImageWalk.Open t ∧
      ((¬ rom.Signed s.romHeader ∧ t.romHeader = s.romHeader + 512) ∨
        (rom.IsImage s.romHeader ∧ ¬ rom.IsLast s.romHeader ∧
          t.romHeader = s.romHeader + rom.imageLength s.romHeader * 512)) := by
  by_cases hsigned : rom.Signed s.romHeader
  · rw [plain_of_signed rom s hsigned] at h
    split at h
    · next hpcir =>
        obtain ⟨rfl, hinside, hopen⟩ := whileTest_next h
        exact ⟨hinside, hopen, .inr ⟨⟨hsigned, hpcir⟩, not_not.mpr hopen, rfl⟩⟩
    · exact nomatch h
  · rw [plain_of_unsigned rom s hsigned] at h
    obtain ⟨rfl, hinside, hopen⟩ := whileTest_next h
    exact ⟨hinside, hopen, .inl ⟨hsigned, rfl⟩⟩

theorem visits_of_reaches
    (h : Loop.Reaches (LoggedLoop.plain (parseImagesBody rom)) rom.startWalk t) :
    rom.Visits t.romHeader := by
  induction h with
  | refl => exact .start
  | tail _ hnext ih =>
      obtain ⟨hinside, -, hstep⟩ := next_cases hnext
      rcases hstep with ⟨hgap, hheader⟩ | ⟨himage, hlast, hheader⟩
      · rw [hheader] at hinside ⊢
        exact .gap ih hgap hinside
      · rw [hheader] at hinside ⊢
        exact .image ih himage hlast hinside

theorem reaches_of_visits {h : Nat} (hvisits : rom.Visits h) :
    ∃ t, Loop.Reaches (LoggedLoop.plain (parseImagesBody rom)) rom.startWalk t ∧
      t.romHeader = h ∧ ImageWalk.Open t := by
  induction hvisits with
  | start => exact ⟨_, .refl, rfl, BitVec.zero_and⟩
  | gap _ hgap hinside ih =>
      obtain ⟨t, hreach, rfl, hopen⟩ := ih
      exact ⟨_, hreach.tail (next_of_gap hopen hgap hinside), rfl, hopen⟩
  | image _ himage hlast hinside ih =>
      obtain ⟨t, hreach, rfl, -⟩ := ih
      obtain ⟨u, hnext, hopen, hheader⟩ := next_of_image himage hlast hinside
      exact ⟨u, hreach.tail hnext, hheader, hopen⟩

theorem romImage_le_of_visits {h : Nat} (hvisits : rom.Visits h) : rom.romImage ≤ h := by
  induction hvisits with
  | start => exact Nat.le_refl _
  | gap _ _ _ ih => exact Nat.le_add_right_of_le ih
  | image _ _ _ _ ih => exact Nat.le_add_right_of_le ih

end Walk

section Listing

variable {rom}

/-- An image without a length that is not the last one is listed over and over. -/
theorem run_of_zero_length {h : Nat} (hvisits : rom.Visits h) (himage : rom.IsImage h)
    (hlast : ¬ rom.IsLast h) (hlength : rom.imageLength h = 0) (hinside : h < rom.limit)
    (fuel : Nat) :
    (LoggedLoop.run (parseImagesBody rom) fuel rom.startWalk).value = none := by
  rw [LoggedLoop.value_run]
  obtain ⟨t, hreach, hheader, -⟩ := reaches_of_visits hvisits
  refine Loop.run_eq_none_of_reaches _ (fun s => s.romHeader = h) (fun s hs => ?_) _ t hreach
    hheader fuel
  subst hs
  obtain ⟨u, hnext, -, hu⟩ := next_of_image himage hlast (by rwa [hlength])
  rw [hlength] at hu
  exact ⟨u, hnext, hu⟩

/-- When every place is sound, each iteration gets closer to the end of the ROM. -/
theorem ends_of_soundAt (h : ∀ h, rom.Visits h → rom.SoundAt h) :
    ∃ fuel listing, (LoggedLoop.run (parseImagesBody rom) fuel rom.startWalk).value =
      some listing := by
  have hstep (s t : ImageWalk) (hs : rom.Visits s.romHeader)
      (hnext : LoggedLoop.plain (parseImagesBody rom) s = .next t) :
      rom.Visits t.romHeader ∧ rom.limit - t.romHeader < rom.limit - s.romHeader := by
    have hsound := h s.romHeader hs
    have hsignature := hsound.signature
    obtain ⟨hinside, -, hcases⟩ := next_cases hnext
    rcases hcases with ⟨hgap, hheader⟩ | ⟨himage, hlast, hheader⟩
    · rw [hheader] at hinside ⊢
      exact ⟨.gap hs hgap hinside, by omega⟩
    · have hlength := Nat.pos_of_ne_zero (hsound.length himage hlast)
      rw [hheader] at hinside ⊢
      exact ⟨.image hs himage hlast hinside, by omega⟩
  obtain ⟨t, listing, hreach, -, hexit⟩ := Loop.exists_exit_of_measure
    (LoggedLoop.plain (parseImagesBody rom)) (fun s => rom.Visits s.romHeader)
    (fun s => rom.limit - s.romHeader) hstep rom.startWalk .start
  obtain ⟨fuel, hrun⟩ := Loop.exists_run_of_exit _ _ _ _ hreach hexit
  exact ⟨fuel, listing, (LoggedLoop.value_run _ _ _).trans hrun⟩

theorem inside_iff :
    (∀ fuel, (LoggedLoop.run (parseImagesBody rom) fuel rom.startWalk).All
      fun bytes => bytes.Within rom.span) ↔
      ∀ h, rom.Visits h →
        h + 2 ≤ rom.limit ∧ (rom.Signed h → h + 26 ≤ rom.limit) := by
  rw [LoggedLoop.all_run_iff]
  constructor
  · intro hall h hvisits
    obtain ⟨t, hreach, rfl, -⟩ := reaches_of_visits hvisits
    exact (all_parseImagesBody rom t (romImage_le_of_visits hvisits)).mp (hall t hreach)
  · intro hall t hreach
    have hvisits := visits_of_reaches hreach
    exact (all_parseImagesBody rom t (romImage_le_of_visits hvisits)).mpr (hall _ hvisits)

end Listing

/-- In a ROM of whole sectors the end cuts nothing off, so only the lengths matter. -/
theorem wellLinked_iff_of_sectors (hsectors : 512 ∣ rom.romSize.toNat)
    (hsize : 0 < rom.romSize.toNat) :
    rom.WellLinked ↔ rom.romImage = 0 ∨
      ∀ h, rom.Visits h → rom.IsImage h → ¬ rom.IsLast h → rom.imageLength h ≠ 0 := by
  obtain ⟨sectors, hsectors⟩ := hsectors
  have hsector (h : Nat) (hvisits : rom.Visits h) :
      ∃ k < sectors, h = rom.romImage + 512 * k := by
    induction hvisits with
    | start => exact ⟨0, by omega, rfl⟩
    | gap _ _ hinside ih =>
        obtain ⟨k, -, rfl⟩ := ih
        rw [limit] at hinside
        exact ⟨k + 1, by omega, by omega⟩
    | @image h _ _ _ hinside ih =>
        obtain ⟨k, -, hk⟩ := ih
        rw [limit] at hinside
        exact ⟨k + rom.imageLength h, by omega, by omega⟩
  refine or_congr_right ⟨fun hsound h hvisits => (hsound h hvisits).length, ?_⟩
  intro hlength h hvisits
  obtain ⟨k, hk, hh⟩ := hsector h hvisits
  have hroom : h + 512 ≤ rom.limit := by
    rw [limit]
    omega
  exact ⟨by omega, fun _ => by omega, hlength h hvisits⟩

theorem listingTotal_iff_wellLinked : rom.ListingTotal ↔ rom.WellLinked := by
  by_cases hnull : rom.romImage = 0
  · refine iff_of_true ⟨⟨0, [], ?_⟩, fun fuel => ?_⟩ (.inl hnull)
    · rw [parseImages, if_pos hnull]
      rfl
    · rw [parseImages, if_pos hnull]
      exact Logged.all_pure _ _
  · have hrun (fuel : Nat) :
        parseImages rom fuel = LoggedLoop.run (parseImagesBody rom) fuel rom.startWalk :=
      if_neg hnull
    constructor
    · rintro ⟨⟨fuel, listing, hends⟩, hinside⟩
      simp only [hrun] at hends hinside
      refine .inr fun h hvisits => ?_
      obtain ⟨hsignature, hheader⟩ := inside_iff.mp hinside h hvisits
      refine ⟨hsignature, hheader, fun himage hlast hlength => ?_⟩
      rw [run_of_zero_length hvisits himage hlast hlength (by omega) fuel] at hends
      exact nomatch hends
    · rintro (hzero | hsound)
      · exact absurd hzero hnull
      · refine ⟨?_, ?_⟩
        · simp only [hrun]
          exact ends_of_soundAt hsound
        · simp only [hrun]
          exact inside_iff.mpr fun h hvisits =>
            ⟨(hsound h hvisits).signature, (hsound h hvisits).header⟩

/-- One sector with a UEFI image of length zero that is not the last one. -/
def zeroLength : OptionRom where
  mem a := ([(0x1000, 0x55), (0x1001, 0xaa), (0x1018, 0x1c), (0x101c, 0x50), (0x101d, 0x43),
    (0x101e, 0x49), (0x101f, 0x52), (0x1030, 0x03)].lookup a).getD 0
  romImage := 0x1000
  romSize := 512

theorem zeroLength_not_total : ¬ zeroLength.ListingTotal := by
  rintro ⟨⟨fuel, listing, hends⟩, -⟩
  have hrun : parseImages zeroLength fuel =
      LoggedLoop.run (parseImagesBody zeroLength) fuel zeroLength.startWalk :=
    if_neg (by decide)
  rw [hrun, run_of_zero_length .start (by decide) (by decide) (by decide) (by decide) fuel]
    at hends
  exact nomatch hends

end OptionRom

end FdtBusPkg
