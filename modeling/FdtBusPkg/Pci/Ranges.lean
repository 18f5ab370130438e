import FdtBusPkg.Pci.RootBridge
import Mathlib.Data.List.Forall2

/-!
The apertures a root bridge gets from the `ranges` of its node. An entry is
classified by comparing its whole `phys.hi` cell with five constants, so it
becomes the aperture of its space code only when every other bit is clear.
-/
namespace FdtBusPkg

def EFI_DT_PCI_HOST_RANGE_PREFETCHABLE : U32 := 0x40000000
def EFI_DT_PCI_HOST_RANGE_SS_MASK : U32 := 0x03000000
def EFI_DT_PCI_HOST_RANGE_MMIO64 : U32 := 0x03000000
def EFI_DT_PCI_HOST_RANGE_MMIO32 : U32 := 0x02000000
def EFI_DT_PCI_HOST_RANGE_IO : U32 := 0x01000000

def VGA_MEM_BASE : U64 := 0xa0000
def VGA_MEM_SIZE : DtSize := 0x20000
def VGA_IO1_BASE : U64 := 0x3b0
def VGA_IO1_SIZE : DtSize := 0xc
def VGA_IO2_BASE : U64 := 0x3c0
def VGA_IO2_SIZE : DtSize := 0x20

/-- `phys.hi` of a child bus address. -/
def fbpPciGetRangeAttribute (childAddressCells : Nat) (childBase : DtBusAddress) : U32 :=
  if childAddressCells < 2 then 0
  else (childBase >>> ((childAddressCells - 1) * 32)).setWidth 32

/-- The apertures set from `ranges`. -/
inductive PciAperture
  | io
  | mem
  | pMem
  | memAbove4G
  | pMemAbove4G
  deriving DecidableEq, Repr

namespace PciRootBridge

def aperture (bridge : PciRootBridge) : PciAperture → DtRange
  | .io => bridge.ioRange
  | .mem => bridge.memRange
  | .pMem => bridge.pMemRange
  | .memAbove4G => bridge.memAbove4GRange
  | .pMemAbove4G => bridge.pMemAbove4GRange

def setAperture (bridge : PciRootBridge) (range : DtRange) : PciAperture → PciRootBridge
  | .io => { bridge with ioRange := range }
  | .mem => { bridge with memRange := range }
  | .pMem => { bridge with pMemRange := range }
  | .memAbove4G => { bridge with memAbove4GRange := range }
  | .pMemAbove4G => { bridge with pMemAbove4GRange := range }

theorem aperture_setAperture_self (bridge : PciRootBridge) (range : DtRange) (a : PciAperture) :
    (bridge.setAperture range a).aperture a = range := by
  cases a <;> rfl

theorem aperture_setAperture_of_ne (bridge : PciRootBridge) (range : DtRange)
    (a b : PciAperture) (h : b ≠ a) :
    (bridge.setAperture range a).aperture b = bridge.aperture b := by
  cases a <;> cases b <;> first | rfl | exact absurd rfl h

end PciRootBridge

/-- The `switch` on the space code. -/
def spaceCodeAperture (code : U32) : Option PciAperture :=
  if code = EFI_DT_PCI_HOST_RANGE_IO then some .io
  else if code = EFI_DT_PCI_HOST_RANGE_MMIO32 then some .mem
  else if code = EFI_DT_PCI_HOST_RANGE_MMIO32 ||| EFI_DT_PCI_HOST_RANGE_PREFETCHABLE then
    some .pMem
  else if code = EFI_DT_PCI_HOST_RANGE_MMIO64 then some .memAbove4G
  else if code = EFI_DT_PCI_HOST_RANGE_MMIO64 ||| EFI_DT_PCI_HOST_RANGE_PREFETCHABLE then
    some .pMemAbove4G
  else none

/-- `FbpRangeToPhysicalAddress` succeeds. -/
def rangeHasPhysicalAddress (range : DtRange) : Bool := range.busDtIo.isNone

section DtInit

variable (childAddressCells : Nat)

/-- The body of the loop over `ranges`. -/
def rangesStep (bridge : PciRootBridge) (range : DtRange) : PciRootBridge :=
  if !bridge.keepExistingConfig && !rangeHasPhysicalAddress range then
    bridge
  else
    match spaceCodeAperture (fbpPciGetRangeAttribute childAddressCells range.childBase) with
    | some a => bridge.setAperture range a
    | none => bridge

/-- The loop over `ranges`, until `GetRange` fails. -/
def rangesLoop (getRange : Nat → EfiResult DtRange) :
    Nat → Nat → PciRootBridge → PciRootBridge
  | 0, _, bridge => bridge
  | fuel + 1, index, bridge =>
    match getRange index with
    | .error _ => bridge
    | .ok range =>
      rangesLoop getRange fuel (index + 1) (rangesStep childAddressCells bridge range)

/-- A range moved so that it starts at a legacy VGA address. -/
def vgaWindow (range : DtRange) (base : U64) (size : DtSize) : DtRange where
  childBase := range.childBase - (range.rb - base).setWidth 128
  parentBase := range.parentBase - (range.rb - base).setWidth 128
  translatedParentBase := range.translatedParentBase - (range.rb - base).setWidth 128
  length := size
  busDtIo := range.busDtIo

/-- The VGA windows derived from the I/O and memory apertures. -/
def setVgaWindows (bridge : PciRootBridge) : PciRootBridge :=
  let bridge :=
    if bridge.ioRange.valid then
      { bridge with
        vgaIo1Range := vgaWindow bridge.ioRange VGA_IO1_BASE VGA_IO1_SIZE
        vgaIo2Range := vgaWindow bridge.ioRange VGA_IO2_BASE VGA_IO2_SIZE }
    else
      bridge
  if bridge.memRange.valid then
    { bridge with vgaMemRange := vgaWindow bridge.memRange VGA_MEM_BASE VGA_MEM_SIZE }
  else
    bridge

end DtInit

/-- `GetRange` of a node with these entries, all of which parse. -/
def getRangeOf (entries : List DtRange) (index : Nat) : EfiResult DtRange :=
  match entries[index]? with
  | some range => .ok range
  | none => .error .notFound

/-- The part of `RootBridgeDtInit` after `bus-range`, on a node with three address
cells. -/
def rootBridgeDtInitRanges (bridge : PciRootBridge) (entries : List DtRange) : PciRootBridge :=
  setVgaWindows (rangesLoop 3 (getRangeOf entries) (entries.length + 1) 0 bridge)

theorem rangesLoop_eq_foldl (childAddressCells : Nat) (getRange : Nat → EfiResult DtRange)
    (entries : List DtRange) (index : Nat) (bridge : PciRootBridge) (e : EfiError)
    (hget : ∀ i range, entries[i]? = some range → getRange (index + i) = .ok range)
    (hend : getRange (index + entries.length) = .error e) :
    rangesLoop childAddressCells getRange (entries.length + 1) index bridge =
      entries.foldl (rangesStep childAddressCells) bridge := by
  induction entries generalizing index bridge with
  | nil =>
      rw [List.length_nil, Nat.add_zero] at hend
      rw [List.length_nil, rangesLoop, hend, List.foldl_nil]
  | cons range rest ih =>
      have hfirst : getRange index = .ok range := hget 0 range rfl
      rw [List.length_cons, rangesLoop, hfirst, List.foldl_cons]
      apply ih (index + 1)
      · intro i entry hentry
        rw [Nat.add_assoc, Nat.add_comm 1 i]
        exact hget (i + 1) entry hentry
      · rw [Nat.add_assoc, Nat.add_comm 1]
        exact hend

theorem rootBridgeDtInitRanges_eq (bridge : PciRootBridge) (entries : List DtRange) :
    rootBridgeDtInitRanges bridge entries =
      setVgaWindows (entries.foldl (rangesStep 3) bridge) := by
  rw [rootBridgeDtInitRanges]
  apply congrArg setVgaWindows
  refine rangesLoop_eq_foldl 3 (getRangeOf entries) entries 0 bridge .notFound ?_ ?_
  · intro i range hrange
    rw [Nat.zero_add, getRangeOf, hrange]
  · rw [Nat.zero_add, getRangeOf, List.getElem?_eq_none (Nat.le_refl _)]

/-! The classes of IEEE 1275: space bits and prefetchable bit. -/

/-- `phys.hi` of an entry with three address cells. -/
def physHi (range : DtRange) : U32 := fbpPciGetRangeAttribute 3 range.childBase

def spaceBits (code : U32) : U32 := code &&& EFI_DT_PCI_HOST_RANGE_SS_MASK

def prefetchBit (code : U32) : U32 := code &&& EFI_DT_PCI_HOST_RANGE_PREFETCHABLE

/-- Neither space bits nor prefetchable bit. -/
def otherBits (code : U32) : U32 :=
  code &&& ~~~ (EFI_DT_PCI_HOST_RANGE_SS_MASK ||| EFI_DT_PCI_HOST_RANGE_PREFETCHABLE)

/-- The aperture of the class of a space code. -/
def classAperture (code : U32) : Option PciAperture :=
  if spaceBits code = EFI_DT_PCI_HOST_RANGE_IO then some .io
  else if spaceBits code = EFI_DT_PCI_HOST_RANGE_MMIO32 then
    if prefetchBit code = 0 then some .mem else some .pMem
  else if spaceBits code = EFI_DT_PCI_HOST_RANGE_MMIO64 then
    if prefetchBit code = 0 then some .memAbove4G else some .pMemAbove4G
  else none

/-- No I/O or memory code has a bit set that is not part of its class; for I/O
the prefetchable bit is none. -/
def CleanCode (code : U32) : Prop :=
  spaceBits code ≠ 0 → otherBits code = 0 ∧
    (spaceBits code = EFI_DT_PCI_HOST_RANGE_IO → prefetchBit code = 0)

instance (code : U32) : Decidable (CleanCode code) :=
  inferInstanceAs (Decidable (_ → _ ∧ (_ → _)))

theorem code_split (code : U32) :
    code = spaceBits code ||| prefetchBit code ||| otherBits code := by
  apply BitVec.eq_of_getLsbD_eq
  intro i hi
  simp only [spaceBits, prefetchBit, otherBits, BitVec.getLsbD_or, BitVec.getLsbD_and,
    BitVec.getLsbD_not, hi, decide_true, Bool.true_and]
  cases code.getLsbD i <;> cases EFI_DT_PCI_HOST_RANGE_SS_MASK.getLsbD i <;>
    cases EFI_DT_PCI_HOST_RANGE_PREFETCHABLE.getLsbD i <;> rfl

theorem spaceBits_cases (code : U32) :
    spaceBits code = 0 ∨ spaceBits code = EFI_DT_PCI_HOST_RANGE_IO ∨
      spaceBits code = EFI_DT_PCI_HOST_RANGE_MMIO32 ∨
      spaceBits code = EFI_DT_PCI_HOST_RANGE_MMIO64 := by
  have hmask : EFI_DT_PCI_HOST_RANGE_SS_MASK = BitVec.twoPow 32 24 ||| BitVec.twoPow 32 25 := rfl
  rw [spaceBits, hmask, BitVec.and_or_distrib_left, BitVec.and_twoPow, BitVec.and_twoPow]
  cases code.getLsbD 24 <;> cases code.getLsbD 25 <;> decide

theorem prefetchBit_cases (code : U32) :
    prefetchBit code = 0 ∨ prefetchBit code = EFI_DT_PCI_HOST_RANGE_PREFETCHABLE := by
  have hmask : EFI_DT_PCI_HOST_RANGE_PREFETCHABLE = BitVec.twoPow 32 30 := rfl
  rw [prefetchBit, hmask, BitVec.and_twoPow]
  cases code.getLsbD 30 <;> decide

theorem spaceCodeAperture_of_otherBits (code : U32) (h : otherBits code ≠ 0) :
    spaceCodeAperture code = none := by
  have hne (c : U32) (hc : otherBits c = 0) : code ≠ c := by
    rintro rfl
    exact h hc
  rw [spaceCodeAperture, if_neg (hne _ rfl), if_neg (hne _ rfl), if_neg (hne _ rfl),
    if_neg (hne _ rfl), if_neg (hne _ rfl)]

theorem classAperture_eq_none_iff (code : U32) :
    classAperture code = none ↔ spaceBits code = 0 := by
  rw [classAperture]
  rcases spaceBits_cases code with h | h | h | h <;>
    rcases prefetchBit_cases code with hp | hp <;>
    rw [h, hp] <;> decide

/-- The comparison with constants classifies exactly the clean codes by their class. -/
theorem spaceCodeAperture_eq_classAperture_iff (code : U32) :
    spaceCodeAperture code = classAperture code ↔ CleanCode code := by
  by_cases hother : otherBits code = 0
  · have hsplit := code_split code
    rw [hother] at hsplit
    rcases spaceBits_cases code with hs | hs | hs | hs <;>
      rcases prefetchBit_cases code with hp | hp <;>
      (rw [hs, hp] at hsplit; rw [hsplit]; decide)
  · rw [spaceCodeAperture_of_otherBits code hother, eq_comm, classAperture_eq_none_iff]
    refine ⟨fun h hne => absurd h hne, fun h => ?_⟩
    by_contra hne
    exact hother (h hne).1

/-! One entry, then a whole list. -/

/-- The entry becomes the aperture of its class, whatever the root bridge. -/
def EntryClassified (range : DtRange) : Prop :=
  ∀ bridge, rangesStep 3 bridge range =
    match classAperture (physHi range) with
    | some a => bridge.setAperture range a
    | none => bridge

/-- The entries of a node, all of which translate to CPU addresses. -/
structure PciHostRanges where
  entries : List DtRange
  translated : ∀ range ∈ entries, range.busDtIo = none

section Lists

variable (bridge : PciRootBridge) (ranges : PciHostRanges)

/-- Classes of I/O and memory entries are distinct. -/
def DistinctClasses (entries : List DtRange) : Prop :=
  entries.Pairwise fun range range' =>
    spaceBits (physHi range) ≠ 0 → spaceBits (physHi range') ≠ 0 →
      (spaceBits (physHi range), prefetchBit (physHi range)) ≠
        (spaceBits (physHi range'), prefetchBit (physHi range'))

/-- Every I/O and memory entry is the aperture of its class. -/
def Placed : Prop :=
  ∀ range ∈ ranges.entries, ∀ a, classAperture (physHi range) = some a →
    (rootBridgeDtInitRanges bridge ranges.entries).aperture a = range

/-- The ranges have one base, limit, translation and length. -/
def SameWindow (range range' : DtRange) : Prop :=
  range.rb = range'.rb ∧ range.rl = range'.rl ∧ range.rt = range'.rt ∧
    range.length = range'.length

/-- The two root bridges have the same apertures and VGA windows. -/
def SameApertures (bridge bridge' : PciRootBridge) : Prop :=
  (∀ a, SameWindow (bridge.aperture a) (bridge'.aperture a)) ∧
    SameWindow bridge.vgaMemRange bridge'.vgaMemRange ∧
    SameWindow bridge.vgaIo1Range bridge'.vgaIo1Range ∧
    SameWindow bridge.vgaIo2Range bridge'.vgaIo2Range

/-- The same entry, but for bits of `phys.hi` outside space code and prefetchable
bit. -/
def SameClassEntry (range range' : DtRange) : Prop :=
  range.childBase.setWidth 64 = range'.childBase.setWidth 64 ∧
    spaceBits (physHi range) = spaceBits (physHi range') ∧
    prefetchBit (physHi range) = prefetchBit (physHi range') ∧
    range.parentBase = range'.parentBase ∧
    range.translatedParentBase = range'.translatedParentBase ∧
    range.length = range'.length

/-- Classification by space code, on two lists that differ only in other bits: every
entry becomes the aperture of its class, distinct classes are all placed, and both
lists give the same apertures. -/
def RangesClassified (ranges ranges' : PciHostRanges) : Prop :=
  (∀ range ∈ ranges.entries, EntryClassified range) ∧
    (∀ range ∈ ranges'.entries, EntryClassified range) ∧
    (DistinctClasses ranges.entries → ∀ bridge, Placed bridge ranges) ∧
    ∀ bridge, SameApertures (rootBridgeDtInitRanges bridge ranges.entries)
      (rootBridgeDtInitRanges bridge ranges'.entries)

theorem rangesStep_of_translated (range : DtRange) (h : range.busDtIo = none) :
    rangesStep 3 bridge range =
      match spaceCodeAperture (physHi range) with
      | some a => bridge.setAperture range a
      | none => bridge := by
  have hphysical : rangeHasPhysicalAddress range = true := by
    rw [rangeHasPhysicalAddress, h]
    rfl
  rw [rangesStep, hphysical, Bool.not_true, Bool.and_false, if_neg (by decide)]
  rfl

/-- A root bridge all of whose apertures are one range. -/
def uniformBridge (range : DtRange) : PciRootBridge where
  dtIo := .root ⟨1, 1, 0, 2, 1, 1, 4, true, 0, none, MAX_UINT64⟩
  segment := 0
  configReg := ⟨0, 0, 0, none⟩
  busRange := range
  ioRange := range
  memRange := range
  pMemRange := range
  memAbove4GRange := range
  pMemAbove4GRange := range
  vgaMemRange := range
  vgaIo1Range := range
  vgaIo2Range := range
  dmaAbove4G := true
  noExtendedConfigSpace := false
  keepExistingConfig := false

theorem aperture_uniformBridge (range : DtRange) (a : PciAperture) :
    (uniformBridge range).aperture a = range := by
  cases a <;> rfl

theorem aperture_choice_inj (range : DtRange) (choice choice' : Option PciAperture)
    (h : ∀ bridge : PciRootBridge,
      (match choice with | some a => bridge.setAperture range a | none => bridge) =
        match choice' with | some a => bridge.setAperture range a | none => bridge) :
    choice = choice' := by
  have hother : ({ range with length := range.length + 1 } : DtRange) ≠ range := by
    intro heq
    have hlength : range.length + 1 = range.length := congrArg DtRange.length heq
    have hnat := congrArg BitVec.toNat hlength
    have hlt := range.length.isLt
    have hone : (1 : U128).toNat = 1 := rfl
    rw [BitVec.toNat_add, hone] at hnat
    omega
  have hrun := h (uniformBridge { range with length := range.length + 1 })
  cases choice with
  | none =>
      cases choice' with
      | none => rfl
      | some b =>
          have hb := congrArg (PciRootBridge.aperture · b) hrun
          simp only [PciRootBridge.aperture_setAperture_self, aperture_uniformBridge] at hb
          exact absurd hb hother
  | some a =>
      cases choice' with
      | none =>
          have ha := congrArg (PciRootBridge.aperture · a) hrun
          simp only [PciRootBridge.aperture_setAperture_self, aperture_uniformBridge] at ha
          exact absurd ha.symm hother
      | some b =>
          by_cases hab : a = b
          · rw [hab]
          · have ha := congrArg (PciRootBridge.aperture · a) hrun
            simp only [PciRootBridge.aperture_setAperture_self,
              PciRootBridge.aperture_setAperture_of_ne _ _ _ _ hab,
              aperture_uniformBridge] at ha
            exact absurd ha.symm hother

/-- An entry becomes the aperture of its class exactly when its code is clean. -/
theorem entryClassified_iff (range : DtRange) (h : range.busDtIo = none) :
    EntryClassified range ↔ CleanCode (physHi range) := by
  rw [← spaceCodeAperture_eq_classAperture_iff]
  constructor
  · intro hclassified
    apply aperture_choice_inj range
    intro bridge
    rw [← rangesStep_of_translated bridge range h]
    exact hclassified bridge
  · intro hsame bridge
    rw [rangesStep_of_translated bridge range h, hsame]

/-- The list has a clean code in every entry. -/
def CleanCodes (ranges : PciHostRanges) : Prop :=
  ∀ range ∈ ranges.entries, CleanCode (physHi range)

/-- A fold that only sets apertures by class keeps an aperture no later entry has. -/
theorem aperture_foldl (entries : List DtRange) (bridge : PciRootBridge) (a : PciAperture)
    (hclassified : ∀ range ∈ entries, EntryClassified range)
    (hother : ∀ range ∈ entries, classAperture (physHi range) ≠ some a) :
    (entries.foldl (rangesStep 3) bridge).aperture a = bridge.aperture a := by
  induction entries generalizing bridge with
  | nil => rfl
  | cons range rest ih =>
      have hstep := hclassified range List.mem_cons_self bridge
      have hne := hother range List.mem_cons_self
      rw [List.foldl_cons, ih _ (fun r hr => hclassified r (List.mem_cons_of_mem _ hr))
        (fun r hr => hother r (List.mem_cons_of_mem _ hr)), hstep]
      cases hclass : classAperture (physHi range) with
      | none => rfl
      | some b =>
          refine PciRootBridge.aperture_setAperture_of_ne bridge range b a ?_
          rintro rfl
          exact hne hclass

/-- Space bits and prefetchable bit of an aperture's class. -/
def apertureClass : PciAperture → U32 × U32
  | .io => ( EFI_DT_PCI_HOST_RANGE_IO, 0)
  | .mem => (EFI_DT_PCI_HOST_RANGE_MMIO32, 0)
  | .pMem => (EFI_DT_PCI_HOST_RANGE_MMIO32, EFI_DT_PCI_HOST_RANGE_PREFETCHABLE)
  | .memAbove4G => (EFI_DT_PCI_HOST_RANGE_MMIO64, 0)
  | .pMemAbove4G => (EFI_DT_PCI_HOST_RANGE_MMIO64, EFI_DT_PCI_HOST_RANGE_PREFETCHABLE)

theorem class_of_aperture (code : U32) (a : PciAperture) (hclean : CleanCode code)
    (h : classAperture code = some a) :
    (spaceBits code, prefetchBit code) = apertureClass a := by
  rw [classAperture] at h
  rw [CleanCode] at hclean
  rcases spaceBits_cases code with hs | hs | hs | hs <;>
    rcases prefetchBit_cases code with hp | hp <;>
    rw [hs, hp] at h hclean ⊢ <;> cases a <;> first
    | rfl
    | exact absurd h (by decide)
    | exact absurd (hclean (by decide)).2 (by decide)

theorem spaceBits_of_aperture (code : U32) (a : PciAperture)
    (h : classAperture code = some a) : spaceBits code ≠ 0 := by
  intro hzero
  rw [(classAperture_eq_none_iff code).mpr hzero] at h
  simp at h

/-- With distinct classes, no later entry replaces one that was placed. -/
theorem placed_of_classified (entries : List DtRange) (bridge : PciRootBridge)
    (hclassified : ∀ range ∈ entries, EntryClassified range)
    (hclean : ∀ range ∈ entries, CleanCode (physHi range))
    (hdistinct : DistinctClasses entries) (range : DtRange) (hrange : range ∈ entries)
    (a : PciAperture) (hclass : classAperture (physHi range) = some a) :
    (entries.foldl (rangesStep 3) bridge).aperture a = range := by
  induction entries generalizing bridge with
  | nil => simp at hrange
  | cons first rest ih =>
      rw [DistinctClasses, List.pairwise_cons] at hdistinct
      have hrest : ∀ r ∈ rest, EntryClassified r :=
        fun r hr => hclassified r (List.mem_cons_of_mem _ hr)
      have hcleanRest : ∀ r ∈ rest, CleanCode (physHi r) :=
        fun r hr => hclean r (List.mem_cons_of_mem _ hr)
      rw [List.foldl_cons]
      rcases List.mem_cons.mp hrange with rfl | hmem
      · have hstep := hclassified range List.mem_cons_self bridge
        rw [aperture_foldl rest _ a hrest, hstep, hclass]
        · exact PciRootBridge.aperture_setAperture_self bridge range a
        · intro r hr hsame
          refine hdistinct.1 r hr (spaceBits_of_aperture _ a hclass)
            (spaceBits_of_aperture _ a hsame) ?_
          rw [class_of_aperture _ a (hclean range List.mem_cons_self) hclass,
            class_of_aperture _ a (hcleanRest r hr) hsame]
      · exact ih _ hrest hcleanRest hdistinct.2 hmem

theorem aperture_setVgaWindows (a : PciAperture) :
    (setVgaWindows bridge).aperture a = bridge.aperture a := by
  simp only [setVgaWindows]
  cases a <;> split <;> split <;> rfl

theorem sameWindow_refl (range : DtRange) : SameWindow range range := ⟨rfl, rfl, rfl, rfl⟩

theorem setWidth_sub (x y : U128) : (x - y).setWidth 64 = x.setWidth 64 - y.setWidth 64 := by
  have hsum : ((x - y) + y).setWidth 64 = x.setWidth 64 := by rw [BitVec.sub_add_cancel]
  rw [BitVec.setWidth_add _ _ (by decide)] at hsum
  exact BitVec.eq_sub_iff_add_eq.mpr hsum

/-- Bits of `phys.hi` are beyond the 64 bits of base, limit and translation. -/
theorem sameWindow_of_sameClassEntry (range range' : DtRange)
    (h : SameClassEntry range range') : SameWindow range range' := by
  obtain ⟨hlow, -, -, -, htranslated, hlength⟩ := h
  refine ⟨hlow, ?_, ?_, hlength⟩
  · rw [DtRange.rl, DtRange.rl, setWidth_sub, setWidth_sub,
      BitVec.setWidth_add _ _ (by decide), BitVec.setWidth_add _ _ (by decide), hlow, hlength]
  · rw [DtRange.rt, DtRange.rt, setWidth_sub, setWidth_sub, hlow, htranslated]

theorem rb_vgaWindow (range : DtRange) (base : U64) (size : DtSize) :
    (vgaWindow range base size).rb = range.rb - (range.rb - base) := by
  rw [DtRange.rb, vgaWindow, setWidth_sub, BitVec.setWidth_setWidth_of_le _ (by decide),
    BitVec.setWidth_eq, DtRange.rb]

theorem rl_vgaWindow (range : DtRange) (base : U64) (size : DtSize) :
    (vgaWindow range base size).rl =
      range.rb - (range.rb - base) + size.setWidth 64 - (1 : U128).setWidth 64 := by
  rw [DtRange.rl, setWidth_sub, BitVec.setWidth_add _ _ (by decide)]
  exact congrArg (· + _ - _) (rb_vgaWindow range base size)

theorem rt_vgaWindow (range : DtRange) (base : U64) (size : DtSize) :
    (vgaWindow range base size).rt = range.rt := by
  rw [DtRange.rt, DtRange.rt, vgaWindow]
  congr 1
  rw [BitVec.sub_eq_iff_eq_add, BitVec.sub_eq_iff_eq_add, BitVec.add_assoc,
    BitVec.sub_add_cancel, BitVec.sub_add_cancel]

theorem sameWindow_vgaWindow (range range' : DtRange) (base : U64) (size : DtSize)
    (h : SameWindow range range') :
    SameWindow (vgaWindow range base size) (vgaWindow range' base size) := by
  obtain ⟨hbase, -, htranslation, -⟩ := h
  refine ⟨?_, ?_, ?_, rfl⟩
  · rw [rb_vgaWindow, rb_vgaWindow, hbase]
  · rw [rl_vgaWindow, rl_vgaWindow, hbase]
  · rw [rt_vgaWindow, rt_vgaWindow, htranslation]

theorem vgaMemRange_setVgaWindows :
    (setVgaWindows bridge).vgaMemRange =
      if bridge.memRange.valid then vgaWindow bridge.memRange VGA_MEM_BASE VGA_MEM_SIZE
      else bridge.vgaMemRange := by
  cases hio : bridge.ioRange.valid <;> cases hmem : bridge.memRange.valid <;>
    simp [setVgaWindows, hio, hmem]

theorem vgaIoRanges_setVgaWindows :
    (setVgaWindows bridge).vgaIo1Range =
        (if bridge.ioRange.valid then vgaWindow bridge.ioRange VGA_IO1_BASE VGA_IO1_SIZE
          else bridge.vgaIo1Range) ∧
      (setVgaWindows bridge).vgaIo2Range =
        if bridge.ioRange.valid then vgaWindow bridge.ioRange VGA_IO2_BASE VGA_IO2_SIZE
        else bridge.vgaIo2Range := by
  cases hio : bridge.ioRange.valid <;> cases hmem : bridge.memRange.valid <;>
    simp [setVgaWindows, hio, hmem]

theorem sameApertures_setVgaWindows (bridge bridge' : PciRootBridge)
    (h : SameApertures bridge bridge') :
    SameApertures (setVgaWindows bridge) (setVgaWindows bridge') := by
  obtain ⟨hapertures, hmem, hio1, hio2⟩ := h
  have hvalid (a : PciAperture) : (bridge.aperture a).valid = (bridge'.aperture a).valid := by
    rw [DtRange.valid, DtRange.valid, (hapertures a).2.2.2]
  have hvalidMem : bridge.memRange.valid = bridge'.memRange.valid := hvalid .mem
  have hvalidIo : bridge.ioRange.valid = bridge'.ioRange.valid := hvalid .io
  refine ⟨fun a => ?_, ?_, ?_, ?_⟩
  · rw [aperture_setVgaWindows, aperture_setVgaWindows]
    exact hapertures a
  · rw [vgaMemRange_setVgaWindows, vgaMemRange_setVgaWindows, hvalidMem]
    split
    · exact sameWindow_vgaWindow _ _ _ _ (hapertures .mem)
    · exact hmem
  · rw [(vgaIoRanges_setVgaWindows bridge).1, (vgaIoRanges_setVgaWindows bridge').1, hvalidIo]
    split
    · exact sameWindow_vgaWindow _ _ _ _ (hapertures .io)
    · exact hio1
  · rw [(vgaIoRanges_setVgaWindows bridge).2, (vgaIoRanges_setVgaWindows bridge').2, hvalidIo]
    split
    · exact sameWindow_vgaWindow _ _ _ _ (hapertures .io)
    · exact hio2

theorem sameApertures_setAperture (bridge bridge' : PciRootBridge) (range range' : DtRange)
    (a : PciAperture) (h : SameApertures bridge bridge') (hrange : SameWindow range range') :
    SameApertures (bridge.setAperture range a) (bridge'.setAperture range' a) := by
  obtain ⟨hapertures, hvga⟩ := h
  refine ⟨fun b => ?_, ?_⟩
  · by_cases hb : b = a
    · rw [hb, PciRootBridge.aperture_setAperture_self, PciRootBridge.aperture_setAperture_self]
      exact hrange
    · rw [PciRootBridge.aperture_setAperture_of_ne _ _ _ _ hb,
        PciRootBridge.aperture_setAperture_of_ne _ _ _ _ hb]
      exact hapertures b
  · cases a <;> exact hvga

theorem sameApertures_foldl (entries entries' : List DtRange) (bridge bridge' : PciRootBridge)
    (h : SameApertures bridge bridge')
    (hsame : List.Forall₂ SameClassEntry entries entries')
    (hclassified : ∀ range ∈ entries, EntryClassified range)
    (hclassified' : ∀ range ∈ entries', EntryClassified range) :
    SameApertures (entries.foldl (rangesStep 3) bridge)
      (entries'.foldl (rangesStep 3) bridge') := by
  induction hsame generalizing bridge bridge' with
  | nil => exact h
  | @cons range range' rest rest' hentry hrest ih =>
      rw [List.foldl_cons, List.foldl_cons]
      refine ih _ _ ?_ (fun r hr => hclassified r (List.mem_cons_of_mem _ hr))
        (fun r hr => hclassified' r (List.mem_cons_of_mem _ hr))
      have hclass : classAperture (physHi range) = classAperture (physHi range') := by
        rw [classAperture, classAperture, hentry.2.1, hentry.2.2.1]
      rw [hclassified range List.mem_cons_self bridge,
        hclassified' range' List.mem_cons_self bridge', hclass]
      cases classAperture (physHi range') with
      | none => exact h
      | some a =>
          exact sameApertures_setAperture bridge bridge' range range' a h
            (sameWindow_of_sameClassEntry range range' hentry)

end Lists

/-- Two nodes whose entries differ only in bits of `phys.hi` outside space code and
prefetchable bit. -/
structure RecodedRanges where
  ranges : PciHostRanges
  recoded : PciHostRanges
  same : List.Forall₂ SameClassEntry ranges.entries recoded.entries

/-- Entries are classified by their space code if and only if every I/O and memory
entry of both nodes has no other bit set in its `phys.hi`. -/
theorem ranges_classified_iff (r : RecodedRanges) :
    RangesClassified r.ranges r.recoded ↔ CleanCodes r.ranges ∧ CleanCodes r.recoded := by
  have hclean (ranges : PciHostRanges) :
      (∀ range ∈ ranges.entries, EntryClassified range) ↔ CleanCodes ranges :=
    forall₂_congr fun range hrange => entryClassified_iff range (ranges.translated range hrange)
  constructor
  · rintro ⟨hclassified, hclassified', -⟩
    exact ⟨(hclean _).mp hclassified, (hclean _).mp hclassified'⟩
  · rintro ⟨hcodes, hcodes'⟩
    have hclassified := (hclean r.ranges).mpr hcodes
    have hclassified' := (hclean r.recoded).mpr hcodes'
    refine ⟨hclassified, hclassified', fun hdistinct bridge range hrange a hclass => ?_,
      fun bridge => ?_⟩
    · rw [rootBridgeDtInitRanges_eq, aperture_setVgaWindows]
      exact placed_of_classified _ bridge hclassified hcodes hdistinct range hrange a hclass
    · rw [rootBridgeDtInitRanges_eq, rootBridgeDtInitRanges_eq]
      apply sameApertures_setVgaWindows
      refine sameApertures_foldl _ _ bridge bridge ?_ r.same hclassified hclassified'
      exact ⟨fun a => sameWindow_refl _, sameWindow_refl _, sameWindow_refl _,
        sameWindow_refl _⟩

/-- A memory window of 1 GB whose `phys.hi` cell is `0x82000000`. -/
def relocatableEntry : DtRange :=
  ⟨0x820000000000000040000000, 0x40000000, 0x40000000, 0x40000000, none⟩

def relocatableRanges : PciHostRanges := ⟨[relocatableEntry], by decide⟩

/-- The relocatable window is dropped. -/
theorem relocatable_entry_dropped :
    ¬ RangesClassified relocatableRanges relocatableRanges := by
  intro h
  have hstep := h.1 relocatableEntry (List.mem_singleton.mpr rfl) (uniformBridge ⟨0, 0, 0, 0, none⟩)
  exact absurd (congrArg PciRootBridge.memRange hstep) (by decide)

end FdtBusPkg
