import FdtBusPkg.DtBus.Device

/-!
Devicetree properties and the sequential parser over them. A property is a
cursor into the blob; the cursor stays between the beginning and the end of the
property data, which is a field of the structure. Every parser returns the
cursor it leaves behind, on failure as well.
-/
namespace FdtBusPkg

/-- `fdt32_to_cpu` on a little-endian processor. -/
def fdt32ToCpu (x : U32) : U32 :=
  (x.extractLsb' 0 8 ++ x.extractLsb' 8 8) ++ (x.extractLsb' 16 8 ++ x.extractLsb' 24 8)

/-- A 32-bit load from the blob, least significant byte first. -/
def loadCell (mem : Nat → U8) (a : Nat) : U32 :=
  (mem (a + 3) ++ mem (a + 2)) ++ (mem (a + 1) ++ mem a)

/-- `EFI_DT_PROPERTY`. -/
structure DtProperty where
  begin_ : Nat
  iter : Nat
  end_ : Nat
  begin_le : begin_ ≤ iter
  iter_le : iter ≤ end_
  deriving DecidableEq, Repr

namespace DtProperty

/-- `(Prop->End - Prop->Iter) / sizeof (EFI_DT_CELL)`. -/
def cells (p : DtProperty) : Nat := (p.end_ - p.iter) / 4

/-- The property returned by `fdt_getprop` for a buffer and its length. -/
def ofBuf (buf len : Nat) : DtProperty :=
  ⟨buf, buf, buf + len, Nat.le_refl buf, Nat.le_add_right buf len⟩

/-- `Iter` moved by a number of cells that the property still holds. -/
def advance (p : DtProperty) (n : Nat) (h : n ≤ p.cells) : DtProperty where
  begin_ := p.begin_
  iter := p.iter + 4 * n
  end_ := p.end_
  begin_le := Nat.le_trans p.begin_le (Nat.le_add_right _ _)
  iter_le := by
    have := p.iter_le
    unfold cells at h
    omega

/-- `Iter += n` followed by the check that it did not pass `End`. -/
def skip? (p : DtProperty) (n : Nat) : Option DtProperty :=
  if h : n ≤ p.cells then some (p.advance n h) else none

@[simp] theorem begin_advance (p : DtProperty) (n : Nat) (h : n ≤ p.cells) :
    (p.advance n h).begin_ = p.begin_ := rfl
@[simp] theorem iter_advance (p : DtProperty) (n : Nat) (h : n ≤ p.cells) :
    (p.advance n h).iter = p.iter + 4 * n := rfl
@[simp] theorem end_advance (p : DtProperty) (n : Nat) (h : n ≤ p.cells) :
    (p.advance n h).end_ = p.end_ := rfl

@[simp] theorem cells_advance (p : DtProperty) (n : Nat) (h : n ≤ p.cells) :
    (p.advance n h).cells = p.cells - n := by
  simp only [cells, iter_advance, end_advance]
  omega

theorem advance_zero (p : DtProperty) : p.advance 0 (Nat.zero_le _) = p := rfl

theorem advance_advance (p : DtProperty) (m n : Nat) (hm : m ≤ p.cells)
    (hn : n ≤ (p.advance m hm).cells) :
    (p.advance m hm).advance n hn =
      p.advance (m + n) (by rw [cells_advance] at hn; omega) := by
  simp only [advance, mk.injEq, true_and, and_true]
  omega

theorem four_mul_cells_le (p : DtProperty) : p.iter + 4 * p.cells ≤ p.end_ := by
  have := p.iter_le
  unfold cells
  omega

theorem elem_le_cells (p : DtProperty) (elemCells index : Nat)
    (h : ¬ p.cells / elemCells ≤ index) : elemCells * (index + 1) ≤ p.cells := by
  have hlt : index + 1 ≤ p.cells / elemCells := Nat.lt_of_not_le h
  calc elemCells * (index + 1) ≤ elemCells * (p.cells / elemCells) :=
        Nat.mul_le_mul_left _ hlt
    _ ≤ p.cells := Nat.mul_div_le _ _

theorem cell_le_cells (p : DtProperty) (index : Nat) (h : ¬ p.cells ≤ index) :
    index + 1 ≤ p.cells :=
  Nat.lt_of_not_le h

/-- `q` is a later position in the same property. -/
def Follows (p q : DtProperty) : Prop :=
  q.begin_ = p.begin_ ∧ q.end_ = p.end_ ∧ p.iter ≤ q.iter

theorem follows_refl (p : DtProperty) : Follows p p := ⟨rfl, rfl, Nat.le_refl _⟩

theorem follows_trans {p q r : DtProperty} (hpq : Follows p q) (hqr : Follows q r) :
    Follows p r :=
  ⟨hqr.1.trans hpq.1, hqr.2.1.trans hpq.2.1, Nat.le_trans hpq.2.2 hqr.2.2⟩

theorem follows_advance (p : DtProperty) (n : Nat) (h : n ≤ p.cells) :
    Follows p (p.advance n h) :=
  ⟨rfl, rfl, Nat.le_add_right _ _⟩

theorem follows_skip? (p q : DtProperty) (n : Nat) (h : p.skip? n = some q) : Follows p q := by
  rw [skip?] at h
  split at h
  · rw [← Option.some.inj h]
    exact follows_advance p n _
  · exact absurd h (by simp)

/-- A cell at an address lies between the cursor and the end of a property. -/
def Inside (p : DtProperty) (a : Nat) : Prop := p.iter ≤ a ∧ a + 4 ≤ p.end_

theorem Follows.inside {p q : DtProperty} (h : p.Follows q) {a : Nat} (ha : q.Inside a) :
    p.Inside a :=
  ⟨Nat.le_trans h.2.2 ha.1, h.2.1 ▸ ha.2⟩

theorem inside_cell (p : DtProperty) {i : Nat} (hi : i < p.cells) :
    p.Inside (p.iter + 4 * i) := by
  have := p.four_mul_cells_le
  exact ⟨Nat.le_add_right _ _, by omega⟩

/-- `q` is `p` after a number of cells. -/
def Moved (p q : DtProperty) (n : Nat) : Prop := ∃ h : n ≤ p.cells, q = p.advance n h

theorem moved_trans {p q r : DtProperty} {m n : Nat} (hpq : Moved p q m) (hqr : Moved q r n) :
    Moved p r (m + n) := by
  obtain ⟨hm, rfl⟩ := hpq
  obtain ⟨hn, rfl⟩ := hqr
  exact ⟨by rw [cells_advance] at hn; omega, advance_advance p m n hm hn⟩

end DtProperty

/-- The loop that assembles an element: `*Value |= cell << (32 * remaining)`. -/
def loadElem (mem : Nat → U8) : Nat → Nat → U128 → U128
  | 0, _, value => value
  | remaining + 1, buf, value =>
    loadElem mem remaining (buf + 4)
      (value ||| (fdt32ToCpu (loadCell mem buf)).setWidth 128 <<< (32 * remaining))

/-- The elements of `elemCells` cells each: the bounds check of the parsers,
the value and the advanced cursor. `elemCells` is not zero here. -/
def parseElem (mem : Nat → U8) (elemCells : Nat) (p : DtProperty) (index : Nat) :
    EfiResult U128 × DtProperty :=
  if h : p.cells / elemCells ≤ index then
    (.error .notFound, p)
  else
    (.ok (loadElem mem elemCells (p.iter + 4 * (elemCells * index)) 0#128),
      p.advance (elemCells * (index + 1)) (p.elem_le_cells elemCells index h))

/-- Addresses: an element without cells cannot be parsed. -/
def parseAddressElem (mem : Nat → U8) (elemCells : CellCount) (p : DtProperty)
    (index : Nat) : EfiResult U128 × DtProperty :=
  if elemCells.val = 0 then
    (.error .notFound, p)
  else
    parseElem mem elemCells.val p index

/-- Sizes: an element without cells is a zero that takes no space. -/
def parseSizeElem (mem : Nat → U8) (elemCells : CellCount) (p : DtProperty)
    (index : Nat) : EfiResult U128 × DtProperty :=
  if elemCells.val = 0 then
    (.ok 0#128, p)
  else
    parseElem mem elemCells.val p index

def dtIoParsePropU32 (mem : Nat → U8) (p : DtProperty) (index : Nat) :
    EfiResult U32 × DtProperty :=
  if h : p.cells ≤ index then
    (.error .notFound, p)
  else
    (.ok (fdt32ToCpu (loadCell mem (p.iter + 4 * index))),
      p.advance (index + 1) (p.cell_le_cells index h))

def dtIoParsePropU64 (mem : Nat → U8) (p : DtProperty) (index : Nat) :
    EfiResult U64 × DtProperty :=
  let (value, p) := parseElem mem 2 p index
  (value.map (BitVec.setWidth 64), p)

def dtIoParsePropBusAddress (mem : Nat → U8) (device : DtDevice) (p : DtProperty)
    (index : Nat) : EfiResult DtBusAddress × DtProperty :=
  parseAddressElem mem device.info.addressCells p index

def dtIoParsePropChildBusAddress (mem : Nat → U8) (device : DtDevice) (p : DtProperty)
    (index : Nat) : EfiResult DtBusAddress × DtProperty :=
  parseAddressElem mem device.info.childAddressCells p index

def dtIoParsePropSize (mem : Nat → U8) (device : DtDevice) (p : DtProperty)
    (index : Nat) : EfiResult DtSize × DtProperty :=
  parseSizeElem mem device.info.sizeCells p index

def dtIoParsePropChildSize (mem : Nat → U8) (device : DtDevice) (p : DtProperty)
    (index : Nat) : EfiResult DtSize × DtProperty :=
  parseSizeElem mem device.info.childSizeCells p index

/-- The failures of `fdt_getprop`. -/
inductive FdtError
  | notFound
  | other
  deriving DecidableEq, Repr

/-- The flattened devicetree: the blob's bytes and `fdt_getprop`, which returns
the address and the length of a property's data. -/
structure Fdt where
  mem : Nat → U8
  getprop : Int → String → Except FdtError (Nat × Nat)

def dtIoGetProp (fdt : Fdt) (device : DtDevice) (name : String) : EfiResult DtProperty :=
  match fdt.getprop device.info.fdtNode name with
  | .error .notFound => .error .notFound
  | .error .other => .error .deviceError
  | .ok (buf, len) => .ok (DtProperty.ofBuf buf len)

def dtIoGetU32 (fdt : Fdt) (device : DtDevice) (name : String) (index : Nat) :
    EfiResult U32 :=
  match dtIoGetProp fdt device name with
  | .error e => .error e
  | .ok p => (dtIoParsePropU32 fdt.mem p index).1

section Lemmas

variable (mem : Nat → U8) (p : DtProperty)

theorem parseElem_zero (n : Nat) :
    parseElem mem n p 0 =
      if h : n ≤ p.cells ∧ 0 < n then
        (.ok (loadElem mem n p.iter 0#128), p.advance n h.1)
      else (.error .notFound, p) := by
  unfold parseElem
  by_cases h : p.cells / n ≤ 0
  · rw [dif_pos h]
    have hno : ¬ (n ≤ p.cells ∧ 0 < n) := by
      rintro ⟨hle, hpos⟩
      exact absurd (Nat.div_pos hle hpos) (Nat.not_lt.mpr h)
    rw [dif_neg hno]
  · rw [dif_neg h]
    have hle : n ≤ p.cells := by simpa using p.elem_le_cells n 0 h
    have hpos : 0 < n := by
      rcases Nat.eq_zero_or_pos n with rfl | hpos
      · simp at h
      · exact hpos
    rw [dif_pos ⟨hle, hpos⟩]
    simp

/-- Elements that are not there are all that a bus address can fail on. -/
theorem dtIoParsePropBusAddress_error (device : DtDevice) (index : Nat) (e : EfiError)
    (h : (dtIoParsePropBusAddress mem device p index).1 = .error e) : e = .notFound := by
  rw [dtIoParsePropBusAddress, parseAddressElem] at h
  split at h
  · exact (Except.error.inj h).symm
  · rw [parseElem] at h
    split at h
    · exact (Except.error.inj h).symm
    · cases h

end Lemmas

end FdtBusPkg
