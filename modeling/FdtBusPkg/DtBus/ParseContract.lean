import Mathlib.Tactic.Ring
import FdtBusPkg.DtBus.ParseProp

/-!
The contract of `ParseProp`: confinement to the property, exact movement of the
cursor, big-endian values and atomic failure, for every value type.
-/
namespace FdtBusPkg

section Cells

variable (mem : Nat → U8)

theorem toNat_append_eq {m n : Nat} (x : BitVec m) (y : BitVec n) :
    (x ++ y).toNat = x.toNat * 2 ^ n + y.toNat := by
  rw [BitVec.toNat_append, ← Nat.shiftLeft_add_eq_or_of_lt y.isLt, Nat.shiftLeft_eq]

theorem toNat_loadCell (a : Nat) :
    (loadCell mem a).toNat = (mem (a + 3)).toNat * 16777216 + (mem (a + 2)).toNat * 65536 +
      (mem (a + 1)).toNat * 256 + (mem a).toNat := by
  rw [loadCell, toNat_append_eq, toNat_append_eq, toNat_append_eq]
  omega

theorem value_bytesAt_four (a : Nat) :
    BigEndian.value (BigEndian.bytesAt mem a 4) = (mem a).toNat * 16777216 +
      (mem (a + 1)).toNat * 65536 + (mem (a + 2)).toNat * 256 + (mem (a + 3)).toNat := by
  simp [BigEndian.bytesAt, BigEndian.value, Nat.add_assoc]

theorem toNat_fdt32ToCpu (a : Nat) :
    (fdt32ToCpu (loadCell mem a)).toNat = BigEndian.value (BigEndian.bytesAt mem a 4) := by
  have h0 := (mem a).isLt
  have h1 := (mem (a + 1)).isLt
  have h2 := (mem (a + 2)).isLt
  have h3 := (mem (a + 3)).isLt
  have hload := toNat_loadCell mem a
  rw [value_bytesAt_four]
  generalize loadCell mem a = x at hload
  rw [fdt32ToCpu, toNat_append_eq, toNat_append_eq, toNat_append_eq]
  simp only [BitVec.extractLsb'_toNat, Nat.shiftRight_eq_div_pow]
  omega

/-- The loop shifts the value so far out of the way of the cells to come. -/
theorem toNat_loadElem (cells buf high : Nat) (acc : U128) (hcells : cells ≤ 4)
    (hacc : acc.toNat = high * 2 ^ (32 * cells)) :
    (loadElem mem cells buf acc).toNat =
      high * 2 ^ (32 * cells) + BigEndian.value (BigEndian.bytesAt mem buf (4 * cells)) := by
  induction cells generalizing buf high acc with
  | zero =>
      rw [loadElem, hacc]
      rfl
  | succ cells ih =>
      have hcell : (fdt32ToCpu (loadCell mem buf)).toNat < 2 ^ 32 := BitVec.isLt _
      have hbytes := toNat_fdt32ToCpu mem buf
      rw [loadElem]
      generalize fdt32ToCpu (loadCell mem buf) = cell at hcell hbytes ⊢
      have hpow : 2 ^ (32 * (cells + 1)) = 2 ^ 32 * 2 ^ (32 * cells) := by
        rw [← Nat.pow_add]
        congr 1
        omega
      have hword : 2 ^ (32 * (cells + 1)) ≤ 2 ^ 128 := Nat.pow_le_pow_right (by omega) (by omega)
      have hless : cell.toNat * 2 ^ (32 * cells) < 2 ^ (32 * (cells + 1)) := by
        rw [hpow]
        exact Nat.mul_lt_mul_of_pos_right hcell (Nat.two_pow_pos _)
      have hshift : (cell.setWidth 128 <<< (32 * cells)).toNat = cell.toNat * 2 ^ (32 * cells) := by
        rw [BitVec.toNat_shiftLeft, BitVec.toNat_setWidth, Nat.shiftLeft_eq,
          Nat.mod_eq_of_lt (a := cell.toNat) (by omega), Nat.mod_eq_of_lt (by omega)]
      have hnext : (acc ||| cell.setWidth 128 <<< (32 * cells)).toNat =
          (high * 2 ^ 32 + cell.toNat) * 2 ^ (32 * cells) := by
        rw [BitVec.toNat_or, hshift, hacc, Nat.mul_comm high,
          ← Nat.two_pow_add_eq_or_of_lt hless, hpow, Nat.add_mul, Nat.mul_assoc,
          Nat.mul_comm (2 ^ 32), Nat.mul_comm (2 ^ (32 * cells)), Nat.mul_assoc]
        ring
      have hsplit : BigEndian.value (BigEndian.bytesAt mem buf (4 * (cells + 1))) =
          cell.toNat * 2 ^ (32 * cells) +
            BigEndian.value (BigEndian.bytesAt mem (buf + 4) (4 * cells)) := by
        rw [show 4 * (cells + 1) = 4 + 4 * cells by omega, BigEndian.bytesAt_add,
          BigEndian.value_append, BigEndian.length_bytesAt, ← hbytes, Nat.pow_mul 256 4 cells,
          Nat.pow_mul 2 32 cells]
      rw [ih (buf + 4) _ _ (by omega) hnext, hsplit, hpow]
      ring

theorem loadElem_congr (mem' : Nat → U8) (cells buf : Nat) (acc : U128)
    (h : BigEndian.AgreeOn mem mem' buf (buf + 4 * cells)) :
    loadElem mem cells buf acc = loadElem mem' cells buf acc := by
  induction cells generalizing buf acc with
  | zero => rfl
  | succ cells ih =>
      have hcell : loadCell mem buf = loadCell mem' buf := by
        rw [loadCell, loadCell, h buf (Nat.le_refl _) (by omega), h (buf + 1) (by omega) (by omega),
          h (buf + 2) (by omega) (by omega), h (buf + 3) (by omega) (by omega)]
      rw [loadElem, loadElem, hcell,
        ih _ _ (BigEndian.agreeOn_sub h (by omega) (by omega))]

end Cells

/-- What the parsers of cells keep: the element is the one at the index, its value is
the big-endian one, and a failure does not move the cursor. -/
def ParsedCells (mem : Nat → U8) (p : DtProperty) (cells index : Nat) :
    EfiResult U128 × DtProperty → Prop
  | (.ok v, q) => p.Moved q (cells * (index + 1)) ∧
      v.toNat = BigEndian.value (BigEndian.bytesAt mem (p.iter + 4 * (cells * index)) (4 * cells))
  | (.error _, q) => q = p

section Elements

variable (mem : Nat → U8) (p : DtProperty)

theorem parsedCells_parseElem (cells index : Nat) (hcells : cells ≤ 4) :
    ParsedCells mem p cells index (parseElem mem cells p index) := by
  rw [parseElem]
  split
  · exact rfl
  · next hin =>
    refine ⟨⟨p.elem_le_cells cells index hin, rfl⟩, ?_⟩
    have hload := toNat_loadElem mem cells (p.iter + 4 * (cells * index)) 0 0#128 hcells
      (Nat.zero_mul _).symm
    rw [hload, Nat.zero_mul, Nat.zero_add]

theorem parsedCells_parseAddressElem (cells : CellCount) (index : Nat) :
    ParsedCells mem p cells.val index (parseAddressElem mem cells p index) := by
  rw [parseAddressElem]
  split
  · exact rfl
  · exact parsedCells_parseElem mem p cells.val index (Nat.le_of_lt_succ cells.isLt)

theorem parsedCells_parseSizeElem (cells : CellCount) (index : Nat) :
    ParsedCells mem p cells.val index (parseSizeElem mem cells p index) := by
  rw [parseSizeElem]
  split
  · next hzero =>
    rw [hzero]
    refine ⟨⟨by omega, ?_⟩, rfl⟩
    simp only [Nat.zero_mul]
    rfl
  · exact parsedCells_parseElem mem p cells.val index (Nat.le_of_lt_succ cells.isLt)

theorem parseElem_congr (mem' : Nat → U8) (cells index : Nat)
    (h : BigEndian.AgreeOn mem mem' p.iter p.end_) :
    parseElem mem cells p index = parseElem mem' cells p index := by
  rw [parseElem, parseElem]
  split
  · rfl
  · next hin =>
    have hfit := p.elem_le_cells cells index hin
    have hend := p.four_mul_cells_le
    have hstop : p.iter + 4 * (cells * index) + 4 * cells ≤ p.end_ := by
      rw [Nat.mul_add, Nat.mul_one] at hfit
      omega
    rw [loadElem_congr mem mem' _ _ _ (BigEndian.agreeOn_sub h (by omega) hstop)]

theorem parseAddressElem_congr (mem' : Nat → U8) (cells : CellCount) (index : Nat)
    (h : BigEndian.AgreeOn mem mem' p.iter p.end_) :
    parseAddressElem mem cells p index = parseAddressElem mem' cells p index := by
  rw [parseAddressElem, parseAddressElem, parseElem_congr mem p mem' _ _ h]

theorem parseSizeElem_congr (mem' : Nat → U8) (cells : CellCount) (index : Nat)
    (h : BigEndian.AgreeOn mem mem' p.iter p.end_) :
    parseSizeElem mem cells p index = parseSizeElem mem' cells p index := by
  rw [parseSizeElem, parseSizeElem, parseElem_congr mem p mem' _ _ h]

theorem dtIoParsePropU32_congr (mem' : Nat → U8) (index : Nat)
    (h : BigEndian.AgreeOn mem mem' p.iter p.end_) :
    dtIoParsePropU32 mem p index = dtIoParsePropU32 mem' p index := by
  rw [dtIoParsePropU32, dtIoParsePropU32]
  split
  · rfl
  · next hin =>
    have hend := p.four_mul_cells_le
    have hcell : loadCell mem (p.iter + 4 * index) = loadCell mem' (p.iter + 4 * index) := by
      rw [loadCell, loadCell, h _ _ _, h _ _ _, h _ _ _, h _ _ _] <;> omega
    rw [hcell]

theorem moved_dtIoParsePropU32 (index : Nat) (v : U32) (q : DtProperty)
    (h : dtIoParsePropU32 mem p index = (.ok v, q)) :
    p.Moved q (1 * (index + 1)) ∧
      v.toNat = BigEndian.value (BigEndian.bytesAt mem (p.iter + 4 * (1 * index)) (4 * 1)) := by
  rw [dtIoParsePropU32] at h
  split at h
  · exact absurd h (by simp)
  · next hin =>
    have hvalue := Except.ok.inj (Prod.mk.inj h).1
    rw [← hvalue, Nat.one_mul, Nat.one_mul, toNat_fdt32ToCpu]
    exact ⟨⟨Nat.lt_of_not_le hin, (Prod.mk.inj h).2.symm⟩, rfl⟩

end Elements

/-- The numbers of a value, in the order in which the property holds them. -/
def DtValue.numbers : DtValue → List Nat
  | .u32 v => [v.toNat]
  | .u64 v => [v.toNat]
  | .address v => [v.toNat]
  | .size v => [v.toNat]
  | .reg r => [r.busBase.toNat, r.length.toNat]
  | .range r => [r.childBase.toNat, r.parentBase.toNat, r.length.toNat]
  | .string _ => []
  | .device _ => []

namespace DtValueType

def numberCells (d : DtDevice) : DtValueType → List Nat
  | u32 => [1]
  | u64 => [2]
  | u128 => [4]
  | busAddress => [d.info.addressCells.val]
  | childBusAddress => [d.info.childAddressCells.val]
  | size => [d.info.sizeCells.val]
  | childSize => [d.info.childSizeCells.val]
  | reg => [d.info.addressCells.val, d.info.sizeCells.val]
  | range => [d.info.childAddressCells.val, d.info.addressCells.val,
      d.info.childSizeCells.val]
  | string => []
  | device => []

/-- The cells of an element; a string is not made of cells. -/
def elementCells (d : DtDevice) : DtValueType → Option Nat
  | string => none
  | device => some 1
  | type => some (type.numberCells d).sum

end DtValueType

/-- Big-endian numbers one after the other, of the given cells each. -/
def numbersAt (mem : Nat → U8) : Nat → List Nat → List Nat
  | _, [] => []
  | a, cells :: rest =>
    BigEndian.value (BigEndian.bytesAt mem a (4 * cells)) :: numbersAt mem (a + 4 * cells) rest

/-- The element of a type at an index, counted from the cursor, is `[start, stop)`. -/
def ElementAt (mem : Nat → U8) (device : DtDevice) (p : DtProperty) (type : DtValueType)
    (index start stop : Nat) : Prop :=
  match type.elementCells device with
  | none => StringAt mem index p.iter start stop
  | some cells => start = p.iter + 4 * (cells * index) ∧ stop = p.iter + 4 * (cells * (index + 1))

/-- Two devicetrees with the same bytes in `[Iter, End)`, where translation, the companion
properties and lookup, which go outside the property on purpose, have the same results. -/
structure SameOutside (bus bus' : DtBus) (device : DtDevice) (p : DtProperty) : Prop where
  bytes : BigEndian.AgreeOn bus.fdt.mem bus'.fdt.mem p.iter p.end_
  translate (base : DtBusAddress) (length : DtSize) :
    dtDeviceTranslateRangeToCpu bus.fdt device base length =
      dtDeviceTranslateRangeToCpu bus'.fdt device base length
  companion (isReg : Bool) (index : Nat) :
    dtPropGetRegOrRangeEfiTypeAndAttrs bus.fdt device isReg index =
      dtPropGetRegOrRangeEfiTypeAndAttrs bus'.fdt device isReg index
  nodeOffset : bus.nodeOffsetByPhandle = bus'.nodeOffsetByPhandle
  nodePath : bus.nodePath = bus'.nodePath
  lookup : bus.lookup = bus'.lookup

section Contract

variable {σ : Type} (bus : DtBus) (applyGcd : ApplyGcd σ) (device : DtDevice) (p : DtProperty)

/-- A successful call: the value, and the property it leaves. -/
structure ParsedElement (type : DtValueType) (index : Nat) (v : DtValue) (q : DtProperty) :
    Prop where
  begin_eq : q.begin_ = p.begin_
  end_eq : q.end_ = p.end_
  iter_le : q.iter ≤ p.end_
  element : ∃ start, ElementAt bus.fdt.mem device p type index start q.iter ∧
    v.numbers = numbersAt bus.fdt.mem start (type.numberCells device) ∧
    ∀ s, v = .string s → s = start

structure ParseContract (type : DtValueType) (index : Nat) (s : σ) : Prop where
  reads (bus' : DtBus) (h : SameOutside bus bus' device p) :
    dtIoParseProp bus' applyGcd device p type index s =
      dtIoParseProp bus applyGcd device p type index s
  success (v : DtValue) (q : DtProperty) (s' : σ)
    (h : dtIoParseProp bus applyGcd device p type index s = ((.ok v, q), s')) :
    ParsedElement bus device p type index v q
  failure (e : EfiError) (q : DtProperty) (s' : σ)
    (h : dtIoParseProp bus applyGcd device p type index s = ((.error e, q), s')) : q = p

theorem parsedElement_of_cells (type : DtValueType) (index cells : Nat) (v : DtValue)
    (q : DtProperty) (hcells : type.elementCells device = some cells)
    (hmoved : p.Moved q (cells * (index + 1)))
    (hnumbers : v.numbers =
      numbersAt bus.fdt.mem (p.iter + 4 * (cells * index)) (type.numberCells device))
    (hstring : ∀ s, v ≠ .string s) : ParsedElement bus device p type index v q := by
  have hend := p.four_mul_cells_le
  obtain ⟨hfit, rfl⟩ := hmoved
  refine ⟨rfl, rfl, ?_, p.iter + 4 * (cells * index), ?_, hnumbers,
    fun s hs => absurd hs (hstring s)⟩
  · rw [DtProperty.iter_advance]
    omega
  · rw [ElementAt, hcells]
    exact ⟨rfl, rfl⟩

end Contract

section Entries

variable (mem : Nat → U8)

theorem parsedCells_zero (p q : DtProperty) (cells : Nat) (v : U128)
    (h : ParsedCells mem p cells 0 (.ok v, q)) :
    q.iter = p.iter + 4 * cells ∧ q.end_ = p.end_ ∧
      v.toNat = BigEndian.value (BigEndian.bytesAt mem p.iter (4 * cells)) := by
  obtain ⟨⟨hfit, rfl⟩, hvalue⟩ := h
  rw [Nat.mul_zero] at hvalue
  refine ⟨?_, rfl, hvalue⟩
  rw [DtProperty.iter_advance, Nat.zero_add, Nat.mul_one]

theorem agreeOn_of_moved {mem' : Nat → U8} {p q : DtProperty} {n : Nat}
    (h : BigEndian.AgreeOn mem mem' p.iter p.end_) (hmoved : p.Moved q n) :
    BigEndian.AgreeOn mem mem' q.iter q.end_ := by
  obtain ⟨hfit, rfl⟩ := hmoved
  exact BigEndian.agreeOn_sub h (Nat.le_add_right _ _) (Nat.le_refl _)

namespace EntryKind

def valueType : EntryKind → DtValueType
  | reg => .reg
  | range => .range

end EntryKind

def DtValue.ofEntry : DtReg ⊕ DtRange → DtValue
  | .inl r => .reg r
  | .inr r => .range r

theorem numbers_entryFields (kind : EntryKind) (device : DtDevice) (entry : DtProperty)
    (f : EntryFields) (t : DtBusAddress × Option DtIoRef)
    (h : entryFields kind device mem entry = .ok f) :
    (DtValue.ofEntry (f.value t)).numbers =
      numbersAt mem entry.iter (kind.valueType.numberCells device) := by
  cases kind with
  | reg =>
      rw [entryFields] at h
      split at h
      · exact absurd h (by simp)
      · next busBase q hbase =>
        split at h
        · exact absurd h (by simp)
        · next length q' hsize =>
          have haddress := parsedCells_parseAddressElem mem entry device.info.addressCells 0
          have hlength := parsedCells_parseSizeElem mem q device.info.sizeCells 0
          rw [← dtIoParsePropBusAddress, hbase] at haddress
          rw [← dtIoParsePropSize, hsize] at hlength
          obtain ⟨hiter, -, hbaseValue⟩ := parsedCells_zero mem _ _ _ _ haddress
          obtain ⟨-, -, hlengthValue⟩ := parsedCells_zero mem _ _ _ _ hlength
          rw [← Except.ok.inj h]
          simp only [DtValue.ofEntry, DtValue.numbers, EntryKind.valueType,
            DtValueType.numberCells, numbersAt, hbaseValue, hlengthValue, hiter]
  | range =>
      rw [entryFields] at h
      split at h
      · exact absurd h (by simp)
      · next childBase q hchild =>
        split at h
        · exact absurd h (by simp)
        · next parentBase q' hparent =>
          split at h
          · exact absurd h (by simp)
          · next length q'' hsize =>
            have haddress := parsedCells_parseAddressElem mem entry device.info.childAddressCells 0
            have hbase := parsedCells_parseAddressElem mem q device.info.addressCells 0
            have hlength := parsedCells_parseSizeElem mem q' device.info.childSizeCells 0
            rw [← dtIoParsePropChildBusAddress, hchild] at haddress
            rw [← dtIoParsePropBusAddress, hparent] at hbase
            rw [← dtIoParsePropChildSize, hsize] at hlength
            obtain ⟨hiter, -, hchildValue⟩ := parsedCells_zero mem _ _ _ _ haddress
            obtain ⟨hiter', -, hparentValue⟩ := parsedCells_zero mem _ _ _ _ hbase
            obtain ⟨-, -, hlengthValue⟩ := parsedCells_zero mem _ _ _ _ hlength
            rw [← Except.ok.inj h]
            simp only [DtValue.ofEntry, DtValue.numbers, EntryKind.valueType,
              DtValueType.numberCells, numbersAt, hchildValue, hparentValue, hlengthValue, hiter,
              hiter']

theorem entryFields_congr (mem' : Nat → U8) (kind : EntryKind) (device : DtDevice)
    (entry : DtProperty) (h : BigEndian.AgreeOn mem mem' entry.iter entry.end_) :
    entryFields kind device mem entry = entryFields kind device mem' entry := by
  cases kind with
  | reg =>
      rw [entryFields, entryFields, dtIoParsePropBusAddress, dtIoParsePropBusAddress,
        parseAddressElem_congr mem entry mem' _ _ h]
      split
      · rfl
      · next busBase q hbase =>
        have hq := agreeOn_of_moved mem h (moved_parseAddressElem mem' _ _ _ _ hbase)
        rw [dtIoParsePropSize, dtIoParsePropSize, parseSizeElem_congr mem q mem' _ _ hq]
  | range =>
      rw [entryFields, entryFields, dtIoParsePropChildBusAddress, dtIoParsePropChildBusAddress,
        parseAddressElem_congr mem entry mem' _ _ h]
      split
      · rfl
      · next childBase q hchild =>
        have hq := agreeOn_of_moved mem h (moved_parseAddressElem mem' _ _ _ _ hchild)
        rw [dtIoParsePropBusAddress, dtIoParsePropBusAddress,
          parseAddressElem_congr mem q mem' _ _ hq]
        split
        · rfl
        · next parentBase q' hparent =>
          have hq' := agreeOn_of_moved mem hq (moved_parseAddressElem mem' _ _ _ _ hparent)
          rw [dtIoParsePropChildSize, dtIoParsePropChildSize,
            parseSizeElem_congr mem q' mem' _ _ hq']

end Entries

section Cases

variable {σ : Type} (bus : DtBus) (applyGcd : ApplyGcd σ) (device : DtDevice) (p : DtProperty)

theorem dtIoParseProp_entry (kind : EntryKind) (index : Nat) (s : σ) :
    dtIoParseProp bus applyGcd device p kind.valueType index s =
      let r := parsePropEntry kind bus.fdt applyGcd device p index s
      ((r.1.1.map DtValue.ofEntry, r.1.2), r.2) := by
  cases kind with
  | reg =>
      simp only [EntryKind.valueType, dtIoParseProp, parsePropEntry]
      cases (dtIoParsePropReg bus.fdt applyGcd device p index s).1.1 <;> rfl
  | range =>
      simp only [EntryKind.valueType, dtIoParseProp, parsePropEntry]
      cases (dtIoParsePropRange bus.fdt applyGcd device p index s).1.1 <;> rfl

/-- A call on an entry either fails in place or returns the fields of that entry. -/
theorem parsePropEntry_cases (kind : EntryKind) (index : Nat) (s : σ) :
    (∃ e, (parsePropEntry kind bus.fdt applyGcd device p index s).1 = (.error e, p)) ∨
      ∃ entry f t, entryAt kind device p index = some entry ∧
        entryFields kind device bus.fdt.mem entry = .ok f ∧
        (parsePropEntry kind bus.fdt applyGcd device p index s).1 = (.ok (f.value t), f.next) := by
  rw [parsePropEntry_eq]
  cases entryAt kind device p index with
  | none => exact .inl ⟨_, rfl⟩
  | some entry =>
      dsimp only
      cases hfields : entryFields kind device bus.fdt.mem entry with
      | error e => exact .inl ⟨e, rfl⟩
      | ok f =>
          dsimp only
          split
          · next e u happly => exact .inl ⟨e, rfl⟩
          · next t u happly => exact .inr ⟨entry, f, t, rfl, hfields, rfl⟩

theorem moved_entryAt (kind : EntryKind) (index : Nat) (entry : DtProperty)
    (h : entryAt kind device p index = some entry) : p.Moved entry (kind.cells device * index) := by
  rw [entryAt] at h
  split at h
  · exact absurd h (by simp)
  · split at h
    · exact absurd h (by simp)
    · exact ⟨_, (Option.some.inj h).symm⟩

theorem elementCells_valueType (kind : EntryKind) :
    kind.valueType.elementCells device = some (kind.cells device) := by
  cases kind with
  | reg => rfl
  | range =>
      simp only [EntryKind.valueType, DtValueType.elementCells, DtValueType.numberCells,
        EntryKind.cells, tripletCells, List.sum_cons, List.sum_nil]
      congr 1
      omega

theorem parseContract_entry (kind : EntryKind) (index : Nat) (s : σ) :
    ParseContract bus applyGcd device p kind.valueType index s := by
  refine ⟨fun bus' hsame => ?_, fun v q s' h => ?_, fun e q s' h => ?_⟩
  · have hentries : ∀ entry, entryAt kind device p index = some entry →
        entryFields kind device bus'.fdt.mem entry = entryFields kind device bus.fdt.mem entry := by
      intro entry hentry
      exact (entryFields_congr bus.fdt.mem bus'.fdt.mem kind device entry
        (agreeOn_of_moved bus.fdt.mem hsame.bytes (moved_entryAt device p kind index entry
          hentry))).symm
    have htail (base : DtBusAddress) (length : DtSize) :
        translateAndApply bus'.fdt applyGcd device kind.isReg index base length s =
          translateAndApply bus.fdt applyGcd device kind.isReg index base length s := by
      rw [translateAndApply, translateAndApply, hsame.translate, hsame.companion]
    have hcall : parsePropEntry kind bus'.fdt applyGcd device p index s =
        parsePropEntry kind bus.fdt applyGcd device p index s := by
      rw [parsePropEntry_eq, parsePropEntry_eq]
      cases hentry : entryAt kind device p index with
      | none => rfl
      | some entry =>
          simp only [hentries entry hentry, htail]
    rw [dtIoParseProp_entry, dtIoParseProp_entry, hcall]
  · rw [dtIoParseProp_entry] at h
    have hvalue := (Prod.mk.inj (Prod.mk.inj h).1).1
    have hnext := (Prod.mk.inj (Prod.mk.inj h).1).2
    obtain ⟨e, hr⟩ | ⟨entry, f, t, hentry, hfields, hr⟩ :=
      parsePropEntry_cases bus applyGcd device p kind index s
    · rw [hr] at hvalue
      exact absurd hvalue (by simp [Except.map])
    · rw [hr] at hvalue hnext
      have hmoved := moved_entryAt device p kind index entry hentry
      have hstart : entry.iter = p.iter + 4 * (kind.cells device * index) := by
        obtain ⟨hfit, rfl⟩ := hmoved
        rfl
      have hv : DtValue.ofEntry (f.value t) = v := Except.ok.inj hvalue
      rw [← hnext, ← hv]
      refine parsedElement_of_cells bus device p kind.valueType index (kind.cells device) _ _
        (elementCells_valueType device kind) ?_ ?_ ?_
      · rw [Nat.mul_add, Nat.mul_one]
        exact DtProperty.moved_trans hmoved (moved_entryFields kind device _ entry f hfields)
      · rw [← hstart]
        exact numbers_entryFields bus.fdt.mem kind device entry f t hfields
      · intro a
        cases f.value t <;> simp [DtValue.ofEntry]
  · rw [dtIoParseProp_entry] at h
    have hvalue := (Prod.mk.inj (Prod.mk.inj h).1).1
    have hnext := (Prod.mk.inj (Prod.mk.inj h).1).2
    obtain ⟨e', hr⟩ | ⟨entry, f, t, -, -, hr⟩ :=
      parsePropEntry_cases bus applyGcd device p kind index s
    · rw [← hnext, hr]
    · rw [hr] at hvalue
      exact absurd hvalue (by simp [Except.map])

/-- The parsers of one number wrap what the common parser of cells returns. -/
theorem parseContract_cells (type : DtValueType) (index cells : Nat) (s : σ)
    (wrap : U128 → DtValue) (parse : (Nat → U8) → EfiResult U128 × DtProperty)
    (hcall : ∀ bus : DtBus, dtIoParseProp bus applyGcd device p type index s =
      (((parse bus.fdt.mem).1.map wrap, (parse bus.fdt.mem).2), s))
    (hspec : ∀ mem, ParsedCells mem p cells index (parse mem))
    (hcongr : ∀ mem mem', BigEndian.AgreeOn mem mem' p.iter p.end_ → parse mem = parse mem')
    (hcells : type.elementCells device = some cells) (hone : type.numberCells device = [cells])
    (hnumbers : ∀ w : U128, w.toNat < 256 ^ (4 * cells) → (wrap w).numbers = [w.toNat])
    (hstring : ∀ w a, wrap w ≠ .string a) :
    ParseContract bus applyGcd device p type index s := by
  have hparsed := hspec bus.fdt.mem
  refine ⟨fun bus' hsame => ?_, fun v q s' h => ?_, fun e q s' h => ?_⟩
  · rw [hcall, hcall, hcongr _ _ hsame.bytes]
  · rw [hcall] at h
    have hvalue := (Prod.mk.inj (Prod.mk.inj h).1).1
    have hnext := (Prod.mk.inj (Prod.mk.inj h).1).2
    cases hresult : parse bus.fdt.mem with
    | mk r q' =>
        rw [hresult] at hparsed hvalue hnext
        cases r with
        | error e => exact absurd hvalue (by simp [Except.map])
        | ok w =>
            have hlt := BigEndian.value_lt
              (BigEndian.bytesAt bus.fdt.mem (p.iter + 4 * (cells * index)) (4 * cells))
            rw [BigEndian.length_bytesAt, ← hparsed.2] at hlt
            have hv : wrap w = v := Except.ok.inj hvalue
            rw [← hnext, ← hv]
            refine parsedElement_of_cells bus device p type index cells _ _ hcells hparsed.1 ?_
              (hstring w)
            rw [hone, hnumbers w hlt, hparsed.2]
            rfl
  · rw [hcall] at h
    have hvalue := (Prod.mk.inj (Prod.mk.inj h).1).1
    have hnext := (Prod.mk.inj (Prod.mk.inj h).1).2
    cases hresult : parse bus.fdt.mem with
    | mk r q' =>
        rw [hresult] at hparsed hvalue hnext
        cases r with
        | error e => exact hnext.symm.trans hparsed
        | ok w => exact absurd hvalue (by simp [Except.map])

theorem dtIoParsePropString_cases (mem : Nat → U8) (index : Nat) :
    (parsePropStringLoop mem p.end_ index p.iter = none ∧
        dtIoParsePropString mem p index = (.error .notFound, p)) ∨
      ∃ start stop hlow hhigh, parsePropStringLoop mem p.end_ index p.iter = some (start, stop) ∧
        dtIoParsePropString mem p index = (.ok start, p.moveTo stop hlow hhigh) := by
  rw [dtIoParsePropString]
  split
  · next hnone => exact .inl ⟨hnone, rfl⟩
  · next start stop hsome =>
    have hspec := (parsePropStringLoop_spec mem _ _ _ _ _ hsome).2
    exact .inr ⟨start, stop, by omega, hspec.2.2, hsome, rfl⟩

theorem dtIoParsePropString_congr (mem mem' : Nat → U8) (index : Nat)
    (h : BigEndian.AgreeOn mem mem' p.iter p.end_) :
    dtIoParsePropString mem p index = dtIoParsePropString mem' p index := by
  have hloop := parsePropStringLoop_congr mem mem' p.end_ index p.iter h
  obtain ⟨hnone, hcall⟩ | ⟨start, stop, hlow, hhigh, hsome, hcall⟩ :=
    dtIoParsePropString_cases p mem index
  · obtain ⟨-, hcall'⟩ | ⟨start', stop', -, -, hsome', -⟩ := dtIoParsePropString_cases p mem' index
    · rw [hcall, hcall']
    · rw [← hloop, hnone] at hsome'
      exact absurd hsome' (by simp)
  · obtain ⟨hnone', -⟩ | ⟨start', stop', hlow', hhigh', hsome', hcall'⟩ :=
      dtIoParsePropString_cases p mem' index
    · rw [← hloop, hsome] at hnone'
      exact absurd hnone' (by simp)
    · rw [← hloop, hsome] at hsome'
      obtain ⟨rfl, rfl⟩ := Prod.mk.inj (Option.some.inj hsome')
      rw [hcall, hcall']

theorem parseContract_string (index : Nat) (s : σ) :
    ParseContract bus applyGcd device p .string index s := by
  refine ⟨fun bus' hsame => ?_, fun v q s' h => ?_, fun e q s' h => ?_⟩
  · simp only [dtIoParseProp, dtIoParsePropString_congr p _ _ index hsame.bytes]
  · rw [dtIoParseProp] at h
    obtain ⟨-, hcall⟩ | ⟨start, stop, hlow, hhigh, hsome, hcall⟩ :=
      dtIoParsePropString_cases p bus.fdt.mem index
    · rw [hcall] at h
      exact absurd (Prod.mk.inj (Prod.mk.inj h).1).1 (by simp [Except.map])
    · rw [hcall] at h
      have hv : DtValue.string start = v := Except.ok.inj (Prod.mk.inj (Prod.mk.inj h).1).1
      have hq : p.moveTo stop hlow hhigh = q := (Prod.mk.inj (Prod.mk.inj h).1).2
      rw [← hv, ← hq]
      exact ⟨rfl, rfl, hhigh, start, (parsePropStringLoop_spec bus.fdt.mem _ _ _ _ _ hsome).1, rfl,
        fun a ha => (DtValue.string.inj ha).symm⟩
  · rw [dtIoParseProp] at h
    obtain ⟨-, hcall⟩ | ⟨start, stop, hlow, hhigh, -, hcall⟩ :=
      dtIoParsePropString_cases p bus.fdt.mem index
    · rw [hcall] at h
      exact (Prod.mk.inj (Prod.mk.inj h).1).2.symm
    · rw [hcall] at h
      exact absurd (Prod.mk.inj (Prod.mk.inj h).1).1 (by simp [Except.map])

theorem dtIoParsePropDevice_cases (index : Nat) :
    (∃ e, dtIoParsePropDevice bus device p index = (.error e, p)) ∨
      ∃ phandle handle q, dtIoParsePropU32 bus.fdt.mem p index = (.ok phandle, q) ∧
        dtIoParsePropDevice bus device p index = (.ok handle, q) := by
  rw [dtIoParsePropDevice]
  split
  · exact .inl ⟨_, rfl⟩
  · next phandle q hcell =>
    dsimp only
    split
    · exact .inl ⟨_, rfl⟩
    · split
      · exact .inl ⟨_, rfl⟩
      · split
        · exact .inl ⟨_, rfl⟩
        · exact .inr ⟨phandle, _, q, hcell, rfl⟩

theorem parseContract_device (index : Nat) (s : σ) :
    ParseContract bus applyGcd device p .device index s := by
  refine ⟨fun bus' hsame => ?_, fun v q s' h => ?_, fun e q s' h => ?_⟩
  · have hcall : dtIoParsePropDevice bus' device p index =
        dtIoParsePropDevice bus device p index := by
      rw [dtIoParsePropDevice, dtIoParsePropDevice,
        dtIoParsePropU32_congr _ p _ index hsame.bytes, hsame.nodeOffset, hsame.nodePath,
        hsame.lookup]
    simp only [dtIoParseProp, hcall]
  · rw [dtIoParseProp] at h
    obtain ⟨e, hcall⟩ | ⟨phandle, handle, q', hcell, hcall⟩ :=
      dtIoParsePropDevice_cases bus device p index
    · rw [hcall] at h
      exact absurd (Prod.mk.inj (Prod.mk.inj h).1).1 (by simp [Except.map])
    · rw [hcall] at h
      have hv : DtValue.device handle = v := Except.ok.inj (Prod.mk.inj (Prod.mk.inj h).1).1
      have hq : q' = q := (Prod.mk.inj (Prod.mk.inj h).1).2
      rw [← hv, ← hq]
      exact parsedElement_of_cells bus device p .device index 1 _ _ rfl
        (moved_dtIoParsePropU32 bus.fdt.mem p index phandle q' hcell).1 rfl (fun a => by simp)
  · rw [dtIoParseProp] at h
    obtain ⟨e', hcall⟩ | ⟨phandle, handle, q', -, hcall⟩ :=
      dtIoParsePropDevice_cases bus device p index
    · rw [hcall] at h
      exact (Prod.mk.inj (Prod.mk.inj h).1).2.symm
    · rw [hcall] at h
      exact absurd (Prod.mk.inj (Prod.mk.inj h).1).1 (by simp [Except.map])

theorem dtIoParsePropU32_eq_parseElem (mem : Nat → U8) (index : Nat) :
    dtIoParsePropU32 mem p index =
      ((parseElem mem 1 p index).1.map (BitVec.setWidth 32), (parseElem mem 1 p index).2) := by
  rw [dtIoParsePropU32, parseElem]
  by_cases hout : p.cells ≤ index
  · rw [dif_pos hout, dif_pos (by rw [Nat.div_one]; exact hout)]
    rfl
  · rw [dif_neg hout, dif_neg (by rw [Nat.div_one]; exact hout)]
    have hcell (x : U32) : (0#128 ||| x.setWidth 128 <<< (32 * 0)).setWidth 32 = x := by
      simp
    simp only [loadElem, Except.map, hcell, Nat.one_mul]

theorem parseContract_number {type : DtValueType} {cells : Nat} (index : Nat) (s : σ)
    (hnumber : type.numberCells device = [cells]) :
    ParseContract bus applyGcd device p type index s := by
  cases type with
  | u32 =>
      refine parseContract_cells bus applyGcd device p .u32 index 1 s
        (fun w => .u32 (w.setWidth 32)) (fun mem => parseElem mem 1 p index) ?_
        (fun mem => parsedCells_parseElem mem p 1 index (by omega))
        (fun mem mem' => parseElem_congr mem p mem' 1 index) rfl rfl ?_ (fun w a => by simp)
      · intro bus'
        simp only [dtIoParseProp, dtIoParsePropU32_eq_parseElem]
        cases (parseElem bus'.fdt.mem 1 p index).1 <;> rfl
      · intro w hw
        rw [DtValue.numbers, BitVec.toNat_setWidth, Nat.mod_eq_of_lt (by omega)]
  | u64 =>
      refine parseContract_cells bus applyGcd device p .u64 index 2 s
        (fun w => .u64 (w.setWidth 64)) (fun mem => parseElem mem 2 p index) ?_
        (fun mem => parsedCells_parseElem mem p 2 index (by omega))
        (fun mem mem' => parseElem_congr mem p mem' 2 index) rfl rfl ?_ (fun w a => by simp)
      · intro bus'
        simp only [dtIoParseProp, dtIoParsePropU64]
        cases (parseElem bus'.fdt.mem 2 p index).1 <;> rfl
      · intro w hw
        rw [DtValue.numbers, BitVec.toNat_setWidth, Nat.mod_eq_of_lt (by omega)]
  | u128 =>
      refine ⟨fun bus' _ => rfl, fun v q s' h => ?_, fun e q s' h => ?_⟩
      · exact absurd (Prod.mk.inj (Prod.mk.inj h).1).1 (by simp)
      · exact (Prod.mk.inj (Prod.mk.inj h).1).2.symm
  | busAddress =>
      exact parseContract_cells bus applyGcd device p .busAddress index _ s .address
        (fun mem => dtIoParsePropBusAddress mem device p index) (fun _ => rfl)
        (fun mem => parsedCells_parseAddressElem mem p _ index)
        (fun mem mem' => parseAddressElem_congr mem p mem' _ index) rfl rfl (fun _ _ => rfl)
        (fun w a => by simp)
  | childBusAddress =>
      exact parseContract_cells bus applyGcd device p .childBusAddress index _ s .address
        (fun mem => dtIoParsePropChildBusAddress mem device p index) (fun _ => rfl)
        (fun mem => parsedCells_parseAddressElem mem p _ index)
        (fun mem mem' => parseAddressElem_congr mem p mem' _ index) rfl rfl (fun _ _ => rfl)
        (fun w a => by simp)
  | size =>
      exact parseContract_cells bus applyGcd device p .size index _ s .size
        (fun mem => dtIoParsePropSize mem device p index) (fun _ => rfl)
        (fun mem => parsedCells_parseSizeElem mem p _ index)
        (fun mem mem' => parseSizeElem_congr mem p mem' _ index) rfl rfl (fun _ _ => rfl)
        (fun w a => by simp)
  | childSize =>
      exact parseContract_cells bus applyGcd device p .childSize index _ s .size
        (fun mem => dtIoParsePropChildSize mem device p index) (fun _ => rfl)
        (fun mem => parsedCells_parseSizeElem mem p _ index)
        (fun mem mem' => parseSizeElem_congr mem p mem' _ index) rfl rfl (fun _ _ => rfl)
        (fun w a => by simp)
  | reg | range | string | device => cases hnumber

/-- `ParseProp` stays inside its property and moves the cursor by what it returns. -/
theorem parseContract (type : DtValueType) (index : Nat) (s : σ) :
    ParseContract bus applyGcd device p type index s := by
  cases type with
  | u32 | u64 | u128 | busAddress | childBusAddress | size | childSize =>
      exact parseContract_number bus applyGcd device p index s rfl
  | reg => exact parseContract_entry bus applyGcd device p .reg index s
  | range => exact parseContract_entry bus applyGcd device p .range index s
  | string => exact parseContract_string bus applyGcd device p index s
  | device => exact parseContract_device bus applyGcd device p index s

end Cases

end FdtBusPkg
