import FdtBusPkg.DtBus.Property

/-!
Translation of bus address ranges to CPU addresses: one level through the
`ranges` property of a bus device, and the walk over all levels up to the root.
-/
namespace FdtBusPkg

/-- The test of `DtDeviceTranslateRangeInternal` on one triplet, in 128-bit
arithmetic. -/
def rangeAccepts (address : DtBusAddress) (length : DtSize) (childBase : DtBusAddress)
    (childSize : DtSize) : Bool :=
  address ≥ childBase && address + length ≤ childBase + childSize

/-- The loop of `DtDeviceTranslateRangeInternal`. An iteration that does not
return has consumed a triplet, so the bytes left bound the iterations. -/
def translateRangeLoop (fdt : Fdt) (curDevice : DtDevice) (address : DtBusAddress)
    (length : DtSize) : Nat → DtProperty → EfiResult DtBusAddress
  | 0, _ => .error .notFound
  | fuel + 1, p =>
    if p.iter < p.end_ then
      match dtIoParsePropChildBusAddress fdt.mem curDevice p 0 with
      | (.error e, _) => .error e
      | (.ok childBase, p) =>
        match dtIoParsePropBusAddress fdt.mem curDevice p 0 with
        | (.error e, _) => .error e
        | (.ok parentBase, p) =>
          match dtIoParsePropChildSize fdt.mem curDevice p 0 with
          | (.error e, _) => .error e
          | (.ok childSize, p) =>
            if rangeAccepts address length childBase childSize then
              .ok (address - childBase + parentBase)
            else
              translateRangeLoop fdt curDevice address length fuel p
    else
      .error .notFound

def dtDeviceTranslateRangeInternal (fdt : Fdt) (curDevice : DtDevice)
    (address : DtBusAddress) (length : DtSize) : EfiResult DtBusAddress :=
  if curDevice.parent?.isNone then
    .ok address
  else
    match dtIoGetProp fdt curDevice "ranges" with
    | .error e => .error e
    | .ok p =>
      if p.end_ = p.begin_ then
        .ok address
      else
        translateRangeLoop fdt curDevice address length (p.end_ - p.iter) p

/-- The `while (CurDevice != NULL)` loop of `DtDeviceTranslateRangeToCpu`: the
address reached, and the device the translation stopped at, if any. -/
def translateRangeUp (fdt : Fdt) (length : DtSize) :
    DtDevice → DtBusAddress → EfiResult (DtBusAddress × Option DtDevice)
  | .root i, address =>
    match dtDeviceTranslateRangeInternal fdt (.root i) address length with
    | .ok out => .ok (out, none)
    | .error .notFound => .ok (address, some (.root i))
    | .error e => .error e
  | .child i parent, address =>
    match dtDeviceTranslateRangeInternal fdt (.child i parent) address length with
    | .ok out => translateRangeUp fdt length parent out
    | .error .notFound => .ok (address, some (.child i parent))
    | .error e => .error e

/-- The check that the walk reached a valid CPU address range. -/
def cpuRangeAccepts (address : DtBusAddress) (length : DtSize) : Bool :=
  address ≤ BitVec.ofNat 128 MAX_ADDRESS &&
    (length == 0 || address + length - 1 ≤ BitVec.ofNat 128 MAX_ADDRESS)

/-- `DtDeviceTranslateRangeToCpu`; the device of the result is `*BusDevice`. -/
def dtDeviceTranslateRangeToCpu (fdt : Fdt) (device : DtDevice) (address : DtBusAddress)
    (length : DtSize) : EfiResult (DtBusAddress × Option DtDevice) :=
  let walk : EfiResult (DtBusAddress × Option DtDevice) := match device.parent? with
    | none => .ok (address, none)
    | some parent => translateRangeUp fdt length parent address
  match walk with
  | .error e => .error e
  | .ok (out, some busDevice) => .ok (out, some busDevice)
  | .ok (out, none) =>
    if cpuRangeAccepts out length then .ok (out, none) else .error .unsupported

/-- A `(child base, parent base, child size)` entry of a `ranges` property. -/
structure RangeTriplet where
  childBase : DtBusAddress
  parentBase : DtBusAddress
  childSize : DtSize
  deriving DecidableEq, Repr

/-- Cells of one triplet in the `ranges` property of a device. -/
def tripletCells (device : DtDevice) : Nat :=
  device.info.childAddressCells + device.info.addressCells + device.info.childSizeCells

def tripletAt (mem : Nat → U8) (device : DtDevice) (buf : Nat) : RangeTriplet where
  childBase := loadElem mem device.info.childAddressCells buf 0#128
  parentBase := loadElem mem device.info.addressCells
    (buf + 4 * device.info.childAddressCells) 0#128
  childSize := loadElem mem device.info.childSizeCells
    (buf + 4 * (device.info.childAddressCells + device.info.addressCells)) 0#128

def tripletsFrom (mem : Nat → U8) (device : DtDevice) : Nat → Nat → List RangeTriplet
  | 0, _ => []
  | count + 1, buf =>
    tripletAt mem device buf :: tripletsFrom mem device count (buf + 4 * tripletCells device)

/-- The complete triplets of a `ranges` property. Without child or parent
address cells there is no address to read, hence no triplet. -/
def rangesTriplets (mem : Nat → U8) (device : DtDevice) (p : DtProperty) :
    List RangeTriplet :=
  if device.info.childAddressCells.val = 0 ∨ device.info.addressCells.val = 0 then
    []
  else
    tripletsFrom mem device (p.cells / tripletCells device) p.iter

section Lemmas

variable (fdt : Fdt) (device : DtDevice)

theorem parseSizeElem_zero (mem : Nat → U8) (n : CellCount) (p : DtProperty) :
    parseSizeElem mem n p 0 =
      if h : n.val ≤ p.cells then
        (.ok (loadElem mem n p.iter 0#128), p.advance n h)
      else (.error .notFound, p) := by
  unfold parseSizeElem
  by_cases h0 : n.val = 0
  · simp [h0, loadElem, DtProperty.advance_zero]
  · simp [h0, parseElem_zero, Nat.pos_of_ne_zero h0]

theorem parseAddressElem_zero (mem : Nat → U8) (n : CellCount) (p : DtProperty) :
    parseAddressElem mem n p 0 =
      if h : n.val ≤ p.cells ∧ 0 < n.val then
        (.ok (loadElem mem n p.iter 0#128), p.advance n h.1)
      else (.error .notFound, p) := by
  unfold parseAddressElem
  by_cases h0 : n.val = 0
  · simp [h0]
  · simp [h0, parseElem_zero]

theorem translateRangeLoop_triplet (address : DtBusAddress) (length : DtSize)
    (fuel : Nat) (p : DtProperty) (hca : 0 < device.info.childAddressCells.val)
    (ha : 0 < device.info.addressCells.val) (hcells : tripletCells device ≤ p.cells) :
    translateRangeLoop fdt device address length (fuel + 1) p =
      let t := tripletAt fdt.mem device p.iter
      if rangeAccepts address length t.childBase t.childSize then
        .ok (address - t.childBase + t.parentBase)
      else
        translateRangeLoop fdt device address length fuel
          (p.advance (tripletCells device) hcells) := by
  have hlt : p.iter < p.end_ := by
    have := p.four_mul_cells_le
    unfold tripletCells at hcells
    omega
  unfold tripletCells at hcells
  have h1 : device.info.childAddressCells.val ≤ p.cells := by omega
  rw [translateRangeLoop, if_pos hlt]
  simp only [dtIoParsePropChildBusAddress, dtIoParsePropBusAddress, dtIoParsePropChildSize,
    parseAddressElem_zero, parseSizeElem_zero]
  rw [dif_pos ⟨h1, hca⟩]
  simp only [DtProperty.cells_advance]
  rw [dif_pos ⟨by omega, ha⟩]
  simp only [DtProperty.cells_advance]
  rw [dif_pos (by omega)]
  simp only [tripletAt, tripletCells, DtProperty.iter_advance, DtProperty.advance_advance,
    Nat.mul_add, Nat.add_assoc]

theorem translateRangeLoop_end (address : DtBusAddress) (length : DtSize)
    (fuel : Nat) (p : DtProperty)
    (h : device.info.childAddressCells.val = 0 ∨ device.info.addressCells.val = 0 ∨
      p.cells < tripletCells device) :
    translateRangeLoop fdt device address length fuel p = .error .notFound := by
  cases fuel with
  | zero => rfl
  | succ fuel =>
      rw [translateRangeLoop]
      split
      · simp only [dtIoParsePropChildBusAddress, dtIoParsePropBusAddress,
          dtIoParsePropChildSize, parseAddressElem_zero, parseSizeElem_zero]
        unfold tripletCells at h
        by_cases h1 : device.info.childAddressCells.val ≤ p.cells ∧
            0 < device.info.childAddressCells.val
        · rw [dif_pos h1]
          simp only [DtProperty.cells_advance]
          by_cases h2 : device.info.addressCells.val ≤
              p.cells - device.info.childAddressCells.val ∧ 0 < device.info.addressCells.val
          · rw [dif_pos h2]
            simp only [DtProperty.cells_advance]
            rw [dif_neg (by omega)]
          · rw [dif_neg h2]
        · rw [dif_neg h1]
      · rfl

private theorem translateRangeLoop_triplets (address : DtBusAddress) (length : DtSize)
    (hca : 0 < device.info.childAddressCells.val) (ha : 0 < device.info.addressCells.val)
    (count fuel : Nat) (p : DtProperty) (hcount : count = p.cells / tripletCells device)
    (hfuel : count ≤ fuel) :
    translateRangeLoop fdt device address length fuel p =
      match (tripletsFrom fdt.mem device count p.iter).find?
          (fun t => rangeAccepts address length t.childBase t.childSize) with
      | some t => .ok (address - t.childBase + t.parentBase)
      | none => .error .notFound := by
  have hpos : 0 < tripletCells device := by unfold tripletCells; omega
  induction count generalizing fuel p with
  | zero =>
      have hlt : p.cells < tripletCells device := by
        rcases (Nat.div_eq_zero_iff).mp hcount.symm with h | h
        · omega
        · exact h
      rw [translateRangeLoop_end fdt device address length fuel p (Or.inr (Or.inr hlt))]
      rfl
  | succ count ih =>
      obtain ⟨fuel, rfl⟩ : ∃ f, fuel = f + 1 := ⟨fuel - 1, by omega⟩
      have hcells : tripletCells device ≤ p.cells := by
        by_contra hlt
        rw [Nat.div_eq_of_lt (by omega)] at hcount
        omega
      rw [translateRangeLoop_triplet fdt device address length fuel p hca ha hcells]
      have hnext : count = (p.advance (tripletCells device) hcells).cells /
          tripletCells device := by
        rw [Nat.div_eq_sub_div hpos hcells] at hcount
        rw [DtProperty.cells_advance]
        omega
      rw [ih fuel _ hnext (by omega)]
      simp only [tripletsFrom, List.find?_cons, DtProperty.iter_advance]
      split <;> simp_all

theorem translateRangeLoop_eq (address : DtBusAddress) (length : DtSize) (p : DtProperty) :
    translateRangeLoop fdt device address length (p.end_ - p.iter) p =
      match (rangesTriplets fdt.mem device p).find?
          (fun t => rangeAccepts address length t.childBase t.childSize) with
      | some t => .ok (address - t.childBase + t.parentBase)
      | none => .error .notFound := by
  unfold rangesTriplets
  by_cases h : device.info.childAddressCells.val = 0 ∨ device.info.addressCells.val = 0
  · rw [if_pos h, translateRangeLoop_end fdt device address length _ p
      (h.elim Or.inl (fun h => Or.inr (Or.inl h)))]
    rfl
  · rw [if_neg h]
    have hbytes : p.cells / tripletCells device ≤ p.end_ - p.iter := by
      refine Nat.le_trans (Nat.div_le_self _ _) ?_
      exact Nat.div_le_self _ _
    exact translateRangeLoop_triplets fdt device address length (by omega) (by omega)
      _ _ p rfl hbytes

end Lemmas

end FdtBusPkg
