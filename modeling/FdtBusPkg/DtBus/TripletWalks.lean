import FdtBusPkg.Library.LoggedLoop
import FdtBusPkg.DtBus.DmaLimit

/-!
The walks over `ranges` and `dma-ranges` as the source has them, loops without a bound, with
the cells that they read. A triplet that the property does not hold in full, or that has no
cells for one of its addresses, ends a walk with an error.
-/
namespace FdtBusPkg

section Definitions

variable (mem : Nat → U8)

/-- `loadElem` with the addresses of its cells. -/
def loadElemCells : Nat → Nat → U128 → Logged Nat U128
  | 0, _, value => pure value
  | remaining + 1, buf, value => do
    let cell ← Logged.record (loadCell mem buf) buf
    loadElemCells remaining (buf + 4)
      (value ||| (fdt32ToCpu cell).setWidth 128 <<< (32 * remaining))

/-- `parseElem` with its cells. -/
def parseElemCells (elemCells : Nat) (p : DtProperty) (index : Nat) :
    Logged Nat (EfiResult U128 × DtProperty) :=
  if h : p.cells / elemCells ≤ index then
    pure (.error .notFound, p)
  else do
    let value ← loadElemCells mem elemCells (p.iter + 4 * (elemCells * index)) 0#128
    pure (.ok value, p.advance (elemCells * (index + 1)) (p.elem_le_cells elemCells index h))

/-- `parseAddressElem` with its cells. -/
def parseAddressElemCells (elemCells : CellCount) (p : DtProperty) (index : Nat) :
    Logged Nat (EfiResult U128 × DtProperty) :=
  if elemCells.val = 0 then
    pure (.error .notFound, p)
  else
    parseElemCells mem elemCells.val p index

/-- `parseSizeElem` with its cells. -/
def parseSizeElemCells (elemCells : CellCount) (p : DtProperty) (index : Nat) :
    Logged Nat (EfiResult U128 × DtProperty) :=
  if elemCells.val = 0 then
    pure (.ok 0#128, p)
  else
    parseElemCells mem elemCells.val p index

/-- The three elements that an iteration of either loop parses. -/
def parseTriplet (device : DtDevice) (p : DtProperty) :
    Logged Nat (EfiResult (RangeTriplet × DtProperty)) := do
  match ← parseAddressElemCells mem device.info.childAddressCells p 0 with
  | (.error e, _) => pure (.error e)
  | (.ok childBase, p) =>
    match ← parseAddressElemCells mem device.info.addressCells p 0 with
    | (.error e, _) => pure (.error e)
    | (.ok parentBase, p) =>
      match ← parseSizeElemCells mem device.info.childSizeCells p 0 with
      | (.error e, _) => pure (.error e)
      | (.ok childSize, p) => pure (.ok (⟨childBase, parentBase, childSize⟩, p))

/-- The body of the loop of `DtDeviceTranslateRangeInternal`. -/
def rangesBody (device : DtDevice) (address : DtBusAddress) (length : DtSize) (p : DtProperty) :
    Logged Nat (Loop.Step DtProperty (EfiResult DtBusAddress)) :=
  if p.iter < p.end_ then do
    match ← parseTriplet mem device p with
    | .error e => pure (.exit (.error e))
    | .ok (t, p) =>
      if rangeAccepts address length t.childBase t.childSize then
        pure (.exit (.ok (address - t.childBase + t.parentBase)))
      else
        pure (.next p)
  else
    pure (.exit (.error .notFound))

/-- The body of the loop of `DtDeviceCreateDmaInit`, on the property, the flags and the
limit. -/
def dmaRangesBody (device : DtDevice) :
    DtProperty × Uintn × U64 →
      Logged Nat (Loop.Step (DtProperty × Uintn × U64) (EfiStatus × Uintn × U64))
  | (p, flags, limit) =>
    if p.iter < p.end_ then do
      match ← parseTriplet mem device p with
      | .error e => pure (.exit (.error e, flags, limit))
      | .ok (t, p) =>
        if t.childBase ≠ t.parentBase then
          pure (.exit (.ok (), flags ||| DT_DEVICE_NON_IDENTITY_DMA, limit))
        else
          let address := maxChildAddress t.childBase t.childSize
          pure (.next (p, flags, if limit > address then address else limit))
    else
      pure (.exit (.ok (), flags, limit))

end Definitions

/-- The property holds another triplet in full, with cells for both addresses. -/
def HoldsTriplet (device : DtDevice) (p : DtProperty) : Prop :=
  0 < device.info.childAddressCells.val ∧ 0 < device.info.addressCells.val ∧
    tripletCells device ≤ p.cells

instance (device : DtDevice) (p : DtProperty) : Decidable (HoldsTriplet device p) :=
  inferInstanceAs (Decidable (_ ∧ _))

section Elements

variable (mem : Nat → U8)

theorem value_loadElemCells (cells buf : Nat) (value : U128) :
    (loadElemCells mem cells buf value).value = loadElem mem cells buf value := by
  induction cells generalizing buf value with
  | zero => rfl
  | succ cells ih =>
      rw [loadElemCells, loadElem, Logged.value_bind, Logged.value_record]
      exact ih _ _

theorem all_loadElemCells (P : Nat → Prop) (cells buf : Nat) (value : U128)
    (h : ∀ i < cells, P (buf + 4 * i)) : (loadElemCells mem cells buf value).All P := by
  induction cells generalizing buf value with
  | zero => exact Logged.all_pure P value
  | succ cells ih =>
      rw [loadElemCells, Logged.all_bind, Logged.all_record]
      refine ⟨h 0 cells.succ_pos, ih _ _ fun i hi => ?_⟩
      have hnext := h (i + 1) (Nat.succ_lt_succ hi)
      rwa [show buf + 4 * (i + 1) = buf + 4 + 4 * i by omega] at hnext

theorem value_parseElemCells (cells : Nat) (p : DtProperty) (index : Nat) :
    (parseElemCells mem cells p index).value = parseElem mem cells p index := by
  rw [parseElemCells, parseElem]
  split
  · rfl
  · rw [Logged.value_bind, Logged.value_pure, value_loadElemCells]

theorem value_parseAddressElemCells (cells : CellCount) (p : DtProperty) (index : Nat) :
    (parseAddressElemCells mem cells p index).value = parseAddressElem mem cells p index := by
  rw [parseAddressElemCells, parseAddressElem]
  split
  · rfl
  · exact value_parseElemCells mem cells.val p index

theorem value_parseSizeElemCells (cells : CellCount) (p : DtProperty) (index : Nat) :
    (parseSizeElemCells mem cells p index).value = parseSizeElem mem cells p index := by
  rw [parseSizeElemCells, parseSizeElem]
  split
  · rfl
  · exact value_parseElemCells mem cells.val p index

/-- An element is read inside the property, of any cells and at any index. -/
theorem all_parseElemCells (cells : Nat) (p : DtProperty) (index : Nat) :
    (parseElemCells mem cells p index).All p.Inside := by
  rw [parseElemCells]
  split
  · exact Logged.all_pure _ _
  · next hin =>
      rw [Logged.all_bind]
      refine ⟨all_loadElemCells mem _ _ _ _ fun i hi => ?_, Logged.all_pure _ _⟩
      have hfit := p.elem_le_cells cells index hin
      have hcell := p.inside_cell (i := cells * index + i) (by
        rw [Nat.mul_add, Nat.mul_one] at hfit
        omega)
      rwa [Nat.mul_add, ← Nat.add_assoc] at hcell

theorem all_parseAddressElemCells (cells : CellCount) (p : DtProperty) (index : Nat) :
    (parseAddressElemCells mem cells p index).All p.Inside := by
  rw [parseAddressElemCells]
  split
  · exact Logged.all_pure _ _
  · exact all_parseElemCells mem cells.val p index

theorem all_parseSizeElemCells (cells : CellCount) (p : DtProperty) (index : Nat) :
    (parseSizeElemCells mem cells p index).All p.Inside := by
  rw [parseSizeElemCells]
  split
  · exact Logged.all_pure _ _
  · exact all_parseElemCells mem cells.val p index

end Elements

section Triplet

variable (mem : Nat → U8) (device : DtDevice) (p : DtProperty)

theorem value_parseTriplet :
    (parseTriplet mem device p).value =
      if h : HoldsTriplet device p then
        .ok (tripletAt mem device p.iter, p.advance (tripletCells device) h.2.2)
      else .error .notFound := by
  rw [parseTriplet, Logged.value_bind, value_parseAddressElemCells, parseAddressElem_zero]
  by_cases hchild : device.info.childAddressCells.val ≤ p.cells ∧
      0 < device.info.childAddressCells.val
  · rw [dif_pos hchild]
    dsimp only
    rw [Logged.value_bind, value_parseAddressElemCells, parseAddressElem_zero]
    simp only [DtProperty.cells_advance]
    by_cases hparent : device.info.addressCells.val ≤
        p.cells - device.info.childAddressCells.val ∧ 0 < device.info.addressCells.val
    · rw [dif_pos hparent]
      dsimp only
      rw [Logged.value_bind, value_parseSizeElemCells, parseSizeElem_zero]
      simp only [DtProperty.cells_advance]
      by_cases hsize : device.info.childSizeCells.val ≤
          p.cells - device.info.childAddressCells.val - device.info.addressCells.val
      · have hholds : HoldsTriplet device p := by
          refine ⟨hchild.2, hparent.2, ?_⟩
          rw [tripletCells]
          omega
        rw [dif_pos hsize, dif_pos hholds]
        simp only [tripletAt, tripletCells, DtProperty.iter_advance, DtProperty.advance_advance,
          Nat.mul_add, Nat.add_assoc]
        rfl
      · rw [dif_neg hsize, dif_neg fun h => hsize (by
          have hcells := h.2.2
          rw [tripletCells] at hcells
          omega)]
        rfl
    · rw [dif_neg hparent, dif_neg fun h => hparent ⟨by
        have hcells := h.2.2
        rw [tripletCells] at hcells
        omega, h.2.1⟩]
      rfl
  · rw [dif_neg hchild, dif_neg fun h => hchild ⟨by
      have hcells := h.2.2
      rw [tripletCells] at hcells
      omega, h.1⟩]
    rfl

theorem all_parseTriplet : (parseTriplet mem device p).All p.Inside := by
  have hrest (q : DtProperty) (hfollows : p.Follows q)
      (x : Logged Nat (EfiResult U128 × DtProperty))
      (h : x.All q.Inside) : x.All p.Inside := h.imp fun a ha => hfollows.inside ha
  rw [parseTriplet, Logged.all_bind, value_parseAddressElemCells, parseAddressElem_zero]
  refine ⟨all_parseAddressElemCells mem _ p 0, ?_⟩
  by_cases hchild : device.info.childAddressCells.val ≤ p.cells ∧
      0 < device.info.childAddressCells.val
  · have hq := p.follows_advance _ hchild.1
    rw [dif_pos hchild]
    dsimp only
    generalize p.advance _ hchild.1 = q at hq ⊢
    rw [Logged.all_bind, value_parseAddressElemCells, parseAddressElem_zero]
    refine ⟨hrest q hq _ (all_parseAddressElemCells mem _ q 0), ?_⟩
    by_cases hparent : device.info.addressCells.val ≤ q.cells ∧
        0 < device.info.addressCells.val
    · have hr := DtProperty.follows_trans hq (q.follows_advance _ hparent.1)
      rw [dif_pos hparent]
      dsimp only
      generalize q.advance _ hparent.1 = r at hr ⊢
      rw [Logged.all_bind]
      refine ⟨hrest r hr _ (all_parseSizeElemCells mem _ r 0), ?_⟩
      split <;> exact Logged.all_pure _ _
    · rw [dif_neg hparent]
      exact Logged.all_pure _ _
  · rw [dif_neg hchild]
    exact Logged.all_pure _ _

theorem HoldsTriplet.iter_lt {device : DtDevice} {p : DtProperty} (h : HoldsTriplet device p) :
    p.iter < p.end_ := by
  have hcells := p.four_mul_cells_le
  have hfit := h.2.2
  have hpos := h.1
  rw [tripletCells] at hfit
  omega

end Triplet

section Bodies

variable (mem : Nat → U8) (device : DtDevice)

theorem plain_rangesBody (address : DtBusAddress) (length : DtSize) (p : DtProperty) :
    LoggedLoop.plain (rangesBody mem device address length) p =
      if h : HoldsTriplet device p then
        let t := tripletAt mem device p.iter
        if rangeAccepts address length t.childBase t.childSize then
          .exit (.ok (address - t.childBase + t.parentBase))
        else
          .next (p.advance (tripletCells device) h.2.2)
      else .exit (.error .notFound) := by
  rw [LoggedLoop.plain, rangesBody]
  by_cases h : HoldsTriplet device p
  · rw [if_pos h.iter_lt, dif_pos h, Logged.value_bind, value_parseTriplet, dif_pos h]
    dsimp only
    split <;> rfl
  · rw [dif_neg h]
    split
    · rw [Logged.value_bind, value_parseTriplet, dif_neg h]
      rfl
    · rfl

theorem plain_dmaRangesBody (p : DtProperty) (flags : Uintn) (limit : U64) :
    LoggedLoop.plain (dmaRangesBody mem device) (p, flags, limit) =
      if h : HoldsTriplet device p then
        let t := tripletAt mem device p.iter
        if t.childBase ≠ t.parentBase then
          .exit (.ok (), flags ||| DT_DEVICE_NON_IDENTITY_DMA, limit)
        else
          let address := maxChildAddress t.childBase t.childSize
          .next (p.advance (tripletCells device) h.2.2, flags,
            if limit > address then address else limit)
      else if p.iter < p.end_ then .exit (.error .notFound, flags, limit)
      else .exit (.ok (), flags, limit) := by
  rw [LoggedLoop.plain, dmaRangesBody]
  by_cases h : HoldsTriplet device p
  · rw [if_pos h.iter_lt, dif_pos h, Logged.value_bind, value_parseTriplet, dif_pos h]
    dsimp only
    split <;> rfl
  · rw [dif_neg h]
    split
    · rw [Logged.value_bind, value_parseTriplet, dif_neg h]
      rfl
    · rfl

theorem all_rangesBody (address : DtBusAddress) (length : DtSize) (p : DtProperty) :
    (rangesBody mem device address length p).All p.Inside := by
  rw [rangesBody]
  split
  · rw [Logged.all_bind]
    refine ⟨all_parseTriplet mem device p, ?_⟩
    split
    · exact Logged.all_pure _ _
    · split <;> exact Logged.all_pure _ _
  · exact Logged.all_pure _ _

theorem all_dmaRangesBody (p : DtProperty) (flags : Uintn) (limit : U64) :
    (dmaRangesBody mem device (p, flags, limit)).All p.Inside := by
  rw [dmaRangesBody]
  split
  · rw [Logged.all_bind]
    refine ⟨all_parseTriplet mem device p, ?_⟩
    split
    · exact Logged.all_pure _ _
    · split <;> exact Logged.all_pure _ _
  · exact Logged.all_pure _ _

end Bodies

section Walks

variable (fdt : Fdt) (device : DtDevice)

theorem holdsTriplet_advance {p : DtProperty} (h : HoldsTriplet device p) :
    (p.advance (tripletCells device) h.2.2).cells < p.cells := by
  have hpos := h.1
  have hfit := h.2.2
  rw [DtProperty.cells_advance]
  rw [tripletCells] at hfit ⊢
  omega

theorem shortTriplet_of_not {p : DtProperty} (h : ¬ HoldsTriplet device p) :
    device.info.childAddressCells.val = 0 ∨ device.info.addressCells.val = 0 ∨
      p.cells < tripletCells device := by
  by_contra hno
  exact h ⟨by omega, by omega, by omega⟩

theorem run_rangesBody (address : DtBusAddress) (length : DtSize) (p : DtProperty) (fuel : Nat)
    (hfuel : p.cells < fuel) :
    Loop.run (LoggedLoop.plain (rangesBody fdt.mem device address length)) fuel p =
      some (translateRangeLoop fdt device address length (p.end_ - p.iter) p) := by
  by_cases hempty : p.end_ - p.iter = 0
  · have hshort : ¬ HoldsTriplet device p := fun h => by
      have hlt := h.iter_lt
      omega
    obtain ⟨fuel, rfl⟩ := Nat.exists_eq_succ_of_ne_zero (Nat.ne_of_gt (Nat.zero_lt_of_lt hfuel))
    rw [hempty, Loop.run_exit _ fuel p (.error .notFound)]
    · rfl
    · rw [plain_rangesBody, dif_neg hshort]
  · have hcells : p.cells < p.end_ - p.iter := by
      rw [DtProperty.cells]
      omega
    refine Loop.run_eq_of_unfold _ (translateRangeLoop fdt device address length)
      DtProperty.cells ?_ ?_ fuel _ p hfuel hcells
    · intro fuel q r hexit
      rw [plain_rangesBody] at hexit
      by_cases h : HoldsTriplet device q
      · rw [dif_pos h] at hexit
        rw [translateRangeLoop_triplet fdt device address length fuel q h.1 h.2.1 h.2.2]
        dsimp only at hexit ⊢
        split at hexit
        · next haccepts =>
            rw [if_pos haccepts]
            exact Loop.Step.exit.inj hexit
        · cases hexit
      · rw [dif_neg h] at hexit
        rw [translateRangeLoop_end fdt device address length _ q (shortTriplet_of_not device h)]
        exact Loop.Step.exit.inj hexit
    · intro fuel q t hnext
      rw [plain_rangesBody] at hnext
      by_cases h : HoldsTriplet device q
      · rw [dif_pos h] at hnext
        rw [translateRangeLoop_triplet fdt device address length fuel q h.1 h.2.1 h.2.2]
        dsimp only at hnext ⊢
        split at hnext
        · cases hnext
        · next hrefuses =>
            cases Loop.Step.next.inj hnext
            exact ⟨if_neg hrefuses, holdsTriplet_advance device h⟩
      · rw [dif_neg h] at hnext
        cases hnext

theorem run_dmaRangesBody (p : DtProperty) (flags : Uintn) (limit : U64) (fuel : Nat)
    (hfuel : p.cells < fuel) :
    Loop.run (LoggedLoop.plain (dmaRangesBody fdt.mem device)) fuel (p, flags, limit) =
      some (dmaRangesLoop fdt.mem device (p.cells + 1) p flags limit) := by
  refine Loop.run_eq_of_unfold _ (fun fuel s => dmaRangesLoop fdt.mem device fuel s.1 s.2.1 s.2.2)
    (fun s => s.1.cells) ?_ ?_ fuel _ (p, flags, limit) hfuel (Nat.lt_succ_self _)
  · rintro fuel ⟨q, flags, limit⟩ r hexit
    rw [plain_dmaRangesBody] at hexit
    by_cases h : HoldsTriplet device q
    · rw [dif_pos h] at hexit
      dsimp only at hexit ⊢
      rw [dmaRangesLoop_triplet fdt.mem device fuel q flags limit h.1 h.2.1 h.2.2]
      dsimp only
      split at hexit
      · next hdiffers =>
          rw [if_pos hdiffers]
          exact Loop.Step.exit.inj hexit
      · cases hexit
    · rw [dif_neg h] at hexit
      rw [dmaRangesLoop_end fdt.mem device fuel q flags limit (shortTriplet_of_not device h)]
      split at hexit
      · next hmore =>
          rw [if_pos hmore]
          exact Loop.Step.exit.inj hexit
      · next hend =>
          rw [if_neg hend]
          exact Loop.Step.exit.inj hexit
  · rintro fuel ⟨q, flags, limit⟩ t hnext
    rw [plain_dmaRangesBody] at hnext
    by_cases h : HoldsTriplet device q
    · rw [dif_pos h] at hnext
      dsimp only at hnext ⊢
      rw [dmaRangesLoop_triplet fdt.mem device fuel q flags limit h.1 h.2.1 h.2.2]
      dsimp only
      split at hnext
      · cases hnext
      · next hsame =>
          cases Loop.Step.next.inj hnext
          exact ⟨if_neg hsame, holdsTriplet_advance device h⟩
    · rw [dif_neg h] at hnext
      split at hnext
      · cases hnext
      · cases hnext

end Walks

/-- A walk ends one iteration after the last cell at the latest, and reads no cell outside of
what is left of the property. -/
structure WalkEnds {σ ρ : Type} (p : DtProperty) (body : σ → Logged Nat (Loop.Step σ ρ)) (s : σ)
    (r : ρ) : Prop where
  ends (fuel : Nat) (hfuel : p.cells < fuel) : (LoggedLoop.run body fuel s).value = some r
  inside (fuel : Nat) : (LoggedLoop.run body fuel s).All p.Inside

/-- A triplet that the property holds in full. -/
def WholeTriplet (mem : Nat → U8) (device : DtDevice) (p : DtProperty) (t : RangeTriplet) : Prop :=
  ∃ i, tripletCells device * (i + 1) ≤ p.cells ∧
    t = tripletAt mem device (p.iter + 4 * (tripletCells device * i))

section Claim

variable (fdt : Fdt) (device : DtDevice) (p : DtProperty)

/-- Both walks end inside the property. A match and a limit come from whole triplets, and a
triplet that is not whole ends the walk with an error. -/
structure PropertyWalksEnd : Prop where
  ranges (address : DtBusAddress) (length : DtSize) :
    WalkEnds p (rangesBody fdt.mem device address length) p
      (translateRangeLoop fdt device address length (p.end_ - p.iter) p)
  dmaRanges (flags : Uintn) (limit : U64) :
    WalkEnds p (dmaRangesBody fdt.mem device) (p, flags, limit)
      (dmaRangesLoop fdt.mem device (p.cells + 1) p flags limit)
  matched (address : DtBusAddress) (length : DtSize) (out : DtBusAddress)
    (h : translateRangeLoop fdt device address length (p.end_ - p.iter) p = .ok out) :
    ∃ t, WholeTriplet fdt.mem device p t ∧
      rangeAccepts address length t.childBase t.childSize = true ∧
        out = address - t.childBase + t.parentBase
  limited (flags : Uintn) (limit : U64) :
    ∃ ts, (∀ t ∈ ts, WholeTriplet fdt.mem device p t) ∧
      (dmaRangesLoop fdt.mem device (p.cells + 1) p flags limit).2 =
        narrowTriplets ts flags limit
  truncated (q : DtProperty) (hmore : q.iter < q.end_) (hshort : ¬ HoldsTriplet device q) :
    (∀ address length, LoggedLoop.plain (rangesBody fdt.mem device address length) q =
        .exit (.error .notFound)) ∧
      ∀ flags limit, LoggedLoop.plain (dmaRangesBody fdt.mem device) (q, flags, limit) =
        .exit (.error .notFound, flags, limit)

theorem wholeTriplet_tripletsFrom (mem : Nat → U8) (count i : Nat)
    (h : tripletCells device * (i + count) ≤ p.cells) (t : RangeTriplet)
    (ht : t ∈ tripletsFrom mem device count (p.iter + 4 * (tripletCells device * i))) :
    WholeTriplet mem device p t := by
  induction count generalizing i with
  | zero => exact absurd ht List.not_mem_nil
  | succ count ih =>
      rw [tripletsFrom, List.mem_cons] at ht
      cases ht with
      | inl hhead =>
          refine ⟨i, Nat.le_trans (Nat.mul_le_mul_left _ ?_) h, hhead⟩
          omega
      | inr htail =>
          refine ih (i + 1) (by rwa [Nat.add_right_comm, Nat.add_assoc]) ?_
          rwa [Nat.mul_add, Nat.mul_one, Nat.mul_add, ← Nat.add_assoc]

theorem wholeTriplet_rangesTriplets (mem : Nat → U8) (t : RangeTriplet)
    (ht : t ∈ rangesTriplets mem device p) : WholeTriplet mem device p t := by
  rw [rangesTriplets] at ht
  split at ht
  · exact absurd ht List.not_mem_nil
  · refine wholeTriplet_tripletsFrom device p mem (p.cells / tripletCells device) 0 ?_ t ?_
    · rw [Nat.zero_add]
      exact Nat.mul_div_le _ _
    · exact ht

theorem propertyWalks_end : PropertyWalksEnd fdt device p where
  ranges address length := by
    refine ⟨fun fuel hfuel => ?_, fun fuel => ?_⟩
    · rw [LoggedLoop.value_run]
      exact run_rangesBody fdt device address length p fuel hfuel
    · refine LoggedLoop.all_run_of_inv p.Follows (fun q hq => ?_) (fun q r hq hnext => ?_) fuel p
        p.follows_refl
      · exact (all_rangesBody fdt.mem device address length q).imp fun a ha => hq.inside ha
      · rw [plain_rangesBody] at hnext
        split at hnext
        · next hholds =>
            dsimp only at hnext
            split at hnext
            · cases hnext
            · cases Loop.Step.next.inj hnext
              exact DtProperty.follows_trans hq (q.follows_advance _ hholds.2.2)
        · cases hnext
  dmaRanges flags limit := by
    refine ⟨fun fuel hfuel => ?_, fun fuel => ?_⟩
    · rw [LoggedLoop.value_run]
      exact run_dmaRangesBody fdt device p flags limit fuel hfuel
    · refine LoggedLoop.all_run_of_inv (fun s => p.Follows s.1) ?_ ?_ fuel (p, flags, limit)
        p.follows_refl
      · rintro ⟨q, flags, limit⟩ hq
        exact (all_dmaRangesBody fdt.mem device q flags limit).imp fun a ha => hq.inside ha
      · rintro ⟨q, flags, limit⟩ r hq hnext
        rw [plain_dmaRangesBody] at hnext
        split at hnext
        · next hholds =>
            dsimp only at hnext
            split at hnext
            · cases hnext
            · cases Loop.Step.next.inj hnext
              exact DtProperty.follows_trans hq (q.follows_advance _ hholds.2.2)
        · split at hnext
          · cases hnext
          · cases hnext
  matched address length out h := by
    rw [translateRangeLoop_eq] at h
    split at h
    · next t hfound =>
        have haccepts := List.find?_some hfound
        exact ⟨t, wholeTriplet_rangesTriplets device p fdt.mem t (List.mem_of_find?_eq_some hfound),
          haccepts, (Except.ok.inj h).symm⟩
    · cases h
  limited flags limit :=
    ⟨rangesTriplets fdt.mem device p, wholeTriplet_rangesTriplets device p fdt.mem,
      dmaRangesLoop_eq fdt.mem device p flags limit⟩
  truncated q hmore hshort := by
    refine ⟨fun address length => ?_, fun flags limit => ?_⟩
    · rw [plain_rangesBody, dif_neg hshort]
    · rw [plain_dmaRangesBody, dif_neg hshort, if_pos hmore]

end Claim

end FdtBusPkg
