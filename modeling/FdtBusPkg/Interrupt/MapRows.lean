import FdtBusPkg.Interrupt.Nexus
import FdtBusPkg.Library.FirstMatch
import Mathlib.Data.List.Nodup

/-!
The rows of an `interrupt-map`, as the devicetree rules read them, and the rule
that selects one: the first row whose unit address is the masked unit address of
the child and whose specifier is the masked current specifier. The code's search
selects the same row exactly when the row it accepts lies within the mask.
-/
namespace FdtBusPkg

/-- A row of an `interrupt-map`: the child unit address, the cursor at the child
specifier, and what the row translates to. -/
structure MapRow where
  unitAddress : DtBusAddress
  specifier : DtProperty
  target : NexusMatch
  deriving DecidableEq

/-- The child unit address at the beginning of a row. -/
def rowUnitAddress (mem : Nat → U8) (child : DtDevice) (map : DtProperty) :
    EfiResult (DtBusAddress × DtProperty) :=
  if child.info.addressCells.val = 0 then
    .ok (0#128, map)
  else
    match dtIoParsePropBusAddress mem child map 0 with
    | (.error _, _) => .error .deviceError
    | (.ok unitAddress, map) => .ok (unitAddress, map)

def parseRow (bus : DtBus) (child nexus : DtDevice) (interruptCells : U32)
    (map : DtProperty) : EfiResult (MapRow × DtProperty) :=
  match rowUnitAddress bus.fdt.mem child map with
  | .error e => .error e
  | .ok (unitAddress, specifier) =>
    match specifier.skip? interruptCells.toNat with
    | none => .error .deviceError
    | some map =>
      match nexusRowTarget bus nexus map with
      | .error e => .error e
      | .ok (target, map) => .ok (⟨unitAddress, specifier, target⟩, map)

/-- The well-formed rows at the beginning of a map, and the error of the first
malformed one, if any. -/
def mapRows (bus : DtBus) (child nexus : DtDevice) (interruptCells : U32) :
    Nat → DtProperty → List MapRow × Option EfiError
  | 0, _ => ([], none)
  | fuel + 1, map =>
    if map.iter < map.end_ then
      match parseRow bus child nexus interruptCells map with
      | .error e => ([], some e)
      | .ok (row, map) =>
        let (rows, malformed) := mapRows bus child nexus interruptCells fuel map
        (row :: rows, malformed)
    else
      ([], none)

/-- The `i`-th cell at the cursor, as stored. -/
def cellAt (mem : Nat → U8) (p : DtProperty) (i : Nat) : U32 := loadCell mem (p.iter + 4 * i)

section Accept

variable (bus : DtBus) (child nexus : DtDevice) (interruptCells : U32)
  (interrupt mask : DtProperty) (maskedUnitAddress : DtBusAddress)

def UnitMatches (row : MapRow) : Prop :=
  child.info.addressCells.val = 0 ∨ row.unitAddress = maskedUnitAddress

/-- The specifier of the row equals the current specifier AND the mask. -/
def SpecifierMatches (row : MapRow) : Prop :=
  interruptCells.toNat ≤ interrupt.cells ∧ interruptCells.toNat ≤ mask.cells ∧
    ∀ i < interruptCells.toNat, cellAt bus.fdt.mem row.specifier i =
      cellAt bus.fdt.mem interrupt i &&& cellAt bus.fdt.mem mask i

/-- The rule of the `interrupt-map`. -/
def RowMatches (row : MapRow) : Prop :=
  UnitMatches child maskedUnitAddress row ∧
    SpecifierMatches bus interruptCells interrupt mask row

def rowAccepted (row : MapRow) : Bool :=
  (child.info.addressCells.val = 0 || row.unitAddress = maskedUnitAddress) &&
    fbpPropertyCompare bus.fdt.mem interrupt row.specifier interruptCells.toNat (some mask)

/-- The mask holds the specifier cells and the row's specifier has no bit
outside it. -/
def RowWithinMask (row : MapRow) : Prop :=
  interruptCells.toNat ≤ mask.cells ∧
    ∀ i < interruptCells.toNat, cellAt bus.fdt.mem row.specifier i &&&
      cellAt bus.fdt.mem mask i = cellAt bus.fdt.mem row.specifier i

instance (row : MapRow) : Decidable (UnitMatches child maskedUnitAddress row) :=
  inferInstanceAs (Decidable (_ ∨ _))

instance (row : MapRow) :
    Decidable (SpecifierMatches bus interruptCells interrupt mask row) :=
  inferInstanceAs (Decidable (_ ∧ _ ∧ ∀ i < interruptCells.toNat, _))

instance (row : MapRow) : Decidable (RowMatches bus child interruptCells interrupt mask
    maskedUnitAddress row) :=
  inferInstanceAs (Decidable (_ ∧ _))

private theorem propertyCompareLoop_iff (mem : Nat → U8) (cells what against maskBuf : Nat) :
    propertyCompareLoop mem cells what against (some maskBuf) = true ↔
      ∀ i < cells, loadCell mem (what + 4 * i) =
        loadCell mem (against + 4 * i) &&& loadCell mem (maskBuf + 4 * i) := by
  induction cells generalizing what against maskBuf with
  | zero => simp [propertyCompareLoop]
  | succ cells ih =>
      simp only [propertyCompareLoop, Option.map_some]
      have hshift : ∀ buf i : Nat, buf + 4 + 4 * i = buf + 4 * (i + 1) := by omega
      by_cases h0 : loadCell mem what = loadCell mem against &&& loadCell mem maskBuf
      · rw [if_neg (not_not.mpr h0), ih]
        constructor
        · intro h i hi
          cases i with
          | zero => simpa using h0
          | succ i =>
              have hi := h i (by omega)
              rwa [hshift what, hshift against, hshift maskBuf] at hi
        · intro h i hi
          have hi := h (i + 1) (by omega)
          rwa [← hshift what, ← hshift against, ← hshift maskBuf] at hi
      · rw [if_pos h0]
        simp only [Bool.false_eq_true, false_iff, not_forall]
        exact ⟨0, by omega, by simpa using h0⟩

theorem fbpPropertyCompare_iff (mem : Nat → U8) (what against m : DtProperty)
    (cells : Nat) :
    fbpPropertyCompare mem what against cells (some m) = true ↔
      cells ≤ what.cells ∧ cells ≤ against.cells ∧ (m.cells = 0 ∨ cells ≤ m.cells) ∧
        ∀ i < cells, cellAt mem what i = cellAt mem against i &&& cellAt mem m i := by
  unfold fbpPropertyCompare cellAt
  simp only [Option.map_some, ← propertyCompareLoop_iff]
  split
  · next h =>
      simp only [Bool.or_eq_true, Bool.and_eq_true, decide_eq_true_eq, bne_iff_ne] at h
      simp only [Bool.false_eq_true, false_iff]
      omega
  · next h =>
      simp only [Bool.or_eq_true, Bool.and_eq_true, decide_eq_true_eq, bne_iff_ne] at h
      constructor
      · intro hloop
        exact ⟨by omega, by omega, by omega, hloop⟩
      · intro hall
        exact hall.2.2.2

theorem rowAccepted_iff (row : MapRow) :
    rowAccepted bus child interruptCells interrupt mask maskedUnitAddress row = true ↔
      UnitMatches child maskedUnitAddress row ∧
        fbpPropertyCompare bus.fdt.mem interrupt row.specifier interruptCells.toNat
          (some mask) = true := by
  simp [rowAccepted, UnitMatches]

/-- An accepted row is the one the rule selects exactly when its specifier lies
within the mask. -/
theorem rowMatches_iff_of_accepted (row : MapRow)
    (h : rowAccepted bus child interruptCells interrupt mask maskedUnitAddress row = true) :
    RowMatches bus child interruptCells interrupt mask maskedUnitAddress row ↔
      RowWithinMask bus interruptCells mask row := by
  obtain ⟨hunit, hcmp⟩ := (rowAccepted_iff _ _ _ _ _ _ row).mp h
  obtain ⟨hwhat, -, -, heq⟩ := (fbpPropertyCompare_iff _ _ _ _ _).mp hcmp
  constructor
  · rintro ⟨-, -, hmask, hspec⟩
    refine ⟨hmask, fun i hi => ?_⟩
    rw [hspec i hi, BitVec.and_assoc, BitVec.and_self]
  · rintro ⟨hmask, hwithin⟩
    refine ⟨hunit, hwhat, hmask, fun i hi => ?_⟩
    rw [heq i hi, BitVec.and_assoc, BitVec.and_self, hwithin i hi]

/-- Once the code accepts a row within the mask, it accepts every row the rule
selects. -/
theorem rowAccepted_of_rowMatches (row other : MapRow)
    (hrow : rowAccepted bus child interruptCells interrupt mask maskedUnitAddress row = true)
    (hcells : interruptCells.toNat ≤ other.specifier.cells)
    (h : RowMatches bus child interruptCells interrupt mask maskedUnitAddress other) :
    rowAccepted bus child interruptCells interrupt mask maskedUnitAddress other = true := by
  obtain ⟨-, hcmp⟩ := (rowAccepted_iff _ _ _ _ _ _ row).mp hrow
  obtain ⟨hwhat, -, -, heq⟩ := (fbpPropertyCompare_iff _ _ _ _ _).mp hcmp
  obtain ⟨hunit, -, hmask, hspec⟩ := h
  refine (rowAccepted_iff _ _ _ _ _ _ other).mpr ⟨hunit, ?_⟩
  refine (fbpPropertyCompare_iff _ _ _ _ _).mpr ⟨hwhat, hcells, Or.inr hmask, fun i hi => ?_⟩
  have hinside : cellAt bus.fdt.mem interrupt i &&& cellAt bus.fdt.mem mask i =
      cellAt bus.fdt.mem interrupt i := by
    rw [heq i hi, BitVec.and_assoc, BitVec.and_self]
  rw [hspec i hi, BitVec.and_assoc, BitVec.and_self, hinside]

end Accept

section Rows

variable (bus : DtBus) (child nexus : DtDevice) (interruptCells : U32)
  (interrupt mask : DtProperty) (maskedUnitAddress : DtBusAddress)

theorem nexusRowLoop_succ (fuel : Nat) (map : DtProperty) :
    nexusRowLoop bus child nexus interruptCells interrupt mask maskedUnitAddress
        (fuel + 1) map =
      if map.iter < map.end_ then
        match parseRow bus child nexus interruptCells map with
        | .error e => .error e
        | .ok (row, rest) =>
          if rowAccepted bus child interruptCells interrupt mask maskedUnitAddress row then
            .ok row.target
          else
            nexusRowLoop bus child nexus interruptCells interrupt mask maskedUnitAddress
              fuel rest
      else .error .notFound := by
  rw [nexusRowLoop]
  refine if_congr Iff.rfl ?_ rfl
  unfold parseRow rowUnitMatches rowUnitAddress rowAccepted
  by_cases hcells : child.info.addressCells.val = 0
  · simp only [hcells, ↓reduceIte, decide_true, Bool.true_or, Bool.true_and]
    cases map.skip? interruptCells.toNat with
    | none => rfl
    | some rest =>
        dsimp only
        rcases nexusRowTarget bus nexus rest with e | ⟨target, next⟩ <;> rfl
  · simp only [hcells, ↓reduceIte, decide_false, Bool.false_or]
    rcases dtIoParsePropBusAddress bus.fdt.mem child map 0 with ⟨e | unitAddress, specifier⟩
    · rfl
    · dsimp only
      cases specifier.skip? interruptCells.toNat with
      | none => rfl
      | some rest =>
          dsimp only
          rcases nexusRowTarget bus nexus rest with e | ⟨target, next⟩ <;> rfl

theorem nexusRowLoop_eq (fuel : Nat) (map : DtProperty) :
    nexusRowLoop bus child nexus interruptCells interrupt mask maskedUnitAddress fuel map =
      match (mapRows bus child nexus interruptCells fuel map).1.find?
          (rowAccepted bus child interruptCells interrupt mask maskedUnitAddress) with
      | some row => .ok row.target
      | none =>
        match (mapRows bus child nexus interruptCells fuel map).2 with
        | none => .error .notFound
        | some e => .error e := by
  induction fuel generalizing map with
  | zero => rfl
  | succ fuel ih =>
      rw [nexusRowLoop_succ, mapRows]
      split
      · rcases parseRow bus child nexus interruptCells map with e | ⟨row, rest⟩
        · rfl
        · simp only [List.find?_cons]
          cases rowAccepted bus child interruptCells interrupt mask maskedUnitAddress row with
          | true => rfl
          | false => simpa using ih rest
      · rfl

private theorem iter_le_of_skip? (p q : DtProperty) (n : Nat) (h : p.skip? n = some q) :
    n ≤ p.cells ∧ p.iter ≤ q.iter := by
  unfold DtProperty.skip? at h
  split at h
  · next hn =>
      obtain rfl := Option.some.inj h
      exact ⟨hn, by simp⟩
  · simp at h

private theorem iter_le_of_rowUnitAddress (mem : Nat → U8) (map q : DtProperty)
    (unit : DtBusAddress) (h : rowUnitAddress mem child map = .ok (unit, q)) :
    map.iter ≤ q.iter := by
  unfold rowUnitAddress at h
  split at h
  · simp only [Except.ok.injEq, Prod.mk.injEq] at h
    exact Nat.le_of_eq (by rw [h.2])
  · rw [dtIoParsePropBusAddress, parseAddressElem_zero] at h
    split at h
    · simp at h
    · next heq =>
        split at heq
        · simp only [Prod.mk.injEq, Except.ok.injEq] at heq h
          rw [← h.2, ← heq.2]
          simp
        · simp at heq

private theorem iter_of_nexusRowTarget (map rest : DtProperty) (m : NexusMatch)
    (h : nexusRowTarget bus nexus map = .ok (m, rest)) :
    map.iter < m.interrupt.iter ∧ m.interrupt.iter ≤ rest.iter := by
  unfold nexusRowTarget at h
  split at h
  · simp at h
  · next hdevice =>
      have hphandle := (dtIoParsePropDevice_zero bus nexus _ _ _ hdevice).1
      split at h
      · simp at h
      · split at h
        · simp at h
        · split at h
          · simp at h
          · next hskip =>
              have haddress := (iter_le_of_skip? _ _ _ hskip).2
              split at h
              · simp only [Except.ok.injEq, Prod.mk.injEq] at h
                obtain ⟨rfl, rfl⟩ := h
                simp only [DtProperty.iter_advance]
                omega
              · simp at h

/-- A row holds its specifier, and its parent's specifier lies after the row's
beginning and before the next row. -/
theorem parseRow_ok (map rest : DtProperty) (row : MapRow)
    (h : parseRow bus child nexus interruptCells map = .ok (row, rest)) :
    interruptCells.toNat ≤ row.specifier.cells ∧
      map.iter < row.target.interrupt.iter ∧ row.target.interrupt.iter ≤ rest.iter := by
  unfold parseRow at h
  split at h
  · simp at h
  · next hunit =>
      have hstart := iter_le_of_rowUnitAddress child _ _ _ _ hunit
      split at h
      · simp at h
      · next hskip =>
          obtain ⟨hcells, hspecifier⟩ := iter_le_of_skip? _ _ _ hskip
          split at h
          · simp at h
          · next htarget =>
              obtain ⟨hparent, hrest⟩ := iter_of_nexusRowTarget _ _ _ _ _ htarget
              simp only [Except.ok.injEq, Prod.mk.injEq] at h
              obtain ⟨rfl, rfl⟩ := h
              exact ⟨hcells, by simp only; omega, hrest⟩

theorem mapRows_ordered (fuel : Nat) (map : DtProperty) :
    (∀ row ∈ (mapRows bus child nexus interruptCells fuel map).1,
        interruptCells.toNat ≤ row.specifier.cells ∧
          map.iter < row.target.interrupt.iter) ∧
      ((mapRows bus child nexus interruptCells fuel map).1.map
        (·.target.interrupt.iter)).Pairwise (· < ·) := by
  induction fuel generalizing map with
  | zero => simp [mapRows]
  | succ fuel ih =>
      rw [mapRows]
      split
      · cases hrow : parseRow bus child nexus interruptCells map with
        | error e => simp
        | ok parsed =>
            obtain ⟨row, rest⟩ := parsed
            obtain ⟨hcells, hfirst, hnext⟩ := parseRow_ok bus child nexus interruptCells
              map rest row hrow
            obtain ⟨hall, hpairs⟩ := ih rest
            constructor
            · intro r hr
              rcases List.mem_cons.mp hr with rfl | hr
              · exact ⟨hcells, hfirst⟩
              · exact ⟨(hall r hr).1, by have := (hall r hr).2; omega⟩
            · refine List.pairwise_cons.mpr ⟨?_, hpairs⟩
              intro i hi
              obtain ⟨r, hr, rfl⟩ := List.mem_map.mp hi
              exact Nat.lt_of_le_of_lt hnext (hall r hr).2
      · simp

theorem target_injective (fuel : Nat) (map : DtProperty) (a b : MapRow)
    (ha : a ∈ (mapRows bus child nexus interruptCells fuel map).1)
    (hb : b ∈ (mapRows bus child nexus interruptCells fuel map).1)
    (h : a.target = b.target) : a = b := by
  have hnodup := (mapRows_ordered bus child nexus interruptCells fuel map).2.imp
    (fun hlt => Nat.ne_of_lt hlt)
  exact List.inj_on_of_nodup_map hnodup ha hb (by rw [h])

end Rows

end FdtBusPkg
