import FdtBusPkg.DtBus.RegParse

/-!
Indexed and sequential parsing of `reg` and `ranges`. Both ways reach the same
entry with the same fields; they differ in the index under which the companion
property is asked for the memory type and attributes of the entry.
-/
namespace FdtBusPkg

theorem moved_parseAddressElem (mem : Nat → U8) (n : CellCount) (p q : DtProperty)
    (v : U128) (h : parseAddressElem mem n p 0 = (.ok v, q)) : p.Moved q n := by
  rw [parseAddressElem_zero] at h
  split at h
  · next hle => exact ⟨hle.1, (Prod.mk.inj h).2.symm⟩
  · exact absurd h (by simp)

theorem moved_parseSizeElem (mem : Nat → U8) (n : CellCount) (p q : DtProperty)
    (v : U128) (h : parseSizeElem mem n p 0 = (.ok v, q)) : p.Moved q n := by
  rw [parseSizeElem_zero] at h
  split at h
  · next hle => exact ⟨hle, (Prod.mk.inj h).2.symm⟩
  · exact absurd h (by simp)

inductive EntryKind
  | reg
  | range
  deriving DecidableEq, Repr

namespace EntryKind

def isReg : EntryKind → Bool
  | reg => true
  | range => false

def cells (kind : EntryKind) (device : DtDevice) : Nat :=
  match kind with
  | reg => device.info.addressCells.val + device.info.sizeCells.val
  | range => tripletCells device

end EntryKind

/-- `ParseProp` of type `REG` or `RANGE`. -/
def parsePropEntry {σ : Type} (kind : EntryKind) (fdt : Fdt) (applyGcd : ApplyGcd σ)
    (device : DtDevice) (p : DtProperty) (index : Nat) (s : σ) :
    (EfiResult (DtReg ⊕ DtRange) × DtProperty) × σ :=
  match kind with
  | .reg =>
    let r := dtIoParsePropReg fdt applyGcd device p index s
    ((r.1.1.map Sum.inl, r.1.2), r.2)
  | .range =>
    let r := dtIoParsePropRange fdt applyGcd device p index s
    ((r.1.1.map Sum.inr, r.1.2), r.2)

def entryOutcome {σ : Type} (kind : EntryKind) (fdt : Fdt) (applyGcd : ApplyGcd σ)
    (device : DtDevice) (p : DtProperty) (index : Nat) (s : σ) :
    EfiResult (DtReg ⊕ DtRange) × σ :=
  let r := parsePropEntry kind fdt applyGcd device p index s
  (r.1.1, r.2)

/-- A GCD map that records the type and attributes of the last request. -/
def recordingGcd : ApplyGcd (Option (GcdMemoryType × U64)) :=
  fun _ _ type attributes _ _ => (.ok (), some (type, attributes))

/-- The type and attributes a call requests from the GCD map. -/
def entryRequest (kind : EntryKind) (fdt : Fdt) (device : DtDevice) (p : DtProperty)
    (index : Nat) : Option (GcdMemoryType × U64) :=
  (entryOutcome kind fdt recordingGcd device p index none).2

/-- `count` successful calls with index zero. -/
def parseEntries {σ : Type} (kind : EntryKind) (fdt : Fdt) (applyGcd : ApplyGcd σ)
    (device : DtDevice) : Nat → DtProperty → σ → Option (DtProperty × σ)
  | 0, p, s => some (p, s)
  | count + 1, p, s =>
    match parsePropEntry kind fdt applyGcd device p 0 s with
    | ((.error _, _), _) => none
    | ((.ok _, q), s) => parseEntries kind fdt applyGcd device count q s

/-- A property, and the cursor after some successful calls with index zero. -/
structure EntryCursor (kind : EntryKind) (fdt : Fdt) (device : DtDevice) where
  start : DtProperty
  count : Nat
  cursor : DtProperty
  reached : ∃ (σ : Type) (applyGcd : ApplyGcd σ) (s s' : σ),
    parseEntries kind fdt applyGcd device count start s = some (cursor, s')

section Indexed

variable (kind : EntryKind) (fdt : Fdt) (device : DtDevice)

/-- The type and attributes of an entry, from the companion property. -/
def companionEntry (index : Nat) : EfiResult (GcdMemoryType × U64) :=
  dtPropGetRegOrRangeEfiTypeAndAttrs fdt device kind.isReg index

/-- The call at the cursor does what the call with the absolute index does at the start,
and both request what the companion property says of that entry. -/
def IndexedAgrees (c : EntryCursor kind fdt device) (n : Nat) : Prop :=
  (∀ (σ : Type) (applyGcd : ApplyGcd σ) (s : σ),
      entryOutcome kind fdt applyGcd device c.cursor n s =
        entryOutcome kind fdt applyGcd device c.start (c.count + n) s) ∧
    (∀ request, entryRequest kind fdt device c.cursor n = some request →
      companionEntry kind fdt device (c.count + n) = .ok request) ∧
    (∀ request, entryRequest kind fdt device c.start (c.count + n) = some request →
      companionEntry kind fdt device (c.count + n) = .ok request)

def entryAt (p : DtProperty) (index : Nat) : Option DtProperty :=
  if kind.cells device = 0 then
    none
  else if h : p.cells / kind.cells device ≤ index then
    none
  else
    some (p.advance (kind.cells device * index)
      (Nat.le_trans (Nat.mul_le_mul_left _ (Nat.le_succ _)) (p.elem_le_cells _ index h)))

structure EntryFields where
  base : DtBusAddress
  length : DtSize
  next : DtProperty
  value : DtBusAddress × Option DtIoRef → DtReg ⊕ DtRange

def entryFields (mem : Nat → U8) (entry : DtProperty) : EfiResult EntryFields :=
  match kind with
  | .reg =>
    match dtIoParsePropBusAddress mem device entry 0 with
    | (.error e, _) => .error e
    | (.ok busBase, q) =>
      match dtIoParsePropSize mem device q 0 with
      | (.error e, _) => .error e
      | (.ok length, q) =>
        .ok ⟨busBase, length, q, fun t => .inl ⟨busBase, t.1, length, t.2⟩⟩
  | .range =>
    match dtIoParsePropChildBusAddress mem device entry 0 with
    | (.error e, _) => .error e
    | (.ok childBase, q) =>
      match dtIoParsePropBusAddress mem device q 0 with
      | (.error e, _) => .error e
      | (.ok parentBase, q) =>
        match dtIoParsePropChildSize mem device q 0 with
        | (.error e, _) => .error e
        | (.ok length, q) =>
          .ok ⟨parentBase, length, q, fun t => .inr ⟨childBase, parentBase, t.1, length, t.2⟩⟩

theorem parsePropEntry_absent {σ : Type} (applyGcd : ApplyGcd σ) (p : DtProperty) (index : Nat)
    (s : σ) (habsent : kind.cells device = 0 ∨ p.cells / kind.cells device ≤ index) :
    parsePropEntry kind fdt applyGcd device p index s = ((.error .notFound, p), s) := by
  cases kind with
  | reg =>
      by_cases hzero : device.info.addressCells.val + device.info.sizeCells.val = 0
      · simp only [parsePropEntry, dtIoParsePropReg, if_pos hzero]
        rfl
      · have hout : p.cells / (device.info.addressCells.val + device.info.sizeCells.val) ≤ index :=
          habsent.resolve_left hzero
        simp only [parsePropEntry, dtIoParsePropReg, if_neg hzero, dif_pos hout]
        rfl
  | range =>
      by_cases hzero : tripletCells device = 0
      · simp only [parsePropEntry, dtIoParsePropRange, if_pos hzero]
        rfl
      · have hout : p.cells / tripletCells device ≤ index := habsent.resolve_left hzero
        simp only [parsePropEntry, dtIoParsePropRange, if_neg hzero, dif_pos hout]
        rfl

theorem parsePropEntry_eq {σ : Type} (applyGcd : ApplyGcd σ) (p : DtProperty) (index : Nat)
    (s : σ) :
    parsePropEntry kind fdt applyGcd device p index s =
      match entryAt kind device p index with
      | none => ((.error .notFound, p), s)
      | some entry =>
        match entryFields kind device fdt.mem entry with
        | .error e => ((.error e, p), s)
        | .ok f =>
          match translateAndApply fdt applyGcd device kind.isReg index f.base f.length s with
          | (.error e, s) => ((.error e, p), s)
          | (.ok t, s) => ((.ok (f.value t), f.next), s) := by
  by_cases hcells : kind.cells device = 0
  · rw [entryAt, if_pos hcells]
    exact parsePropEntry_absent kind fdt device applyGcd p index s (.inl hcells)
  by_cases hindex : p.cells / kind.cells device ≤ index
  · rw [entryAt, if_neg hcells, dif_pos hindex]
    exact parsePropEntry_absent kind fdt device applyGcd p index s (.inr hindex)
  rw [entryAt, if_neg hcells, dif_neg hindex]
  cases kind with
  | reg =>
      have hnone : ¬ device.info.addressCells.val + device.info.sizeCells.val = 0 := hcells
      have hin : ¬ p.cells / (device.info.addressCells.val + device.info.sizeCells.val) ≤ index :=
        hindex
      simp only [parsePropEntry, dtIoParsePropReg, if_neg hnone, dif_neg hin, entryFields,
        EntryKind.cells, EntryKind.isReg]
      rcases dtIoParsePropBusAddress fdt.mem device (p.advance _ _) 0 with ⟨e | busBase, q⟩
      · rfl
      rcases hsize : dtIoParsePropSize fdt.mem device q 0 with ⟨e | length, q'⟩
      · simp only [hsize]
        rfl
      simp only [hsize]
      rcases translateAndApply fdt applyGcd device true index busBase length s with ⟨e | t, s'⟩ <;>
        rfl
  | range =>
      have hnone : ¬ tripletCells device = 0 := hcells
      have hin : ¬ p.cells / tripletCells device ≤ index := hindex
      simp only [parsePropEntry, dtIoParsePropRange, if_neg hnone, dif_neg hin, entryFields,
        EntryKind.cells, EntryKind.isReg]
      rcases dtIoParsePropChildBusAddress fdt.mem device (p.advance _ _) 0 with ⟨e | childBase, q⟩
      · rfl
      rcases hbase : dtIoParsePropBusAddress fdt.mem device q 0 with ⟨e | parentBase, q'⟩
      · simp only [hbase]
        rfl
      rcases hsize : dtIoParsePropChildSize fdt.mem device q' 0 with ⟨e | length, q''⟩
      · simp only [hbase, hsize]
        rfl
      simp only [hbase, hsize]
      rcases translateAndApply fdt applyGcd device false index parentBase length s with
        ⟨e | t, s'⟩ <;> rfl

theorem moved_entryFields (mem : Nat → U8) (entry : DtProperty) (f : EntryFields)
    (h : entryFields kind device mem entry = .ok f) :
    entry.Moved f.next (kind.cells device) := by
  cases kind with
  | reg =>
      rw [entryFields] at h
      split at h
      · exact absurd h (by simp)
      · next busBase q hbase =>
        split at h
        · exact absurd h (by simp)
        · next length q' hsize =>
          rw [← Except.ok.inj h]
          exact DtProperty.moved_trans (moved_parseAddressElem mem _ _ _ _ hbase)
            (moved_parseSizeElem mem _ _ _ _ hsize)
  | range =>
      rw [entryFields] at h
      split at h
      · exact absurd h (by simp)
      · next childBase q hchild =>
        split at h
        · exact absurd h (by simp)
        · next parentBase q' hparent =>
          split at h
          · exact absurd h (by simp)
          · next length q'' hsize =>
            rw [← Except.ok.inj h]
            exact DtProperty.moved_trans (DtProperty.moved_trans
              (moved_parseAddressElem mem _ _ _ _ hchild)
              (moved_parseAddressElem mem _ _ _ _ hparent)) (moved_parseSizeElem mem _ _ _ _ hsize)

theorem entryAt_advance (p : DtProperty) (count n : Nat)
    (h : kind.cells device * count ≤ p.cells) :
    entryAt kind device (p.advance (kind.cells device * count) h) n =
      entryAt kind device p (count + n) := by
  rw [entryAt, entryAt]
  by_cases hcells : kind.cells device = 0
  · rw [if_pos hcells, if_pos hcells]
  rw [if_neg hcells, if_neg hcells]
  have hpos := Nat.pos_of_ne_zero hcells
  have hindex : (p.advance (kind.cells device * count) h).cells / kind.cells device ≤ n ↔
      p.cells / kind.cells device ≤ count + n := by
    rw [DtProperty.cells_advance, Nat.sub_mul_div]
    omega
  by_cases hout : p.cells / kind.cells device ≤ count + n
  · rw [dif_pos hout, dif_pos (hindex.mpr hout)]
  · rw [dif_neg hout, dif_neg (fun hin => hout (hindex.mp hin)), DtProperty.advance_advance]
    simp only [Nat.mul_add]

theorem moved_parsePropEntry {σ : Type} (applyGcd : ApplyGcd σ) (p q : DtProperty)
    (s s' : σ) (v : DtReg ⊕ DtRange)
    (h : parsePropEntry kind fdt applyGcd device p 0 s = ((.ok v, q), s')) :
    p.Moved q (kind.cells device) := by
  rw [parsePropEntry_eq] at h
  cases hentry : entryAt kind device p 0 with
  | none => simp [hentry] at h
  | some entry =>
      have hsame : entry = p := by
        rw [entryAt] at hentry
        split at hentry
        · exact absurd hentry (by simp)
        · split at hentry
          · exact absurd hentry (by simp)
          · rw [← Option.some.inj hentry]
            rfl
      subst hsame
      cases hfields : entryFields kind device fdt.mem entry with
      | error e => simp [hentry, hfields] at h
      | ok f =>
          have hnext := moved_entryFields kind device fdt.mem entry f hfields
          rcases happly : translateAndApply fdt applyGcd device kind.isReg 0 f.base f.length s with
            ⟨e | t, u⟩
          · simp [hentry, hfields, happly] at h
          · simp only [hentry, hfields, happly, Prod.mk.injEq] at h
            rw [← h.1.2]
            exact hnext

theorem moved_parseEntries {σ : Type} (applyGcd : ApplyGcd σ) (count : Nat) (p q : DtProperty)
    (s s' : σ) (h : parseEntries kind fdt applyGcd device count p s = some (q, s')) :
    p.Moved q (kind.cells device * count) := by
  induction count generalizing p s with
  | zero =>
      rw [← (Prod.mk.inj (Option.some.inj h)).1]
      exact ⟨Nat.zero_le _, rfl⟩
  | succ count ih =>
      rw [parseEntries] at h
      split at h
      · exact absurd h (by simp)
      · next v q' s'' hcall =>
        rw [Nat.mul_succ, Nat.add_comm]
        exact DtProperty.moved_trans
          (moved_parsePropEntry kind fdt device applyGcd p q' s s'' v hcall) (ih _ _ h)

/-- What becomes of an entry, given what the companion property says of it. -/
def applyEntry {σ : Type} (applyGcd : ApplyGcd σ) (entry : Option DtProperty)
    (companion : EfiResult (GcdMemoryType × U64)) (s : σ) : EfiResult (DtReg ⊕ DtRange) × σ :=
  match entry with
  | none => (.error .notFound, s)
  | some entry =>
    match entryFields kind device fdt.mem entry with
    | .error e => (.error e, s)
    | .ok f =>
      match dtDeviceTranslateRangeToCpu fdt device f.base f.length with
      | .error e => (.error e, s)
      | .ok (translated, some bus) => (.ok (f.value (translated, some bus.info.dtIo)), s)
      | .ok (translated, none) =>
        if f.length = 0 then
          (.ok (f.value (translated, none)), s)
        else
          match companion with
          | .error e => (.error e, s)
          | .ok (type, attributes) =>
            let r := applyGcd (translated.setWidth 64) (f.length.setWidth 64) type attributes true s
            (r.1.map (fun _ => f.value (translated, none)), r.2)

theorem entryOutcome_eq {σ : Type} (applyGcd : ApplyGcd σ) (p : DtProperty) (index : Nat)
    (s : σ) :
    entryOutcome kind fdt applyGcd device p index s =
      applyEntry kind fdt device applyGcd (entryAt kind device p index)
        (companionEntry kind fdt device index) s := by
  rw [entryOutcome, parsePropEntry_eq, applyEntry.eq_def]
  cases entryAt kind device p index with
  | none => rfl
  | some entry =>
      dsimp only
      cases entryFields kind device fdt.mem entry with
      | error e => rfl
      | ok f =>
          dsimp only
          rw [translateAndApply]
          rcases dtDeviceTranslateRangeToCpu fdt device f.base f.length with
            e | ⟨translated, _ | bus⟩
          · rfl
          · dsimp only
            by_cases hlength : f.length = 0
            · rw [if_pos hlength, if_pos hlength]
            · rw [if_neg hlength, if_neg hlength, companionEntry]
              rcases dtPropGetRegOrRangeEfiTypeAndAttrs fdt device kind.isReg index with
                e | ⟨type, attributes⟩
              · rfl
              · dsimp only
                rcases applyGcd (translated.setWidth 64) (f.length.setWidth 64) type attributes
                  true s with ⟨e | u, s'⟩ <;> rfl
          · rfl

/-- The entry is in CPU space, so its range is applied to the GCD map. -/
def EntryApplied (entry : Option DtProperty) : Prop :=
  ∃ at_ f translated, entry = some at_ ∧ entryFields kind device fdt.mem at_ = .ok f ∧
    dtDeviceTranslateRangeToCpu fdt device f.base f.length = .ok (translated, none) ∧
    f.length ≠ 0

theorem applyEntry_congr {σ : Type} (applyGcd : ApplyGcd σ) (entry : Option DtProperty)
    (companion companion' : EfiResult (GcdMemoryType × U64)) (s : σ)
    (h : EntryApplied kind fdt device entry → companion = companion') :
    applyEntry kind fdt device applyGcd entry companion s =
      applyEntry kind fdt device applyGcd entry companion' s := by
  cases entry with
  | none => rfl
  | some entry =>
      simp only [applyEntry]
      cases hfields : entryFields kind device fdt.mem entry with
      | error e => rfl
      | ok f =>
          dsimp only
          rcases htranslate : dtDeviceTranslateRangeToCpu fdt device f.base f.length with
            e | ⟨translated, _ | bus⟩
          · rfl
          · dsimp only
            by_cases hlength : f.length = 0
            · rw [if_pos hlength, if_pos hlength]
            · rw [h ⟨entry, f, translated, rfl, hfields, htranslate, hlength⟩]
          · rfl

theorem applyEntry_recording (entry : Option DtProperty)
    (companion : EfiResult (GcdMemoryType × U64)) (h : EntryApplied kind fdt device entry) :
    ∃ value, applyEntry kind fdt device recordingGcd entry companion none =
      match companion with
      | .error e => (.error e, none)
      | .ok request => (.ok value, some request) := by
  obtain ⟨at_, f, translated, rfl, hfields, htranslate, hlength⟩ := h
  refine ⟨f.value (translated, none), ?_⟩
  simp only [applyEntry, hfields, htranslate, if_neg hlength]
  cases companion <;> rfl

theorem applyEntry_not_recording (entry : Option DtProperty)
    (companion : EfiResult (GcdMemoryType × U64)) (h : ¬ EntryApplied kind fdt device entry) :
    (applyEntry kind fdt device recordingGcd entry companion none).2 = none := by
  rw [applyEntry_congr kind fdt device recordingGcd entry companion (.error .notFound) none
    (fun happlied => absurd happlied h)]
  rw [applyEntry.eq_def]
  split
  · rfl
  · split
    · rfl
    · split
      · rfl
      · rfl
      · split <;> rfl

theorem companionEntry_of_entryRequest (p : DtProperty) (index : Nat)
    (request : GcdMemoryType × U64) (h : entryRequest kind fdt device p index = some request) :
    companionEntry kind fdt device index = .ok request := by
  rw [entryRequest, entryOutcome_eq] at h
  by_cases happlied : EntryApplied kind fdt device (entryAt kind device p index)
  · obtain ⟨value, hvalue⟩ := applyEntry_recording kind fdt device _
      (companionEntry kind fdt device index) happlied
    rw [hvalue] at h
    cases hcompanion : companionEntry kind fdt device index with
    | error e => simp [hcompanion] at h
    | ok found =>
        rw [hcompanion] at h
        rw [Option.some.inj h]
  · rw [applyEntry_not_recording kind fdt device _ _ happlied] at h
    exact absurd h (by simp)

theorem companion_eq_of_agrees (entry : Option DtProperty)
    (companion companion' : EfiResult (GcdMemoryType × U64))
    (happlied : EntryApplied kind fdt device entry)
    (h : applyEntry kind fdt device recordingGcd entry companion none =
      applyEntry kind fdt device recordingGcd entry companion' none) :
    companion = companion' := by
  obtain ⟨value, hvalue⟩ := applyEntry_recording kind fdt device entry companion happlied
  obtain ⟨value', hvalue'⟩ := applyEntry_recording kind fdt device entry companion' happlied
  rw [hvalue, hvalue'] at h
  cases companion with
  | error e =>
      cases companion' with
      | error e' => rw [Except.error.inj (Prod.mk.inj h).1]
      | ok request' => exact absurd (Prod.mk.inj h).1 (by simp)
  | ok request =>
      cases companion' with
      | error e' => exact absurd (Prod.mk.inj h).1 (by simp)
      | ok request' => rw [Option.some.inj (Prod.mk.inj h).2]

theorem entryAt_cursor (c : EntryCursor kind fdt device) (n : Nat) :
    entryAt kind device c.cursor n = entryAt kind device c.start (c.count + n) := by
  obtain ⟨σ, applyGcd, s, s', hreached⟩ := c.reached
  obtain ⟨hle, hcursor⟩ := moved_parseEntries kind fdt device applyGcd _ _ _ s s' hreached
  rw [hcursor]
  exact entryAt_advance kind device c.start c.count n hle

end Indexed

/-- Indexed and sequential parsing agree exactly when the companion property says the
same of the entry under its index from the cursor as under its index from the start,
or the entry is not applied to the GCD map. -/
theorem indexedAgrees_iff (kind : EntryKind) (fdt : Fdt) (device : DtDevice)
    (c : EntryCursor kind fdt device) (n : Nat) :
    IndexedAgrees kind fdt device c n ↔
      (EntryApplied kind fdt device (entryAt kind device c.start (c.count + n)) →
        companionEntry kind fdt device n = companionEntry kind fdt device (c.count + n)) := by
  constructor
  · intro h happlied
    have houtcome := h.1 _ recordingGcd none
    rw [entryOutcome_eq, entryOutcome_eq, entryAt_cursor] at houtcome
    exact companion_eq_of_agrees kind fdt device _ _ _ happlied houtcome
  · intro h
    have houtcome : ∀ (σ : Type) (applyGcd : ApplyGcd σ) (s : σ),
        entryOutcome kind fdt applyGcd device c.cursor n s =
          entryOutcome kind fdt applyGcd device c.start (c.count + n) s := by
      intro σ applyGcd s
      rw [entryOutcome_eq, entryOutcome_eq, entryAt_cursor]
      exact applyEntry_congr kind fdt device applyGcd _ _ _ s h
    refine ⟨houtcome, fun request hrequest => ?_, fun request hrequest => ?_⟩
    · rw [entryRequest, houtcome] at hrequest
      exact companionEntry_of_entryRequest kind fdt device _ _ request hrequest
    · exact companionEntry_of_entryRequest kind fdt device _ _ request hrequest

/-- The registers `<0x1000 0x10>` and `<0x2000 0x10>`, uncached I/O memory and
write-back system memory. -/
def twoRegsFdt : Fdt where
  mem a := ([0, 0, 0x10, 0,  0, 0, 0, 0x10,  0, 0, 0x20, 0,  0, 0, 0, 0x10,
    0, 0, 0, 4,  0, 0, 0, 0,  0, 0, 0, 1,
    0, 0, 0, 3,  0, 0, 0, 0,  0, 0, 0, 8] : List U8).getD a 0
  getprop _ name :=
    if name = "reg" then .ok (0, 16)
    else if name = "fdtbuspkg,reg-attrs" then .ok (16, 24)
    else .error .notFound

def twoRegsDevice : DtDevice :=
  .child ⟨2, 2, 1, 1, 1, 1, 1, false, 0, none, MAX_UINT64⟩
    (.root ⟨1, 1, 0, 2, 2, 1, 1, false, 0, none, MAX_UINT64⟩)

def secondReg : EntryCursor .reg twoRegsFdt twoRegsDevice where
  start := DtProperty.ofBuf 0 16
  count := 1
  cursor := (DtProperty.ofBuf 0 16).advance 2 (by decide)
  reached := ⟨_, recordingGcd, none, some (.memoryMappedIo, 1), rfl⟩

/-- The second register is requested with the attributes of the first. -/
theorem secondReg_disagrees : ¬ IndexedAgrees .reg twoRegsFdt twoRegsDevice secondReg 0 := by
  intro h
  have hrequest : entryRequest .reg twoRegsFdt twoRegsDevice secondReg.cursor 0 =
      some (.memoryMappedIo, 1) := rfl
  have hcompanion : companionEntry .reg twoRegsFdt twoRegsDevice (secondReg.count + 0) =
      .ok (.systemMemory, 8) := rfl
  have hsame := h.2.1 _ hrequest
  rw [hcompanion] at hsame
  exact absurd hsame (by decide)

end FdtBusPkg
