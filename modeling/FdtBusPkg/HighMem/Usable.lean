import FdtBusPkg.HighMem.MemoryRanges

/-!
What a successful run of the memory driver leaves behind, said of the memory before the run.
Each entry decides about the CPU attributes of all its pages by the type reported for its
last one, which entries before it may have converted, or the reading of its own register.
-/
namespace FdtBusPkg

namespace MemoryEntry

variable (e : MemoryEntry) (forwards : U64 → Option U64)

/-- The CPU attributes that the updates of the map forward for an address walked for the first
time: those set last. -/
def forwarded (c : GcdMemoryType × U64) : Option U64 :=
  let read := if e.getRequest.sets c then (e.type, e.attributes) else c
  (if e.setRequest.sets read then forwards EFI_MEMORY_WB else none).or
    (if e.getRequest.sets c then forwards e.attributes else none)

theorem sets_setRequest_iff (c : GcdMemoryType × U64) :
    e.setRequest.sets c = false ↔ c = (.systemMemory, EFI_MEMORY_WB) := by
  rw [Prod.ext_iff]
  simp only [GcdRequest.sets, GcdRequest.setsAttributes, GcdRequest.overrides,
    GcdRequest.haveConflict, setRequest, EFI_MEMORY_WB]
  grind

theorem sets_getRequest_converted :
    e.getRequest.sets (.systemMemory, EFI_MEMORY_WB) = false := by
  simp only [GcdRequest.sets, GcdRequest.setsAttributes, GcdRequest.overrides, getRequest,
    EFI_MEMORY_WB]
  simp

theorem convert_eq (c : PageState) :
    e.convert forwards c =
      ((.systemMemory, EFI_MEMORY_WB), (e.forwarded forwards c.1).getD c.2) := by
  have hset (c : PageState) : e.setRequest.convert forwards c = ((.systemMemory, EFI_MEMORY_WB),
      (if e.setRequest.sets c.1 then forwards EFI_MEMORY_WB else none).getD c.2) := by
    rw [GcdRequest.convert]
    cases hsets : e.setRequest.sets c.1 with
    | true => rfl
    | false => exact Prod.ext ((e.sets_setRequest_iff c.1).mp hsets) rfl
  rw [convert, hset, forwarded, Option.getD_or, GcdRequest.convert]
  cases e.getRequest.sets c.1 <;> rfl

theorem convert_converted (cpu : U64) :
    e.convert forwards ((.systemMemory, EFI_MEMORY_WB), cpu) =
      ((.systemMemory, EFI_MEMORY_WB), cpu) := by
  have hset := (e.sets_setRequest_iff _).mpr rfl
  rw [convert_eq, forwarded, e.sets_getRequest_converted]
  simp only [Bool.false_eq_true, if_false, hset]
  rfl

end MemoryEntry

section Closed

variable {σ : Type} (g : MemoryPlatform σ) (fdt : Fdt) (device : DtDevice)
  (stack : Nat → GcdDescriptor) (v : Nat → PageState)

def walks (index x : Nat) : Bool :=
  match memoryEntry fdt device index with
  | .error _ => false
  | .ok e => e.Walks x

def walkedBefore : Nat → Nat → Bool
  | 0, _ => false
  | index + 1, x => walkedBefore index x || walks fdt device index x

/-- The type reported for an entry, from memory as it was before the run. -/
def reportedType (index : Nat) (e : MemoryEntry) : GcdMemoryType :=
  if e.setRequest.alignedAddress < e.setRequest.alignedEnd then
    let last := e.setRequest.alignedEnd.toNat - 1
    if walkedBefore fdt device index last then .systemMemory
    else if e.getRequest.sets (v last).1 then e.type
    else (v last).1.1
  else
    (stack index).gcdMemoryType

/-- The CPU attributes that an entry gives to an address, if any. -/
def given (index x : Nat) : Option U64 :=
  match memoryEntry fdt device index with
  | .error _ => none
  | .ok e =>
    if reportedType fdt device stack v index e ≠ .systemMemory ∧ e.Covers x then
      some (memoryAttributes g.dxeNxMemoryProtectionPolicy)
    else if walkedBefore fdt device index x = false ∧ e.Walks x then
      e.forwarded g.forwards (v x).1
    else
      none

/-- The last of the CPU attributes that the entries before the index give to an address. -/
def lastGiven : Nat → Nat → Option U64
  | 0, _ => none
  | index + 1, x => (given g fdt device stack v index x).or (lastGiven index x)

theorem oldType_eq (index : Nat) (e : MemoryEntry) (w : Nat → PageState)
    (hw : ∀ x, (w x).1 =
      if walkedBefore fdt device index x then (.systemMemory, EFI_MEMORY_WB) else (v x).1) :
    e.oldType g.forwards (stack index) w = reportedType fdt device stack v index e := by
  have hread (c : PageState) : (e.getRequest.convert g.forwards c).1.1 =
      if e.getRequest.sets c.1 then e.type else c.1.1 := by
    rw [GcdRequest.convert]
    split <;> rfl
  rw [MemoryEntry.oldType, reportedType]
  refine if_congr Iff.rfl ?_ rfl
  dsimp only
  rw [hread, hw]
  cases walkedBefore fdt device index (e.setRequest.alignedEnd.toNat - 1) with
  | true => simp only [if_true, e.sets_getRequest_converted, Bool.false_eq_true, if_false]
  | false => simp only [Bool.false_eq_true, if_false]

/-- What the entries before an index make of an address: it is converted once, and the CPU
attributes are those given to it last. -/
theorem memoryAfter_eq (index x : Nat) :
    memoryAfter g fdt device stack v index x =
      (if walkedBefore fdt device index x then (.systemMemory, EFI_MEMORY_WB) else (v x).1,
        (lastGiven g fdt device stack v index x).getD (v x).2) := by
  induction index generalizing x with
  | zero => rfl
  | succ index ih =>
      rw [memoryAfter, walkedBefore, lastGiven, given, walks]
      cases hentry : memoryEntry fdt device index with
      | error e =>
          dsimp only
          rw [ih x, Bool.or_false, Option.none_or]
      | ok e =>
          dsimp only
          rw [MemoryEntry.process, oldType_eq g fdt device stack v index e _
            (fun x => congrArg Prod.fst (ih x))]
          have hconverted : (if e.Walks x then
              e.convert g.forwards (memoryAfter g fdt device stack v index x)
              else memoryAfter g fdt device stack v index x) =
              (if walkedBefore fdt device index x || decide (e.Walks x) then
                  (.systemMemory, EFI_MEMORY_WB) else (v x).1,
                ((if walkedBefore fdt device index x = false ∧ e.Walks x then
                  e.forwarded g.forwards (v x).1 else none).or
                  (lastGiven g fdt device stack v index x)).getD (v x).2) := by
            rw [ih x]
            by_cases hwalk : e.Walks x
            · cases walkedBefore fdt device index x with
              | true => simp [hwalk, e.convert_converted]
              | false => simp [hwalk, e.convert_eq, Option.getD_or]
            · simp [hwalk]
          rw [hconverted]
          by_cases hsets : reportedType fdt device stack v index e ≠ .systemMemory ∧ e.Covers x
          · rw [if_pos hsets, if_pos hsets]
            rfl
          · rw [if_neg hsets, if_neg hsets]

end Closed

section Usable

variable {σ : Type} (g : MemoryPlatform σ) (fdt : Fdt) (device : DtDevice)

/-- All of the memory of the node is usable, and only what has been converted is touched. The
pages of a register are those of its whole range. -/
structure MemoryUsable (s t : σ) : Prop where
  system (index : Nat) (reg : DtReg) (h : regEntry fdt device index = .ok reg)
    (hbus : reg.busDtIo = none) (x : Nat)
    (hx : OverlapsPage reg.translatedBase.toNat reg.length.toNat x) :
    x < 2 ^ 64 ∧ (g.map.value t x).1 = .systemMemory
  converted (x : Nat) (hx : x < 2 ^ 64) (hold : (g.map.value s x).1 ≠ .systemMemory)
    (hnew : (g.map.value t x).1 = .systemMemory) :
    g.cpuAttributes t x = memoryAttributes g.dxeNxMemoryProtectionPolicy
  kept (x : Nat) (hx : x < 2 ^ 64) (hold : (g.map.value s x).1 = .systemMemory) :
    g.cpuAttributes t x = g.cpuAttributes s x

/-- The first `n` entries reach all pages of the node, and each address is given the right CPU
attributes last. -/
structure UsableWhen (stack : Nat → GcdDescriptor) (s : σ) (n : Nat) : Prop where
  reached (index : Nat) (reg : DtReg) (h : regEntry fdt device index = .ok reg)
    (hbus : reg.busDtIo = none) (x : Nat)
    (hx : OverlapsPage reg.translatedBase.toNat reg.length.toNat x) :
    x < 2 ^ 64 ∧ (walkedBefore fdt device n x ∨ (g.map.value s x).1 = .systemMemory)
  converted (x : Nat) (hx : x < 2 ^ 64) (hwalked : walkedBefore fdt device n x)
    (hold : (g.map.value s x).1 ≠ .systemMemory) :
    (lastGiven g fdt device stack (g.observe s) n x).getD (g.cpuAttributes s x) =
      memoryAttributes g.dxeNxMemoryProtectionPolicy
  kept (x : Nat) (hx : x < 2 ^ 64) (hold : (g.map.value s x).1 = .systemMemory) :
    (lastGiven g fdt device stack (g.observe s) n x).getD (g.cpuAttributes s x) =
      g.cpuAttributes s x

theorem memoryUsable_iff_usableWhen (stack : Nat → GcdDescriptor) (s t : σ) (n : Nat)
    (h : g.observe t = memoryAfter g fdt device stack (g.observe s) n) :
    MemoryUsable g fdt device s t ↔ UsableWhen g fdt device stack s n := by
  have hpage (x : Nat) : g.observe t x = _ :=
    (congrFun h x).trans (memoryAfter_eq g fdt device stack (g.observe s) n x)
  have htype (x : Nat) : (g.map.value t x).1 = .systemMemory ↔
      walkedBefore fdt device n x = true ∨ (g.map.value s x).1 = .systemMemory := by
    have hvalue : g.map.value t x = _ := congrArg Prod.fst (hpage x)
    rw [hvalue]
    cases walkedBefore fdt device n x with
    | true => simp
    | false => simp [GcdMemorySpace.observe]
  have hcpu (x : Nat) : g.cpuAttributes t x =
      (lastGiven g fdt device stack (g.observe s) n x).getD (g.cpuAttributes s x) :=
    congrArg Prod.snd (hpage x)
  constructor
  · intro husable
    refine ⟨fun index reg hreg hbus x hx => ?_, fun x hx hwalked hold => ?_, fun x hx hold => ?_⟩
    · obtain ⟨hlt, hsystem⟩ := husable.system index reg hreg hbus x hx
      exact ⟨hlt, (htype x).mp hsystem⟩
    · rw [← hcpu]
      exact husable.converted x hx hold ((htype x).mpr (Or.inl hwalked))
    · rw [← hcpu]
      exact husable.kept x hx hold
  · intro hwhen
    refine ⟨fun index reg hreg hbus x hx => ?_, fun x hx hold hnew => ?_, fun x hx hold => ?_⟩
    · obtain ⟨hlt, hreached⟩ := hwhen.reached index reg hreg hbus x hx
      exact ⟨hlt, (htype x).mpr hreached⟩
    · rw [hcpu]
      exact hwhen.converted x hx (((htype x).mp hnew).resolve_right hold) hold
    · rw [hcpu]
      exact hwhen.kept x hx hold

end Usable

/-- After a run that succeeds, the memory of the node is usable exactly when the entries found
reach all of it, and the CPU attributes given last to each address are the right ones. -/
theorem memoryUsable_iff {σ : Type} (g : MemoryPlatform σ) (fdt : Fdt) (device : DtDevice)
    (stack : Nat → GcdDescriptor) (fuel : Nat) (s t : σ)
    (h : processMemoryRanges g.services fuel g.setMemoryAttributes g.dxeNxMemoryProtectionPolicy
      fdt device stack s = some (.ok (), t)) :
    MemoryUsable g fdt device s t ↔ ∃ n, EntriesBefore fdt device n ∧
      memoryEntry fdt device n = .error .notFound ∧ UsableWhen g fdt device stack s n := by
  obtain ⟨n, hbefore, hend, hobserve⟩ := processMemoryRanges_ok g fdt device fuel stack s t h
  have hiff := memoryUsable_iff_usableWhen g fdt device stack s t n hobserve
  constructor
  · intro husable
    exact ⟨n, hbefore, hend, hiff.mp husable⟩
  · rintro ⟨m, hbefore', hend', hwhen⟩
    have hsame : m = n := by
      rcases Nat.lt_trichotomy m n with hlt | heq | hlt
      · obtain ⟨e, hentry, -⟩ := hbefore m hlt
        rw [hend'] at hentry
        exact nomatch hentry
      · exact heq
      · obtain ⟨e, hentry, -⟩ := hbefore' n hlt
        rw [hend] at hentry
        exact nomatch hentry
    exact hiff.mpr (hsame ▸ hwhen)

def setPages (base length : U64) (f : PageState → PageState) (s : Nat → PageState) :
    Nat → PageState :=
  fun page =>
    if base.toNat / 4096 ≤ page ∧ page < (base.toNat + length.toNat) / 4096 then f (s page)
    else s page

def pageService (f : PageState → PageState) (base length : U64) (s : Nat → PageState) :
    EfiStatus × (Nat → PageState) :=
  if base.toNat % 4096 = 0 ∧ length.toNat % 4096 = 0 then (.ok (), setPages base length f s)
  else (.error .invalidParameter, s)

theorem pageService_ok (f : PageState → PageState) (base length : U64) (s t : Nat → PageState)
    (h : pageService f base length s = (.ok (), t)) (x : Nat) :
    t (x / 4096) = if Span.Mem x ⟨base.toNat, length.toNat⟩ then f (s (x / 4096))
      else s (x / 4096) := by
  rw [pageService] at h
  by_cases haligned : base.toNat % 4096 = 0 ∧ length.toNat % 4096 = 0
  · rw [if_pos haligned] at h
    cases h
    rw [setPages]
    refine if_congr ?_ rfl rfl
    rw [Span.Mem, Span.limit_mk]
    dsimp only
    omega
  · rw [if_neg haligned] at h
    exact absurd h (by simp)

theorem pageService_ne_notFound (f : PageState → PageState) (base length : U64)
    (s : Nat → PageState) : (pageService f base length s).1 ≠ .error .notFound := by
  rw [pageService]
  split <;> simp

def pageMap : SpanMap (Nat → PageState) (GcdMemoryType × U64) (2 ^ 64) :=
  SpanMap.blockwise Prod.fst 4096 (2 ^ 64) (by decide) (by decide)

theorem pageService_edits (f : PageState → PageState) (base length : U64) (s t : Nat → PageState)
    (h : pageService f base length s = (.ok (), t)) :
    pageMap.Edits ⟨base.toNat, length.toNat⟩ s t :=
  SpanMap.blockwise_edits _ _ _ _ _ _ _ _ fun x hx => by
    rw [pageService_ok f base length s t h x, if_neg hx]

/-- A memory map with a descriptor for every page, whose attributes are forwarded to the CPU;
the policy protects conventional memory. -/
def pagedPlatform : MemoryPlatform (Nat → PageState) where
  services :=
    { getMemorySpaceDescriptor := fun a s =>
        .ok ⟨ROUND_DOWN a, 4096, (s (a.toNat / 4096)).1.1, (s (a.toNat / 4096)).1.2⟩
      addMemorySpace := fun type base length _ =>
        pageService (fun c => ((type, 0), c.2)) base length
      removeMemorySpace := pageService fun c => ((.nonExistent, 0), c.2)
      setMemorySpaceAttributes := fun base length attributes =>
        pageService (fun c => ((c.1.1, attributes), attributes)) base length }
  map := pageMap
  cpuAttributes s x := (s (x / 4096)).2
  forwards := some
  descriptor a s d h := by
    cases h
    refine ⟨?_, rfl⟩
    rw [GcdDescriptor.span, toNat_ROUND_DOWN]
    change Span.mk _ _ = Span.mk _ _
    congr 1
    omega
  remove base length s t _ _ h :=
    ⟨pageService_edits _ base length s t h,
      funext fun x => by
        rw [pageService_ok _ base length s t h x]
        split <;> rfl,
      fun x hx => by
        change (t (x / 4096)).1.1 = _
        rw [pageService_ok _ base length s t h x, if_pos hx]⟩
  add type base length _ s t _ _ h :=
    ⟨pageService_edits _ base length s t h,
      funext fun x => by
        rw [pageService_ok _ base length s t h x]
        split <;> rfl,
      fun x hx => by
        change (t (x / 4096)).1.1 = _
        rw [pageService_ok _ base length s t h x, if_pos hx]⟩
  setAttributes base length attributes s t _ _ h :=
    ⟨pageService_edits _ base length s t h,
      fun x hx => by rw [pageService_ok _ base length s t h x, if_neg hx],
      fun x hx => by
        change (t (x / 4096)).1 = _ ∧ (t (x / 4096)).2 = _
        rw [pageService_ok _ base length s t h x, if_pos hx]
        exact ⟨rfl, rfl⟩⟩
  add_ne_notFound _ base length _ s := pageService_ne_notFound _ base length s
  setAttributes_ne_notFound base length _ s := pageService_ne_notFound _ base length s
  setMemoryAttributes base length attributes s := (.ok (), fun page =>
    if OverlapsPage base.toNat length.toNat (page * 4096) then ((s page).1, attributes) else s page)
  dxeNxMemoryProtectionPolicy := 1 <<< 7
  setMemoryAttributes_ok base length attributes s t h := by
    cases h
    refine ⟨funext fun x => ?_, fun x => ?_⟩
    · change Prod.fst (if _ then _ else _) = _
      split <;> rfl
    · have hpage : OverlapsPage base.toNat length.toNat (x / 4096 * 4096) ↔
          OverlapsPage base.toNat length.toNat x := by
        rw [OverlapsPage, OverlapsPage, Nat.mul_div_cancel _ (by decide)]
      simp only [hpage]
      split <;> rfl

/-- A memory node with the register `<0x80000000 0x2000>`. -/
def memoryFdt : Fdt where
  mem a := ([0x80, 0, 0, 0,  0, 0, 0x20, 0] : List U8).getD a 0
  getprop _ name := if name = "reg" then .ok (0, 8) else .error .notFound

def memoryDevice : DtDevice :=
  .child ⟨2, 2, 1, 1, 1, 1, 1, false, 0, none, MAX_UINT64⟩
    (.root ⟨1, 1, 0, 2, 2, 1, 1, false, 0, none, MAX_UINT64⟩)

/-- The second of the two pages is system memory already. -/
def mixedMemory (page : Nat) : PageState :=
  if page = 0x80001 then ((.systemMemory, EFI_MEMORY_WB), EFI_MEMORY_WB)
  else ((.nonExistent, 0), 0)

def processPages (s : Nat → PageState) : Option (EfiStatus × (Nat → PageState)) :=
  processMemoryRanges pagedPlatform.services 4 pagedPlatform.setMemoryAttributes
    pagedPlatform.dxeNxMemoryProtectionPolicy memoryFdt memoryDevice
    (fun _ => ⟨0, 0, .reserved, 0⟩) s

theorem memoryUsable_iff_mixedMemory :
    ∃ t, processPages mixedMemory = some (.ok (), t) ∧
      (MemoryUsable pagedPlatform memoryFdt memoryDevice mixedMemory t ↔
        ∃ n, EntriesBefore memoryFdt memoryDevice n ∧
          memoryEntry memoryFdt memoryDevice n = .error .notFound ∧
            UsableWhen pagedPlatform memoryFdt memoryDevice (fun _ => ⟨0, 0, .reserved, 0⟩)
              mixedMemory n) := by
  have hrun : (processPages mixedMemory).map Prod.fst = some (.ok ()) := by decide +kernel
  obtain ⟨⟨_, t⟩, hprocess, rfl⟩ := Option.map_eq_some_iff.mp hrun
  exact ⟨t, hprocess, memoryUsable_iff pagedPlatform memoryFdt memoryDevice _ 4 mixedMemory t
    hprocess⟩

/-- The first page is converted, and never protected. -/
theorem mixedMemory_not_usable :
    ∃ t, processPages mixedMemory = some (.ok (), t) ∧
      ¬ MemoryUsable pagedPlatform memoryFdt memoryDevice mixedMemory t := by
  have hrun : (processPages mixedMemory).map (fun r => (r.1, r.2 0x80000)) =
      some (.ok (), ((.systemMemory, EFI_MEMORY_WB), EFI_MEMORY_WB)) := by
    decide +kernel
  obtain ⟨⟨_, t⟩, hprocess, hpages⟩ := Option.map_eq_some_iff.mp hrun
  obtain ⟨rfl, hpage⟩ := Prod.mk.inj hpages
  refine ⟨t, hprocess, fun husable => ?_⟩
  have hcpu : (t 0x80000).2 = memoryAttributes pagedPlatform.dxeNxMemoryProtectionPolicy :=
    husable.converted 0x80000000 (by decide) (by decide) (congrArg (fun c => c.1.1) hpage)
  have hunprotected : EFI_MEMORY_WB = memoryAttributes pagedPlatform.dxeNxMemoryProtectionPolicy :=
    (congrArg Prod.snd hpage).symm.trans hcpu
  exact absurd hunprotected (by decide)

end FdtBusPkg
