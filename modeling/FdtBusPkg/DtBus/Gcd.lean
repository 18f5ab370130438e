import FdtBusPkg.DtBus.RegParse
import FdtBusPkg.Library.Align
import FdtBusPkg.Library.Loop
import FdtBusPkg.Library.SpanMap

/-!
Updates of the GCD memory map. `ApplyGcdTypeAndAttrs` walks the descriptors that
overlap a page-rounded range and converts the part of each that may be converted;
the map it walks changes under it. The ends of descriptors are 64-bit sums, and
one that ends at the top of the address space seems to end at zero.
-/
namespace FdtBusPkg

def EFI_PAGE_SIZE : U64 := 0x1000
def ROUND_UP (x : U64) : U64 := (x + EFI_PAGE_SIZE - 1) &&& ~~~ (EFI_PAGE_SIZE - 1)
def ROUND_DOWN (x : U64) : U64 := x &&& ~~~ (EFI_PAGE_SIZE - 1)

/-- The fields of `EFI_GCD_MEMORY_SPACE_DESCRIPTOR` that are looked at. -/
structure GcdDescriptor where
  baseAddress : U64
  length : U64
  gcdMemoryType : GcdMemoryType
  attributes : U64
  deriving DecidableEq, Repr

def GcdDescriptor.span (d : GcdDescriptor) : Span := ⟨d.baseAddress.toNat, d.length.toNat⟩

/-- The services of the DXE core; the last argument of `AddMemorySpace` is the set of
capabilities. -/
structure GcdServices (σ : Type) where
  getMemorySpaceDescriptor : U64 → σ → EfiResult GcdDescriptor
  addMemorySpace : GcdMemoryType → U64 → U64 → U64 → σ → EfiStatus × σ
  removeMemorySpace : U64 → U64 → σ → EfiStatus × σ
  setMemorySpaceAttributes : U64 → U64 → U64 → σ → EfiStatus × σ

/-- The arguments of `ApplyGcdTypeAndAttrs`. -/
structure GcdRequest where
  address : U64
  length : Uintn
  type : GcdMemoryType
  attributes : U64
  onConflictDoNothing : Bool
  deriving DecidableEq, Repr

namespace GcdRequest

variable (q : GcdRequest)

def alignedAddress : U64 := ROUND_DOWN q.address

def alignedLength : Uintn := ROUND_UP (q.address + q.length) - q.alignedAddress

def alignedEnd : U64 := q.alignedAddress + q.alignedLength

def overlapRegionEnd (d : GcdDescriptor) : U64 :=
  if d.baseAddress + d.length > q.alignedEnd then q.alignedEnd else d.baseAddress + d.length

def haveConflict (d : GcdDescriptor) : Bool :=
  d.gcdMemoryType != .nonExistent &&
    !(d.gcdMemoryType == q.type && (d.attributes == 0 || d.attributes == q.attributes))

def overrides (d : GcdDescriptor) : Bool := q.haveConflict d && !q.onConflictDoNothing

end GcdRequest

namespace GcdRequest

variable (q : GcdRequest) (d : GcdDescriptor)

/-- The part of a descriptor is added to the map. -/
def adds : Bool := d.gcdMemoryType == .nonExistent || q.overrides d

def setsAttributes : Bool :=
  d.gcdMemoryType == .nonExistent || (!q.haveConflict d && d.attributes == 0) || q.overrides d

end GcdRequest

section Apply

variable {σ : Type} (gDS : GcdServices σ) (q : GcdRequest)

/-- A service that is called under a condition. -/
def callIf (condition : Bool) (service : σ → EfiStatus × σ) (s : σ) : EfiStatus × σ :=
  if condition then service s else (.ok (), s)

/-- The part `[next, next + length)` of a descriptor is converted. -/
def applyGcdRegion (d : GcdDescriptor) (next length : U64) (s : σ) : EfiStatus × σ :=
  match callIf (q.overrides d) (gDS.removeMemorySpace next length) s with
  | (.error e, s) => (.error e, s)
  | (.ok _, s) =>
    match callIf (q.adds d) (gDS.addMemorySpace q.type next length q.attributes) s with
    | (.error e, s) => (.error e, s)
    | (.ok _, s) =>
      callIf (q.setsAttributes d) (gDS.setMemorySpaceAttributes next length q.attributes) s

/-- The variables of the loop; `gcdDescriptor` is not initialised. -/
structure GcdWalk (σ : Type) where
  next : U64
  gcdDescriptor : Option GcdDescriptor
  state : σ

def applyGcdLoop (w : GcdWalk σ) : Loop.Step (GcdWalk σ) (EfiResult (Option GcdDescriptor) × σ) :=
  if w.next < q.alignedEnd then
    match gDS.getMemorySpaceDescriptor w.next w.state with
    | .error e => .exit (.error (if e = .notFound then .invalidParameter else e), w.state)
    | .ok d =>
      match applyGcdRegion gDS q d w.next (q.overlapRegionEnd d - w.next) w.state with
      | (.error e, s) => .exit (.error e, s)
      | (.ok _, s) => .next ⟨q.overlapRegionEnd d, some d, s⟩
  else
    .exit (.ok w.gcdDescriptor, w.state)

/-- `OutType` and `OutAttributes` are the fields of the descriptor returned. -/
def applyGcdTypeAndAttrs (fuel : Nat) (s : σ) : Option (EfiResult (Option GcdDescriptor) × σ) :=
  Loop.run (applyGcdLoop gDS q) fuel ⟨q.alignedAddress, none, s⟩

end Apply

/-- A memory map of the 64-bit address space behind the services, and services that
succeed: each of them changes the region it is called for. -/
structure GcdMemory (σ : Type) where
  services : GcdServices σ
  map : SpanMap σ (GcdMemoryType × U64) (2 ^ 64)
  descriptor_eq (a : U64) (s : σ) : ∃ d, services.getMemorySpaceDescriptor a s = .ok d ∧
    d.span = map.span s a.toNat ∧ (d.gcdMemoryType, d.attributes) = map.value s a.toNat
  remove_ok (base length : U64) (s : σ) (hpos : 0 < length.toNat)
    (hfits : base.toNat + length.toNat ≤ 2 ^ 64) :
    ∃ t, services.removeMemorySpace base length s = (.ok (), t) ∧
      map.Edits ⟨base.toNat, length.toNat⟩ s t ∧
        ∀ x, Span.Mem x ⟨base.toNat, length.toNat⟩ → (map.value t x).1 = .nonExistent
  add_ok (type : GcdMemoryType) (base length capabilities : U64) (s : σ)
    (hpos : 0 < length.toNat) (hfits : base.toNat + length.toNat ≤ 2 ^ 64) :
    ∃ t, services.addMemorySpace type base length capabilities s = (.ok (), t) ∧
      map.Edits ⟨base.toNat, length.toNat⟩ s t ∧
        ∀ x, Span.Mem x ⟨base.toNat, length.toNat⟩ → (map.value t x).1 = type
  setAttributes_ok (base length attributes : U64) (s : σ)
    (hpos : 0 < length.toNat) (hfits : base.toNat + length.toNat ≤ 2 ^ 64) :
    ∃ t, services.setMemorySpaceAttributes base length attributes s = (.ok (), t) ∧
      map.Edits ⟨base.toNat, length.toNat⟩ s t ∧
        ∀ x, Span.Mem x ⟨base.toNat, length.toNat⟩ →
          map.value t x = ((map.value s x).1, attributes)

/-- A request for a nonempty range that does not wrap. -/
structure GcdRangeRequest extends GcdRequest where
  length_ne : length ≠ 0
  fits : address.toNat + length.toNat ≤ 2 ^ 64

namespace GcdRangeRequest

variable (q : GcdRangeRequest)

def pageBase : Nat := q.address.toNat / 4096 * 4096
def pageLimit : Nat := (q.address.toNat + q.length.toNat + 4095) / 4096 * 4096

def pages : Span := ⟨q.pageBase, q.pageLimit - q.pageBase⟩

/-- Type and attributes an address in the pages is to have afterwards. -/
def expected (c : GcdMemoryType × U64) : GcdMemoryType × U64 :=
  if q.onConflictDoNothing = false ∨ c.1 = .nonExistent ∨
      (c.1 = q.type ∧ (c.2 = 0 ∨ c.2 = q.attributes)) then
    (q.type, q.attributes)
  else
    c

end GcdRangeRequest

/-- The request returns with exactly the pages of its range updated, and with the
descriptor of one of them. -/
def GcdUpdated {σ : Type} (g : GcdMemory σ) (q : GcdRangeRequest) (s : σ) : Prop :=
  ∃ fuel d t, applyGcdTypeAndAttrs g.services q.toGcdRequest fuel s = some (.ok (some d), t) ∧
    (∀ x < 2 ^ 64, g.map.value t x =
      if Span.Mem x q.pages then q.expected (g.map.value s x) else g.map.value s x) ∧
    ∃ x, Span.Mem x q.pages ∧ x < 2 ^ 64 ∧
      g.map.value s x = (d.gcdMemoryType, d.attributes)

namespace GcdRequest

variable (q : GcdRequest)

/-- Where the piece of a descriptor ends that is walked next. -/
def pieceEnd (d : GcdDescriptor) : Nat :=
  if d.span.limit = 2 ^ 64 then 2 ^ 64 else min d.span.limit q.alignedEnd.toNat

theorem toNat_overlapRegionEnd (d : GcdDescriptor) (hfits : d.span.limit ≤ 2 ^ 64)
    (hend : 0 < q.alignedEnd.toNat) : (q.overlapRegionEnd d).toNat = q.pieceEnd d % 2 ^ 64 := by
  have hlimit : d.span.limit = d.baseAddress.toNat + d.length.toNat := rfl
  have hlt := q.alignedEnd.isLt
  have hsum : (d.baseAddress + d.length).toNat = d.span.limit % 2 ^ 64 := by
    rw [BitVec.toNat_add, hlimit]
  have hover : (d.baseAddress + d.length > q.alignedEnd) ↔
      q.alignedEnd.toNat < d.span.limit % 2 ^ 64 := by
    rw [gt_iff_lt, BitVec.lt_def, hsum]
  rw [GcdRequest.overlapRegionEnd, GcdRequest.pieceEnd]
  simp only [hover]
  split_ifs <;> omega

end GcdRequest

section Calls

variable {σ : Type} (q : GcdRequest) (d : GcdDescriptor)

theorem adds_of_type_ne (h : q.setsAttributes d = true) (htype : d.gcdMemoryType ≠ q.type) :
    q.adds d = true := by
  simp only [GcdRequest.setsAttributes, GcdRequest.overrides, GcdRequest.haveConflict] at h
  rw [GcdRequest.adds, GcdRequest.overrides, GcdRequest.haveConflict]
  grind

theorem adds_of_overrides (h : q.overrides d = true) : q.adds d = true := by
  rw [GcdRequest.adds, h, Bool.or_true]

theorem sets_of_adds (h : q.adds d = true) : q.setsAttributes d = true := by
  rw [GcdRequest.adds, Bool.or_eq_true] at h
  rcases h with h | h <;> simp [GcdRequest.setsAttributes, h]

theorem same_of_not_adds {s s1 s2 : σ} (hsame1 : q.overrides d = false → s1 = s)
    (hsame2 : q.adds d = false → s2 = s1) (h : q.adds d = false) : s2 = s := by
  have hoverrides : q.overrides d = false := by
    by_contra hne
    rw [adds_of_overrides q d (by simpa using hne)] at h
    exact nomatch h
  exact (hsame2 h).trans (hsame1 hoverrides)

/-- The three calls for a piece of a descriptor give an address in it the type and the
attributes of the request, or nothing. -/
theorem value_of_calls (value : σ → Nat → GcdMemoryType × U64) {s s1 s2 s3 : σ} (x : Nat)
    (hold : value s x = (d.gcdMemoryType, d.attributes))
    (hsame1 : q.overrides d = false → s1 = s)
    (htype : q.adds d = true → (value s2 x).1 = q.type) (hsame2 : q.adds d = false → s2 = s1)
    (hattributes : q.setsAttributes d = true → value s3 x = ((value s2 x).1, q.attributes))
    (hsame3 : q.setsAttributes d = false → s3 = s2) :
    value s3 x = if q.setsAttributes d then (q.type, q.attributes)
      else (d.gcdMemoryType, d.attributes) := by
  cases hsets : q.setsAttributes d with
  | true =>
      have htype2 : (value s2 x).1 = q.type := by
        cases hadds : q.adds d with
        | true => exact htype hadds
        | false =>
            rw [same_of_not_adds q d hsame1 hsame2 hadds, hold]
            by_contra hne
            rw [adds_of_type_ne q d hsets hne] at hadds
            exact nomatch hadds
      rw [hattributes hsets, htype2]
      rfl
  | false =>
      have hadds : q.adds d = false := by
        by_contra hne
        rw [sets_of_adds q d (by simpa using hne)] at hsets
        exact nomatch hsets
      rw [hsame3 hsets, same_of_not_adds q d hsame1 hsame2 hadds, hold]
      rfl

end Calls

section Region

variable {σ : Type} (g : GcdMemory σ) (q : GcdRangeRequest)

theorem callIf_edits (condition : Bool) (service : σ → EfiStatus × σ) (region : Span) (s : σ)
    (effect : σ → Prop) (hservice : ∃ t, service s = (.ok (), t) ∧ g.map.Edits region s t ∧
      effect t) :
    ∃ t, callIf condition service s = (.ok (), t) ∧ g.map.Edits region s t ∧
      (condition = true → effect t) ∧ (condition = false → t = s) := by
  cases condition with
  | false => exact ⟨s, rfl, g.map.edits_refl region s, by simp, fun _ => rfl⟩
  | true =>
      obtain ⟨t, hcall, hedits, heffect⟩ := hservice
      exact ⟨t, hcall, hedits, fun _ => heffect, by simp⟩

theorem expected_of_sets (d : GcdDescriptor) (h : q.setsAttributes d = true) :
    q.expected (d.gcdMemoryType, d.attributes) = (q.type, q.attributes) := by
  rw [GcdRangeRequest.expected, if_pos]
  simp only [GcdRequest.setsAttributes, GcdRequest.overrides, GcdRequest.haveConflict,
    Bool.or_eq_true, Bool.and_eq_true, Bool.not_eq_true', bne_iff_ne, beq_iff_eq,
    Bool.and_eq_false_iff, Bool.not_eq_false'] at h
  grind

theorem expected_of_not_sets (d : GcdDescriptor) (h : q.setsAttributes d = false) :
    q.expected (d.gcdMemoryType, d.attributes) = (d.gcdMemoryType, d.attributes) := by
  simp only [GcdRequest.setsAttributes, GcdRequest.overrides, GcdRequest.haveConflict] at h
  rw [GcdRangeRequest.expected]
  split <;> grind

/-- What the three calls for a piece of a descriptor make of an address in it. -/
theorem expected_of_calls (value : σ → Nat → GcdMemoryType × U64) (d : GcdDescriptor)
    {s s1 s2 s3 : σ} (x : Nat) (hold : value s x = (d.gcdMemoryType, d.attributes))
    (hsame1 : q.overrides d = false → s1 = s)
    (htype : q.adds d = true → (value s2 x).1 = q.type) (hsame2 : q.adds d = false → s2 = s1)
    (hattributes : q.setsAttributes d = true → value s3 x = ((value s2 x).1, q.attributes))
    (hsame3 : q.setsAttributes d = false → s3 = s2) :
    value s3 x = q.expected (d.gcdMemoryType, d.attributes) := by
  rw [value_of_calls q.toGcdRequest d value x hold hsame1 htype hsame2 hattributes hsame3]
  cases hsets : q.setsAttributes d with
  | true => exact (expected_of_sets q d hsets).symm
  | false => exact (expected_of_not_sets q d hsets).symm

theorem applyGcdRegion_spec (d : GcdDescriptor) (next length : U64) (s : σ)
    (hpos : 0 < length.toNat) (hfits : next.toNat + length.toNat ≤ 2 ^ 64)
    (huniform : ∀ x, Span.Mem x ⟨next.toNat, length.toNat⟩ →
      g.map.value s x = (d.gcdMemoryType, d.attributes)) :
    ∃ t, applyGcdRegion g.services q.toGcdRequest d next length s = (.ok (), t) ∧
      g.map.Edits ⟨next.toNat, length.toNat⟩ s t ∧
        ∀ x, Span.Mem x ⟨next.toNat, length.toNat⟩ →
          g.map.value t x = q.expected (d.gcdMemoryType, d.attributes) := by
  obtain ⟨s1, hremove, hedits1, -, hsame1⟩ := callIf_edits g (q.overrides d) _ _ s _
    (g.remove_ok next length s hpos hfits)
  obtain ⟨s2, hadd, hedits2, htype, hsame2⟩ := callIf_edits g (q.adds d) _ _ s1 _
    (g.add_ok q.type next length q.attributes s1 hpos hfits)
  obtain ⟨s3, hset, hedits3, hattributes, hsame3⟩ := callIf_edits g (q.setsAttributes d) _ _ s2 _
    (g.setAttributes_ok next length q.attributes s2 hpos hfits)
  refine ⟨s3, ?_, g.map.edits_trans _ s s1 s3 hedits1 (g.map.edits_trans _ s1 s2 s3 hedits2
    hedits3), fun x hx => ?_⟩
  · simp only [applyGcdRegion, hremove, hadd, hset]
  · exact expected_of_calls q g.map.value d x (huniform x hx) hsame1 (fun h => htype h x hx) hsame2
      (fun h => hattributes h x hx) hsame3

theorem toNat_ROUND_DOWN (x : U64) : (ROUND_DOWN x).toNat = x.toNat - x.toNat % 4096 := by
  have hmask : EFI_PAGE_SIZE - 1 = Align.lowMask 64 12 := rfl
  exact (congrArg (fun mask => (x &&& ~~~mask).toNat) hmask).trans
    (Align.toNat_and_not_lowMask x 12 (by decide))

theorem toNat_ROUND_UP (x : U64) :
    (ROUND_UP x).toNat = (x.toNat + 4095) % 2 ^ 64 - (x.toNat + 4095) % 2 ^ 64 % 4096 := by
  have hround : ROUND_UP x = ROUND_DOWN (x + EFI_PAGE_SIZE - 1) := rfl
  have hlast : (x + EFI_PAGE_SIZE - 1).toNat = (x.toNat + 4095) % 2 ^ 64 := by
    have hsize : EFI_PAGE_SIZE.toNat = 4096 := rfl
    have hone : (1 : U64).toNat = 1 := rfl
    rw [BitVec.toNat_sub, BitVec.toNat_add, hsize, hone]
    omega
  rw [hround, toNat_ROUND_DOWN, hlast]

theorem toNat_alignedAddress : q.alignedAddress.toNat = q.pageBase := by
  rw [GcdRequest.alignedAddress, toNat_ROUND_DOWN, GcdRangeRequest.pageBase]
  omega

theorem toNat_alignedEnd : q.alignedEnd.toNat = q.pageLimit % 2 ^ 64 := by
  have hfits := q.fits
  have hend : q.alignedEnd = ROUND_UP (q.address + q.length) := by
    rw [GcdRequest.alignedEnd, GcdRequest.alignedLength, BitVec.add_comm, BitVec.sub_add_cancel]
  rw [hend, toNat_ROUND_UP, BitVec.toNat_add, GcdRangeRequest.pageLimit]
  omega

theorem page_bounds : q.pageBase < q.pageLimit ∧ q.pageLimit ≤ 2 ^ 64 := by
  have hfits := q.fits
  have hpos : q.length.toNat ≠ 0 := fun hzero => q.length_ne (BitVec.eq_of_toNat_eq hzero)
  rw [GcdRangeRequest.pageBase, GcdRangeRequest.pageLimit]
  omega

/-- Where the piece of a descriptor really ends. -/
def pieceLimit (d : GcdDescriptor) : Nat :=
  if d.span.limit = 2 ^ 64 then 2 ^ 64 else min d.span.limit q.pageLimit

theorem pieceLimit_eq (d : GcdDescriptor) (hend : 0 < q.alignedEnd.toNat) :
    pieceLimit q d = q.pieceEnd d := by
  have hpages := toNat_alignedEnd q
  have hbounds := (page_bounds q).2
  have hlimit : q.alignedEnd.toNat = q.pageLimit := by omega
  rw [pieceLimit, GcdRequest.pieceEnd, hlimit]

theorem toNat_overlapRegionEnd (d : GcdDescriptor) (hfits : d.span.limit ≤ 2 ^ 64)
    (hend : 0 < q.alignedEnd.toNat) :
    (q.overlapRegionEnd d).toNat = pieceLimit q d % 2 ^ 64 := by
  rw [pieceLimit_eq q d hend]
  exact q.toGcdRequest.toNat_overlapRegionEnd d hfits hend

/-- One iteration converts the rest of the descriptor, as far as it is in the pages. -/
theorem applyGcdLoop_next (w : GcdWalk σ) (h : w.next < q.alignedEnd) :
    ∃ d t, applyGcdLoop g.services q.toGcdRequest w =
        .next ⟨q.overlapRegionEnd d, some d, t⟩ ∧
      d.span = g.map.span w.state w.next.toNat ∧
      (d.gcdMemoryType, d.attributes) = g.map.value w.state w.next.toNat ∧
      g.map.Edits ⟨w.next.toNat, pieceLimit q d - w.next.toNat⟩ w.state t ∧
      ∀ x, w.next.toNat ≤ x → x < pieceLimit q d →
        g.map.value w.state x = (d.gcdMemoryType, d.attributes) ∧
          g.map.value t x = q.expected (d.gcdMemoryType, d.attributes) := by
  obtain ⟨d, hget, hspan, hvalue⟩ := g.descriptor_eq w.next w.state
  have hnext : w.next.toNat < q.alignedEnd.toNat := h
  have hlt := w.next.isLt
  obtain ⟨hbase, hlimit⟩ := g.map.mem_span w.state w.next.toNat hlt
  have hfits := g.map.limit_le w.state w.next.toNat hlt
  rw [← hspan] at hbase hlimit hfits
  have hend := toNat_overlapRegionEnd q d hfits (by omega)
  have hpages := toNat_alignedEnd q
  have hbounds := (page_bounds q).2
  have hpiece : w.next.toNat < pieceLimit q d ∧ pieceLimit q d ≤ d.span.limit := by
    rw [pieceLimit]
    split <;> omega
  have hnonzero : pieceLimit q d = 2 ^ 64 → 0 < w.next.toNat := by
    intro htop
    have hlength := d.length.isLt
    have hsum : d.span.limit = d.span.base + d.length.toNat := rfl
    omega
  have hregion : (q.overlapRegionEnd d - w.next).toNat = pieceLimit q d - w.next.toNat := by
    rw [BitVec.toNat_sub, hend]
    omega
  have hmem (x : Nat) (hlow : w.next.toNat ≤ x) (hhigh : x < pieceLimit q d) :
      g.map.value w.state x = (d.gcdMemoryType, d.attributes) := by
    rw [hvalue]
    refine g.map.uniform w.state _ x ?_
    rw [← hspan]
    exact ⟨by omega, by omega⟩
  obtain ⟨t, happly, hedits, hexpected⟩ :=
    applyGcdRegion_spec g q d w.next (q.overlapRegionEnd d - w.next) w.state
      (by omega) (by omega) (fun x hx => hmem x hx.1 (by
        have hhigh := hx.2
        rw [Span.limit_mk] at hhigh
        omega))
  rw [hregion] at hedits hexpected
  refine ⟨d, t, ?_, hspan, hvalue, hedits, fun x hlow hhigh => ⟨hmem x hlow hhigh, ?_⟩⟩
  · simp only [applyGcdLoop, if_pos h, hget, happly]
  · exact hexpected x ⟨hlow, by rw [Span.limit_mk]; omega⟩

/-- Where the span at the top of the address space starts. -/
def topBase (s : σ) : Nat := (g.map.span s (2 ^ 64 - 1)).base

theorem topSpan_limit (s : σ) : (g.map.span s (2 ^ 64 - 1)).limit = 2 ^ 64 :=
  g.map.topSpan_limit (by decide) s

theorem topBase_lt (s : σ) : topBase g s < 2 ^ 64 :=
  g.map.topBase_lt (by decide) s

theorem limit_lt_top (s : σ) (x : Nat) (hx : x < 2 ^ 64) (hbelow : x < topBase g s) :
    (g.map.span s x).limit ≤ topBase g s :=
  g.map.limit_le_topBase (by decide) s x hx hbelow

theorem limit_of_top (s : σ) (x : Nat) (hx : x < 2 ^ 64) (habove : topBase g s ≤ x) :
    g.map.span s x = g.map.span s (2 ^ 64 - 1) :=
  g.map.span_eq_top (by decide) s x hx habove

theorem mem_pages (x : Nat) : Span.Mem x q.pages ↔ q.pageBase ≤ x ∧ x < q.pageLimit := by
  have hbounds := page_bounds q
  rw [Span.Mem, GcdRangeRequest.pages, Span.limit_mk]
  dsimp only
  omega

/-- No descriptor that overlaps the pages ends at the top of the address space. -/
def PagesBelowTop (s : σ) : Prop :=
  ∀ x, Span.Mem x q.pages → (g.map.span s x).limit < 2 ^ 64

theorem pagesBelowTop_iff (s : σ) : PagesBelowTop g q s ↔ q.pageLimit ≤ topBase g s := by
  have hbounds := page_bounds q
  constructor
  · intro h
    by_contra hlow
    have hlast := h (q.pageLimit - 1) ((mem_pages q _).mpr (by omega))
    rw [limit_of_top g s _ (by omega) (by omega), topSpan_limit] at hlast
    exact Nat.lt_irrefl _ hlast
  · intro h x hx
    rw [mem_pages] at hx
    exact Nat.lt_of_le_of_lt (limit_lt_top g s x (by omega) (by omega)) (topBase_lt g s)

/-- The pages below `next` are updated. -/
structure UpdatedBelow (s : σ) (w : GcdWalk σ) : Prop where
  low : q.pageBase ≤ w.next.toNat
  high : w.next.toNat ≤ q.pageLimit
  value_eq : ∀ x < 2 ^ 64, g.map.value w.state x =
    if q.pageBase ≤ x ∧ x < w.next.toNat then q.expected (g.map.value s x) else g.map.value s x
  top : w.next.toNat < q.pageLimit → q.pageLimit ≤ topBase g w.state
  seen : w.next.toNat = q.pageBase ∨ ∃ d, w.gcdDescriptor = some d ∧
    ∃ x, Span.Mem x q.pages ∧ x < 2 ^ 64 ∧ g.map.value s x = (d.gcdMemoryType, d.attributes)

theorem updatedBelow_next (s : σ) (w : GcdWalk σ) (hlimit : q.pageLimit < 2 ^ 64)
    (hinv : UpdatedBelow g q s w) (hnext : w.next.toNat < q.pageLimit) :
    ∃ w', applyGcdLoop g.services q.toGcdRequest w = .next w' ∧ UpdatedBelow g q s w' ∧
      w.next.toNat < w'.next.toNat := by
  have hpages := toNat_alignedEnd q
  have hlow := hinv.low
  have htop := hinv.top hnext
  obtain ⟨d, t, hloop, hspan, hvalue, hedits, hpiece⟩ := applyGcdLoop_next g q w
    (BitVec.lt_def.mpr (by omega))
  have hdescriptor := limit_lt_top g w.state w.next.toNat w.next.isLt (by omega)
  have hmem := (g.map.mem_span w.state w.next.toNat w.next.isLt).2
  have htopLt := topBase_lt g w.state
  rw [← hspan] at hdescriptor hmem
  have hpieceLimit : pieceLimit q d = min d.span.limit q.pageLimit := by
    rw [pieceLimit, if_neg (by omega)]
  have hend : (q.overlapRegionEnd d).toNat = pieceLimit q d := by
    rw [toNat_overlapRegionEnd q d (by omega) (by omega)]
    omega
  have hbefore (x : Nat) (hx : x < 2 ^ 64) (hle : w.next.toNat ≤ x) :
      g.map.value w.state x = g.map.value s x := by
    rw [hinv.value_eq x hx, if_neg (by omega)]
  refine ⟨_, hloop, ⟨?_, ?_, ?_, ?_, ?_⟩, ?_⟩
  · dsimp only
    omega
  · dsimp only
    omega
  · intro x hx
    dsimp only
    rw [hend]
    by_cases hin : w.next.toNat ≤ x ∧ x < pieceLimit q d
    · obtain ⟨hold, hnew⟩ := hpiece x hin.1 hin.2
      rw [hnew, if_pos ⟨by omega, hin.2⟩, ← hold, hbefore x hx hin.1]
    · rw [hedits.outside x (fun h => hin ⟨h.1, by
        have hhigh := h.2
        rw [Span.limit_mk] at hhigh
        omega⟩), hinv.value_eq x hx]
      by_cases hdone : q.pageBase ≤ x ∧ x < w.next.toNat
      · rw [if_pos hdone, if_pos ⟨hdone.1, by omega⟩]
      · rw [if_neg hdone, if_neg (by omega)]
  · intro hmore
    dsimp only at hmore ⊢
    have hkept : topBase g t = topBase g w.state :=
      hedits.topBase_eq g.map (by
        rw [Span.limit_mk]
        change _ < topBase g w.state
        omega)
    rw [hkept]
    exact htop
  · refine Or.inr ⟨d, rfl, w.next.toNat, (mem_pages q _).mpr ⟨hlow, hnext⟩, w.next.isLt, ?_⟩
    rw [hvalue, hbefore _ w.next.isLt (Nat.le_refl _)]
  · dsimp only
    omega

/-- The walk starts over at zero whenever it reaches the top, and never ends. -/
theorem walk_restarts (w : GcdWalk σ) (hlimit : q.pageLimit < 2 ^ 64)
    (hinv : w.next.toNat < q.pageLimit ∧ topBase g w.state < q.pageLimit) :
    ∃ w', applyGcdLoop g.services q.toGcdRequest w = .next w' ∧
      w'.next.toNat < q.pageLimit ∧ topBase g w'.state < q.pageLimit := by
  obtain ⟨hnext, htop⟩ := hinv
  have hpages := toNat_alignedEnd q
  obtain ⟨d, t, hloop, hspan, -, hedits, -⟩ := applyGcdLoop_next g q w
    (BitVec.lt_def.mpr (by omega))
  have hfits := g.map.limit_le w.state w.next.toNat w.next.isLt
  obtain ⟨hbase, hmem⟩ := g.map.mem_span w.state w.next.toNat w.next.isLt
  rw [← hspan] at hfits hmem hbase
  have hend := toNat_overlapRegionEnd q d hfits (by omega)
  refine ⟨_, hloop, ?_⟩
  dsimp only
  by_cases habove : topBase g w.state ≤ w.next.toNat
  · have hdescriptor : d.span = g.map.span w.state (2 ^ 64 - 1) :=
      hspan.trans (limit_of_top g w.state _ w.next.isLt habove)
    have hdlimit : d.span.limit = 2 ^ 64 := by
      rw [hdescriptor, topSpan_limit]
    have hpiece : pieceLimit q d = 2 ^ 64 := by
      rw [pieceLimit, if_pos hdlimit]
    have hle : topBase g t ≤ w.next.toNat :=
      hedits.topBase_le_base g.map (by decide) w.next.isLt (by omega) habove
    omega
  · have hbelow := limit_lt_top g w.state w.next.toNat w.next.isLt (by omega)
    rw [← hspan] at hbelow
    have hpiece : pieceLimit q d = d.span.limit := by
      rw [pieceLimit, if_neg (by omega)]
      omega
    have hle : topBase g t ≤ topBase g w.state :=
      hedits.topBase_le g.map (by decide) (by
        rw [Span.limit_mk]
        change _ ≤ topBase g w.state
        omega)
    omega

theorem pagesBelowTop_of_gcdUpdated (s : σ) (h : GcdUpdated g q s) : PagesBelowTop g q s := by
  have hbounds := page_bounds q
  have hpages := toNat_alignedEnd q
  have hstart := toNat_alignedAddress q
  rw [pagesBelowTop_iff]
  obtain ⟨fuel, d, t, hrun, -, -⟩ := h
  by_contra habove
  by_cases hlimit : q.pageLimit < 2 ^ 64
  · have hnone := Loop.run_eq_none (applyGcdLoop g.services q.toGcdRequest)
      (fun w => w.next.toNat < q.pageLimit ∧ topBase g w.state < q.pageLimit)
      (fun w hinv => walk_restarts g q w hlimit hinv) fuel ⟨q.alignedAddress, none, s⟩
      ⟨by dsimp only; omega, by dsimp only; omega⟩
    rw [applyGcdTypeAndAttrs, hnone] at hrun
    exact absurd hrun (by simp)
  · have hexit : applyGcdLoop g.services q.toGcdRequest ⟨q.alignedAddress, none, s⟩ =
        .exit (.ok none, s) := by
      rw [applyGcdLoop, if_neg]
      rw [BitVec.lt_def]
      dsimp only
      omega
    cases fuel with
    | zero => exact absurd hrun (by simp [applyGcdTypeAndAttrs, Loop.run])
    | succ fuel =>
        rw [applyGcdTypeAndAttrs, Loop.run_exit _ _ _ _ hexit] at hrun
        exact absurd hrun (by simp)

theorem gcdUpdated_of_pagesBelowTop (s : σ) (h : PagesBelowTop g q s) : GcdUpdated g q s := by
  have hbounds := page_bounds q
  have hpages := toNat_alignedEnd q
  have hstart := toNat_alignedAddress q
  have htop := (pagesBelowTop_iff g q s).mp h
  have hlimit : q.pageLimit < 2 ^ 64 :=
    Nat.lt_of_le_of_lt htop (topBase_lt g s)
  have hinit : UpdatedBelow g q s ⟨q.alignedAddress, none, s⟩ :=
    ⟨by dsimp only; omega, by dsimp only; omega,
      fun x _ => by rw [if_neg (by dsimp only; omega)], fun _ => htop, Or.inl hstart⟩
  obtain ⟨w, r, hreach, hinv, hexit⟩ := Loop.exists_exit_of_measure
    (applyGcdLoop g.services q.toGcdRequest) (UpdatedBelow g q s)
    (fun w => q.pageLimit - w.next.toNat) (by
      intro w w' hinv hnext
      by_cases hmore : w.next.toNat < q.pageLimit
      · obtain ⟨w'', hnext', hinv', hless⟩ := updatedBelow_next g q s w hlimit hinv hmore
        rw [hnext] at hnext'
        cases hnext'
        exact ⟨hinv', by omega⟩
      · rw [applyGcdLoop, if_neg (by rw [BitVec.lt_def]; omega)] at hnext
        exact absurd hnext (by simp)) _ hinit
  have hdone : ¬ w.next.toNat < q.pageLimit := by
    intro hmore
    obtain ⟨w', hnext, -, -⟩ := updatedBelow_next g q s w hlimit hinv hmore
    rw [hnext] at hexit
    exact absurd hexit (by simp)
  have hhigh := hinv.high
  rw [applyGcdLoop, if_neg (by rw [BitVec.lt_def]; omega)] at hexit
  obtain ⟨fuel, hfuel⟩ := Loop.exists_run_of_exit _ _ w _ hreach
    (show applyGcdLoop g.services q.toGcdRequest w = .exit (.ok w.gcdDescriptor, w.state) by
      rw [applyGcdLoop, if_neg (by rw [BitVec.lt_def]; omega)])
  obtain hsame | ⟨d, hd, hseen⟩ := hinv.seen
  · omega
  refine ⟨fuel, d, w.state, ?_, ?_, hseen⟩
  · rw [applyGcdTypeAndAttrs, hfuel, hd]
  · intro x hx
    rw [hinv.value_eq x hx]
    have heq : w.next.toNat = q.pageLimit := by
      omega
    simp only [mem_pages, heq]

end Region

/-- A GCD update is complete and confined exactly when no descriptor overlapping its
pages ends at the top of the address space. -/
theorem gcdUpdated_iff {σ : Type} (g : GcdMemory σ) (q : GcdRangeRequest) (s : σ) :
    GcdUpdated g q s ↔ PagesBelowTop g q s :=
  ⟨pagesBelowTop_of_gcdUpdated g q s, gcdUpdated_of_pagesBelowTop g q s⟩

/-- A region set to one function of its old contents. -/
def setRegion (region : Span) (f : GcdMemoryType × U64 → GcdMemoryType × U64)
    (s : Nat → GcdMemoryType × U64) : Nat → GcdMemoryType × U64 :=
  fun x => if Span.Mem x region then f (s x) else s x

theorem setRegion_edits (region : Span) (f : GcdMemoryType × U64 → GcdMemoryType × U64)
    (s : Nat → GcdMemoryType × U64) :
    (SpanMap.bytewise _ (2 ^ 64)).Edits region s (setRegion region f s) :=
  SpanMap.bytewise_edits _ _ _ _ _ (fun _ h => if_neg h)

theorem fst_setRegion (region : Span) (f : GcdMemoryType × U64 → GcdMemoryType × U64)
    (s : Nat → GcdMemoryType × U64) (x : Nat) (h : Span.Mem x region) :
    (setRegion region f s x).1 = (f (s x)).1 := by
  rw [setRegion, if_pos h]

/-- A memory map with a descriptor for every address. -/
def bytewiseGcd : GcdMemory (Nat → GcdMemoryType × U64) where
  services :=
    { getMemorySpaceDescriptor := fun a s => .ok ⟨a, 1, (s a.toNat).1, (s a.toNat).2⟩
      addMemorySpace := fun type base length _ s =>
        (.ok (), setRegion ⟨base.toNat, length.toNat⟩ (fun _ => (type, 0)) s)
      removeMemorySpace := fun base length s =>
        (.ok (), setRegion ⟨base.toNat, length.toNat⟩ (fun _ => (.nonExistent, 0)) s)
      setMemorySpaceAttributes := fun base length attributes s =>
        (.ok (), setRegion ⟨base.toNat, length.toNat⟩ (fun c => (c.1, attributes)) s) }
  map := SpanMap.bytewise _ _
  descriptor_eq _ _ := ⟨_, rfl, rfl, rfl⟩
  remove_ok _ _ s _ _ := ⟨_, rfl, setRegion_edits _ _ s, fst_setRegion _ _ s⟩
  add_ok _ _ _ _ s _ _ := ⟨_, rfl, setRegion_edits _ _ s, fst_setRegion _ _ s⟩
  setAttributes_ok _ _ _ s _ _ := ⟨_, rfl, setRegion_edits _ _ s, fun _ h => if_pos h⟩

/-- The last page of the address space is left alone, successfully. -/
theorem last_page_not_updated :
    ¬ GcdUpdated bytewiseGcd
      ⟨⟨0xFFFFFFFFFFFFF000, 0x1000, .memoryMappedIo, 1, true⟩, by decide, by decide⟩
      (fun _ => (.nonExistent, 0)) := by
  intro h
  exact absurd (pagesBelowTop_of_gcdUpdated _ _ _ h (2 ^ 64 - 1) (by decide)) (by decide)

end FdtBusPkg
