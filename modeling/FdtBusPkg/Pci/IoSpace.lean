import FdtBusPkg.Library.SpanList
import FdtBusPkg.Pci.RootBridge
import Mathlib.Data.List.Basic

/-!
The I/O space of the GCD and the aperture that a root bridge adds to it. The aperture is
compared with the descriptors of a map read before the first part is added, in 64-bit
sums: one that ends with the 64-bit space seems to end at zero.
-/
namespace FdtBusPkg

inductive GcdIoType
  | nonExistent
  | reserved
  | io
  deriving DecidableEq, Repr

/-- The fields of `EFI_GCD_IO_SPACE_DESCRIPTOR` that are looked at. -/
structure IoSpaceDescriptor where
  baseAddress : U64
  length : U64
  gcdIoType : GcdIoType
  deriving DecidableEq, Repr

namespace IoSpaceDescriptor

variable (d : IoSpaceDescriptor)

def span : Span := ⟨d.baseAddress.toNat, d.length.toNat⟩

def entry : Span × GcdIoType := (d.span, d.gcdIoType)

theorem entry_injective : Function.Injective entry := by
  intro d e h
  obtain ⟨hspan, htype⟩ := Prod.mk.inj h
  obtain ⟨hbase, hlength⟩ := Span.mk.inj hspan
  cases d
  cases e
  rw [BitVec.toNat_inj] at hbase hlength
  cases hbase
  cases hlength
  cases htype
  rfl

end IoSpaceDescriptor

structure IoServices (σ : Type) where
  getIoSpaceMap : σ → EfiResult (List IoSpaceDescriptor)
  addIoSpace : GcdIoType → U64 → U64 → σ → EfiStatus × σ

def MAX (a b : U64) : U64 := if a > b then a else b

theorem toNat_MAX (a b : U64) : (MAX a b).toNat = max a.toNat b.toNat := by
  rw [MAX]
  split
  · next h => exact (Nat.max_eq_left (Nat.le_of_lt h)).symm
  · next h => exact (Nat.max_eq_right (Nat.le_of_not_lt h)).symm

section Add

variable {σ : Type} (gDS : IoServices σ)

def intersectIoDescriptor (base length : U64) (d : IoSpaceDescriptor) (s : σ) : EfiStatus × σ :=
  if d.gcdIoType = .io then
    (.ok (), s)
  else
    let intersectionBase := MAX base d.baseAddress
    let intersectionEnd := MIN (base + length) (d.baseAddress + d.length)
    if intersectionBase ≥ intersectionEnd then
      (.ok (), s)
    else if d.gcdIoType = .nonExistent then
      gDS.addIoSpace .io intersectionBase (intersectionEnd - intersectionBase) s
    else
      (.error .invalidParameter, s)

/-- The loop over the descriptors of the map. -/
def intersectLoop (base length : U64) : List IoSpaceDescriptor → σ → EfiStatus × σ
  | [], s => (.ok (), s)
  | d :: rest, s =>
    match intersectIoDescriptor gDS base length d s with
    | (.error e, s) => (.error e, s)
    | (.ok (), s) => intersectLoop base length rest s

/-- `AddIoSpace` in a build without the checks of `DEBUG_CODE`. -/
def addIoSpace (range : DtRange) (s : σ) : EfiStatus × σ :=
  match gDS.getIoSpaceMap s with
  | .error e => (.error e, s)
  | .ok map => intersectLoop gDS range.rb range.rs map s

end Add

/-- An I/O map behind the services: the map returned is the one there is, a region is
added only where nothing exists, and a call that fails adds nothing. -/
structure IoSpace (σ : Type) where
  services : IoServices σ
  map : σ → SpanList GcdIoType
  get_ok (s : σ) (l : List IoSpaceDescriptor) (h : services.getIoSpaceMap s = .ok l) :
    l.map IoSpaceDescriptor.entry = (map s).entries
  add_ok (type : GcdIoType) (base length : U64) (s t : σ)
    (h : services.addIoSpace type base length s = (.ok (), t)) (x : Nat) (v : GcdIoType) :
    (map t).At x v ↔
      if Span.Mem x ⟨base.toNat, length.toNat⟩ then v = type else (map s).At x v
  add_free (type : GcdIoType) (base length : U64) (s t : σ)
    (h : services.addIoSpace type base length s = (.ok (), t)) (x : Nat)
    (hx : Span.Mem x ⟨base.toNat, length.toNat⟩) : (map s).At x .nonExistent
  add_error (type : GcdIoType) (base length : U64) (s t : σ) (e : EfiError)
    (h : services.addIoSpace type base length s = (.error e, t)) (x : Nat) (v : GcdIoType) :
    (map t).At x v ↔ (map s).At x v

/-- An aperture that does not wrap, and the descriptors of an I/O map. -/
structure IoAperture where
  range : DtRange
  fits : range.rb.toNat + range.rs.toNat < 2 ^ 64
  descriptors : List IoSpaceDescriptor
  map : SpanList GcdIoType
  entries_eq : map.entries = descriptors.map IoSpaceDescriptor.entry
  bounded : ∀ d ∈ descriptors, d.span.limit ≤ 2 ^ 64

namespace IoAperture

variable (p : IoAperture)

def ports : Span := ⟨p.range.rb.toNat, p.range.rs.toNat⟩

structure Added {σ : Type} (io : IoSpace σ) (s : σ) (r : EfiStatus × σ) : Prop where
  covered : r.1 = .ok () → ∀ x, Span.Mem x p.ports → (io.map r.2).At x .io
  unchanged : r.1 = .ok () → ∀ x, ¬ Span.Mem x p.ports →
    ∀ v, (io.map r.2).At x v ↔ (io.map s).At x v
  conflict : ∀ x v, Span.Mem x p.ports → (io.map s).At x v → v ≠ .io → v ≠ .nonExistent →
    ∃ e, r.1 = .error e

/-- The whole aperture is added, whatever keeps the map. -/
def Adds : Prop :=
  ∀ (σ : Type) (io : IoSpace σ) (s : σ), io.map s = p.map →
    p.Added io s (addIoSpace io.services p.range s)

/-- Every port is described, and as I/O space unless the descriptor ends before the end
of the 64-bit space. -/
def Described : Prop :=
  ∀ x, Span.Mem x p.ports →
    ∃ d ∈ p.descriptors, Span.Mem x d.span ∧ (d.gcdIoType = .io ∨ d.span.limit < 2 ^ 64)

/-- The descriptor is not I/O space, is seen to end where it ends, and meets the aperture. -/
structure Touches (d : IoSpaceDescriptor) : Prop where
  not_io : d.gcdIoType ≠ .io
  limit_lt : d.span.limit < 2 ^ 64
  meets : ∃ x, Span.Mem x p.ports ∧ Span.Mem x d.span

/-- Some such descriptor is of an existing type. -/
def Conflicts : Prop := ∃ d ∈ p.descriptors, p.Touches d ∧ d.gcdIoType ≠ .nonExistent

section Intersect

variable {σ : Type} (gDS : IoServices σ) (d : IoSpaceDescriptor) (s : σ)

theorem toNat_portsEnd : (p.range.rb + p.range.rs).toNat = p.ports.limit := by
  rw [BitVec.toNat_add, Nat.mod_eq_of_lt p.fits]
  rfl

theorem toNat_descriptorEnd (hbounded : d.span.limit ≤ 2 ^ 64) :
    (d.baseAddress + d.length).toNat = if d.span.limit < 2 ^ 64 then d.span.limit else 0 := by
  rw [BitVec.toNat_add]
  rw [IoSpaceDescriptor.span, Span.limit_mk] at *
  split <;> omega

theorem intersect_of_not_touches (hbounded : d.span.limit ≤ 2 ^ 64) (h : ¬ p.Touches d) :
    intersectIoDescriptor gDS p.range.rb p.range.rs d s = (.ok (), s) := by
  rw [intersectIoDescriptor]
  by_cases hio : d.gcdIoType = .io
  · rw [if_pos hio]
  · rw [if_neg hio]
    dsimp only
    rw [if_pos]
    rw [ge_iff_le, BitVec.le_def, toNat_MAX, toNat_MIN, toNat_portsEnd,
      toNat_descriptorEnd d hbounded]
    split
    · next hlimit =>
        by_contra hlt
        refine h ⟨hio, hlimit, max p.range.rb.toNat d.baseAddress.toNat, ⟨?_, ?_⟩, ⟨?_, ?_⟩⟩
        · exact Nat.le_max_left _ _
        · omega
        · exact Nat.le_max_right _ _
        · omega
    · omega

theorem intersect_of_touches (h : p.Touches d) :
    ∃ base length : U64,
      (∀ x, Span.Mem x ⟨base.toNat, length.toNat⟩ ↔ Span.Mem x p.ports ∧ Span.Mem x d.span) ∧
      intersectIoDescriptor gDS p.range.rb p.range.rs d s =
        if d.gcdIoType = .nonExistent then gDS.addIoSpace .io base length s
        else (.error .invalidParameter, s) := by
  have hend := toNat_descriptorEnd d (Nat.le_of_lt h.limit_lt)
  rw [if_pos h.limit_lt] at hend
  have hbase := toNat_MAX p.range.rb d.baseAddress
  have hlimit := toNat_MIN (p.range.rb + p.range.rs) (d.baseAddress + d.length)
  rw [toNat_portsEnd, hend] at hlimit
  obtain ⟨y, ⟨hyb, hyl⟩, hyb', hyl'⟩ := h.meets
  have hports : p.ports.base = p.range.rb.toNat := rfl
  have hspan : d.span.base = d.baseAddress.toNat := rfl
  have hlt : MAX p.range.rb d.baseAddress <
      MIN (p.range.rb + p.range.rs) (d.baseAddress + d.length) := by
    rw [BitVec.lt_def, hbase, hlimit]
    omega
  refine ⟨MAX p.range.rb d.baseAddress,
    MIN (p.range.rb + p.range.rs) (d.baseAddress + d.length) - MAX p.range.rb d.baseAddress,
    fun x => ?_, ?_⟩
  · rw [BitVec.toNat_sub_of_le (BitVec.le_of_lt hlt), hbase, hlimit]
    simp only [Span.Mem, Span.limit_mk]
    omega
  · rw [intersectIoDescriptor, if_neg h.not_io]
    dsimp only
    rw [if_neg (BitVec.not_le.mpr hlt)]

end Intersect

section Loop

variable {σ : Type} (io : IoSpace σ)

/-- Some descriptor of `l` has its part of the aperture added, and the port is in it. -/
def Filled (l : List IoSpaceDescriptor) (x : Nat) : Prop :=
  Span.Mem x p.ports ∧ ∃ d ∈ l, p.Touches d ∧ Span.Mem x d.span

theorem filled_cons_iff (d : IoSpaceDescriptor) (l : List IoSpaceDescriptor) (x : Nat) :
    p.Filled (d :: l) x ↔
      (p.Touches d ∧ Span.Mem x p.ports ∧ Span.Mem x d.span) ∨ p.Filled l x := by
  rw [Filled, List.exists_mem_cons_iff, Filled]
  constructor
  · rintro ⟨hports, ⟨htouches, hspan⟩ | hrest⟩
    · exact Or.inl ⟨htouches, hports, hspan⟩
    · exact Or.inr ⟨hports, hrest⟩
  · rintro (⟨htouches, hports, hspan⟩ | ⟨hports, hrest⟩)
    · exact ⟨hports, Or.inl ⟨htouches, hspan⟩⟩
    · exact ⟨hports, Or.inr hrest⟩

theorem intersectLoop_ok (l : List IoSpaceDescriptor) (hl : ∀ d ∈ l, d.span.limit ≤ 2 ^ 64)
    (s : σ) (h : (intersectLoop io.services p.range.rb p.range.rs l s).1 = .ok ()) :
    (∀ d ∈ l, p.Touches d → d.gcdIoType = .nonExistent) ∧ ∀ x v,
      (io.map (intersectLoop io.services p.range.rb p.range.rs l s).2).At x v ↔
        (p.Filled l x ∧ v = .io) ∨ (¬ p.Filled l x ∧ (io.map s).At x v) := by
  induction l generalizing s with
  | nil =>
      refine ⟨List.forall_mem_nil _, fun x v => ?_⟩
      have hnone : ¬ p.Filled [] x := fun hfilled => by simp [Filled] at hfilled
      simp only [hnone, false_and, not_false_eq_true, true_and, false_or]
      rfl
  | cons d l ih =>
      obtain ⟨hd, hl⟩ := List.forall_mem_cons.mp hl
      by_cases htouches : p.Touches d
      · obtain ⟨base, length, hregion, heq⟩ := p.intersect_of_touches io.services d s htouches
        by_cases htype : d.gcdIoType = .nonExistent
        · rw [if_pos htype] at heq
          rw [intersectLoop, heq] at h ⊢
          cases hadd : io.services.addIoSpace .io base length s with
          | mk status t =>
              rw [hadd] at h
              cases status with
              | error e => contradiction
              | ok u =>
                  obtain ⟨hconflicts, hat⟩ := ih hl t h
                  refine ⟨List.forall_mem_cons.mpr ⟨fun _ => htype, hconflicts⟩, fun x v => ?_⟩
                  refine (hat x v).trans ?_
                  rw [io.add_ok .io base length s t hadd x v, p.filled_cons_iff]
                  by_cases hx : Span.Mem x ⟨base.toNat, length.toNat⟩
                  · have hboth := (hregion x).mp hx
                    rw [if_pos hx]
                    by_cases hfilled : p.Filled l x
                    · simp [hfilled]
                    · simp [hfilled, htouches, hboth]
                  · have hnot : ¬ (Span.Mem x p.ports ∧ Span.Mem x d.span) :=
                      fun hboth => hx ((hregion x).mpr hboth)
                    rw [if_neg hx]
                    simp only [hnot, and_false, false_or]
        · rw [if_neg htype] at heq
          rw [intersectLoop, heq] at h
          contradiction
      · rw [intersectLoop, p.intersect_of_not_touches io.services d s hd htouches] at h ⊢
        obtain ⟨hconflicts, hat⟩ := ih hl s h
        refine ⟨List.forall_mem_cons.mpr ⟨fun ht => absurd ht htouches, hconflicts⟩, fun x v => ?_⟩
        refine (hat x v).trans ?_
        rw [p.filled_cons_iff]
        simp only [htouches, false_and, false_or]

theorem addIoSpace_ok (s : σ) (hs : io.map s = p.map)
    (h : (addIoSpace io.services p.range s).1 = .ok ()) :
    addIoSpace io.services p.range s =
      intersectLoop io.services p.range.rb p.range.rs p.descriptors s := by
  rw [addIoSpace] at h ⊢
  cases hget : io.services.getIoSpaceMap s with
  | error e =>
      rw [hget] at h
      contradiction
  | ok l =>
      have hentries := io.get_ok s l hget
      rw [hs, p.entries_eq] at hentries
      rw [List.map_injective_iff.mpr IoSpaceDescriptor.entry_injective hentries]

theorem at_map_iff (x : Nat) (v : GcdIoType) :
    p.map.At x v ↔ ∃ d ∈ p.descriptors, Span.Mem x d.span ∧ d.gcdIoType = v := by
  rw [SpanList.At, p.entries_eq]
  simp only [List.mem_map, exists_exists_and_eq_and]
  rfl

theorem eq_of_mem_span (d e : IoSpaceDescriptor) (hd : d ∈ p.descriptors)
    (he : e ∈ p.descriptors) (x : Nat) (hxd : Span.Mem x d.span) (hxe : Span.Mem x e.span) :
    d = e := by
  refine IoSpaceDescriptor.entry_injective (p.map.eq_of_mem d.entry e.entry ?_ ?_ x hxd hxe)
  · rw [p.entries_eq]
    exact List.mem_map_of_mem hd
  · rw [p.entries_eq]
    exact List.mem_map_of_mem he

theorem adds_of_described (h : p.Described) : p.Adds := by
  intro σ io s hs
  have hrun (hok : (addIoSpace io.services p.range s).1 = .ok ()) := by
    have heq := p.addIoSpace_ok io s hs hok
    rw [heq] at hok
    have hloop := p.intersectLoop_ok io p.descriptors p.bounded s hok
    rw [← heq] at hloop
    exact hloop
  constructor
  · intro hok x hx
    obtain ⟨hconflicts, hat⟩ := hrun hok
    rw [hat x .io]
    by_cases hfilled : p.Filled p.descriptors x
    · exact Or.inl ⟨hfilled, rfl⟩
    · obtain ⟨d, hd, hxd, hio | hlimit⟩ := h x hx
      · refine Or.inr ⟨hfilled, ?_⟩
        rw [hs, at_map_iff]
        exact ⟨d, hd, hxd, hio⟩
      · by_cases hio : d.gcdIoType = .io
        · refine Or.inr ⟨hfilled, ?_⟩
          rw [hs, at_map_iff]
          exact ⟨d, hd, hxd, hio⟩
        · exact absurd ⟨hx, d, hd, ⟨hio, hlimit, x, hx, hxd⟩, hxd⟩ hfilled
  · intro hok x hx v
    rw [(hrun hok).2 x v]
    have hfilled : ¬ p.Filled p.descriptors x := fun hfilled => hx hfilled.1
    simp only [hfilled, false_and, not_false_eq_true, true_and, false_or]
  · intro x v hx hv hio hfree
    cases hresult : (addIoSpace io.services p.range s).1 with
    | error e => exact ⟨e, rfl⟩
    | ok u =>
        rw [hs, at_map_iff] at hv
        obtain ⟨d, hd, hxd, rfl⟩ := hv
        obtain ⟨e, he, hxe, hseen⟩ := h x hx
        rw [p.eq_of_mem_span e d he hd x hxe hxd] at hseen
        have htouches : p.Touches d := ⟨hio, hseen.resolve_left hio, x, hx, hxd⟩
        exact absurd ((hrun hresult).1 d hd htouches) hfree

theorem adds_of_conflicts (h : p.Conflicts) : p.Adds := by
  intro σ io s hs
  obtain ⟨d, hd, htouches, htype⟩ := h
  have hfails : (addIoSpace io.services p.range s).1 ≠ .ok () := by
    intro hok
    have heq := p.addIoSpace_ok io s hs hok
    rw [heq] at hok
    exact htype ((p.intersectLoop_ok io p.descriptors p.bounded s hok).1 d hd htouches)
  refine ⟨fun hok => absurd hok hfails, fun hok => absurd hok hfails, fun _ _ _ _ _ _ => ?_⟩
  cases hresult : (addIoSpace io.services p.range s).1 with
  | error e => exact ⟨e, rfl⟩
  | ok u => exact absurd hresult hfails

end Loop

end IoAperture

/-! A map that adds what it is asked for. -/

section Keeper

def descriptorOf (e : Span × GcdIoType) : IoSpaceDescriptor :=
  ⟨BitVec.ofNat 64 e.1.base, BitVec.ofNat 64 e.1.len, e.2⟩

/-- A region can be added inside one span where nothing exists. -/
def Addable (m : SpanList GcdIoType) (region : Span) : Prop :=
  ∃ e ∈ m.entries, Span.Within region e.1 ∧ e.2 = .nonExistent

instance (m : SpanList GcdIoType) (region : Span) : Decidable (Addable m region) :=
  inferInstanceAs (Decidable (∃ e ∈ m.entries, _))

/-- The services of a map that keeps its spans in a list. -/
def keeperServices : IoServices (SpanList GcdIoType) where
  getIoSpaceMap m :=
    if (m.entries.map descriptorOf).map IoSpaceDescriptor.entry = m.entries then
      .ok (m.entries.map descriptorOf)
    else
      .error .outOfResources
  addIoSpace type base length m :=
    if Addable m ⟨base.toNat, length.toNat⟩ then
      (.ok (), m.assign ⟨base.toNat, length.toNat⟩ type)
    else
      (.error .accessDenied, m)

def keeper : IoSpace (SpanList GcdIoType) where
  services := keeperServices
  map m := m
  get_ok m l h := by
    rw [keeperServices] at h
    dsimp only at h
    split at h
    · next heq =>
        obtain rfl := Except.ok.inj h
        exact heq
    · contradiction
  add_ok type base length m t h x v := by
    rw [keeperServices] at h
    dsimp only at h
    split at h
    · next haddable =>
        obtain ⟨e, he, hwithin, -⟩ := haddable
        obtain ⟨-, rfl⟩ := Prod.mk.inj h
        exact m.at_assign _ type e he hwithin x v
    · cases h
  add_free type base length m t h x hx := by
    rw [keeperServices] at h
    dsimp only at h
    split at h
    · next haddable =>
        obtain ⟨e, he, hwithin, htype⟩ := haddable
        exact ⟨e, he, Span.mem_of_within hwithin hx, htype⟩
    · cases h
  add_error type base length m t e h x v := by
    rw [keeperServices] at h
    dsimp only at h
    split at h
    · cases h
    · obtain ⟨-, rfl⟩ := Prod.mk.inj h
      rfl

theorem descriptorOf_entry (d : IoSpaceDescriptor) : descriptorOf d.entry = d := by
  rw [descriptorOf, IoSpaceDescriptor.entry, IoSpaceDescriptor.span]
  dsimp only
  rw [BitVec.ofNat_toNat, BitVec.ofNat_toNat, BitVec.setWidth_eq, BitVec.setWidth_eq]

variable (p : IoAperture)

theorem keeper_getIoSpaceMap : keeperServices.getIoSpaceMap p.map = .ok p.descriptors := by
  have hdescriptors : p.map.entries.map descriptorOf = p.descriptors := by
    rw [p.entries_eq, List.map_map]
    have hid : descriptorOf ∘ IoSpaceDescriptor.entry = id := funext descriptorOf_entry
    rw [hid, List.map_id]
  rw [keeperServices]
  dsimp only
  rw [hdescriptors, if_pos p.entries_eq.symm]

theorem keeperLoop_ok (l : List IoSpaceDescriptor) (hl : ∀ d ∈ l, d.span.limit ≤ 2 ^ 64)
    (hsorted : l.Pairwise fun d e => d.span.limit ≤ e.span.base)
    (hfree : ∀ d ∈ l, p.Touches d → d.gcdIoType = .nonExistent) (m : SpanList GcdIoType)
    (hm : ∀ d ∈ l, d.entry ∈ m.entries) :
    (intersectLoop keeperServices p.range.rb p.range.rs l m).1 = .ok () := by
  induction l generalizing m with
  | nil => rfl
  | cons d l ih =>
      obtain ⟨hd, hl⟩ := List.forall_mem_cons.mp hl
      obtain ⟨hafter, hsorted⟩ := List.pairwise_cons.mp hsorted
      obtain ⟨htype, hfree⟩ := List.forall_mem_cons.mp hfree
      obtain ⟨hdm, hm⟩ := List.forall_mem_cons.mp hm
      by_cases htouches : p.Touches d
      · obtain ⟨base, length, hregion, heq⟩ := p.intersect_of_touches keeperServices d m htouches
        rw [if_pos (htype htouches)] at heq
        obtain ⟨y, hy⟩ := htouches.meets
        have hyr := (hregion y).mpr hy
        have hwithin : Span.Within ⟨base.toNat, length.toNat⟩ d.span :=
          Span.within_of_mem hyr fun x hx => ((hregion x).mp hx).2
        have hadd : keeperServices.addIoSpace .io base length m =
            (.ok (), m.assign ⟨base.toNat, length.toNat⟩ .io) :=
          if_pos ⟨d.entry, hdm, hwithin, htype htouches⟩
        rw [intersectLoop, heq, hadd]
        refine ih hl hsorted hfree _ fun e he => m.mem_assign _ _ e.entry (hm e he) fun hin => ?_
        have hye := Span.mem_of_within hin hyr
        exact absurd (Nat.le_trans (hafter e he) hye.1) (Nat.not_le.mpr hy.2.2)
      · rw [intersectLoop, p.intersect_of_not_touches keeperServices d m hd htouches]
        exact ih hl hsorted hfree m hm

end Keeper

/-- The aperture is added as a whole, whatever keeps the map, if and only if every port is
described and seen to be, or some part of it is seen to conflict. -/
theorem ioAperture_adds_iff (p : IoAperture) : p.Adds ↔ p.Described ∨ p.Conflicts := by
  constructor
  · intro hadds
    by_contra hnot
    obtain ⟨hdescribed, hconflicts⟩ := not_or.mp hnot
    obtain ⟨x, hx⟩ := not_forall.mp hdescribed
    obtain ⟨hports, hnone⟩ := Classical.not_imp.mp hx
    have hfree : ∀ d ∈ p.descriptors, p.Touches d → d.gcdIoType = .nonExistent := by
      intro d hd htouches
      by_contra htype
      exact hconflicts ⟨d, hd, htouches, htype⟩
    have hsorted : p.descriptors.Pairwise fun d e => d.span.limit ≤ e.span.base := by
      have hentries := p.map.sorted
      rw [p.entries_eq] at hentries
      exact List.pairwise_map.mp hentries
    have hrun : addIoSpace keeper.services p.range p.map =
        intersectLoop keeperServices p.range.rb p.range.rs p.descriptors p.map := by
      rw [addIoSpace]
      change (match keeperServices.getIoSpaceMap p.map with
        | .error e => _
        | .ok map => _) = _
      rw [keeper_getIoSpaceMap]
      rfl
    have hok := keeperLoop_ok p p.descriptors p.bounded hsorted hfree p.map fun d hd => by
      rw [p.entries_eq]
      exact List.mem_map_of_mem hd
    have hcovered := (hadds _ keeper p.map rfl).covered
    rw [hrun] at hcovered
    rcases ((p.intersectLoop_ok keeper p.descriptors p.bounded p.map hok).2 x .io).mp
      (hcovered hok x hports) with ⟨⟨-, d, hd, htouches, hxd⟩, -⟩ | ⟨-, hio⟩
    · exact hnone ⟨d, hd, hxd, Or.inr htouches.limit_lt⟩
    · obtain ⟨d, hd, hxd, htype⟩ := (p.at_map_iff x .io).mp hio
      exact hnone ⟨d, hd, hxd, Or.inl htype⟩
  · rintro (hdescribed | hconflicts)
    · exact p.adds_of_described hdescribed
    · exact p.adds_of_conflicts hconflicts

/-- 64 KiB of ports where the GCD has 4 KiB. -/
def wideAperture : IoAperture where
  range := ⟨0, 0x3EFF0000, 0x3EFF0000, 0x10000, none⟩
  fits := by decide
  descriptors := [⟨0, 0x1000, .io⟩]
  map :=
    { entries := [(⟨0, 0x1000⟩, .io)]
      nonempty := by decide
      sorted := List.pairwise_singleton _ _ }
  entries_eq := rfl
  bounded := by decide

/-- The other ports are not added, and the call succeeds. -/
theorem wideAperture_not_added : ¬ wideAperture.Adds := by
  intro hadds
  have hcovered := (hadds _ keeper wideAperture.map rfl).covered rfl 0x1000 (by decide)
  obtain ⟨e, he, hx, -⟩ := hcovered
  obtain rfl := List.mem_singleton.mp he
  exact absurd hx (by decide)

end FdtBusPkg
