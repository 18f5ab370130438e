import FdtBusPkg.Pci.DtInit
import FdtBusPkg.Pci.ResourceSearch

/-!
The aperture search against exact arithmetic. The loop compares 64-bit sums, so what it
asks for is given by the end of the first region, the limit and the step; the aligned
placements in the aperture are given without any overflow.
-/
namespace FdtBusPkg

namespace ApertureSearch

variable (q : ApertureSearch) (length : U64)

def start : U64 := ALIGN_VALUE q.baseAddress q.step

/-- `BaseAddress + Length` and `Limit + 1` as first compared. -/
def firstEnd : Nat := (q.start + length).toNat
def lastEnd : Nat := (q.limit + 1).toNat

/-- Some region end on the way is above the limit and below the end of the address
space, so that the comparison stops the search. -/
def Stops : Prop :=
  ∃ k, q.lastEnd < q.firstEnd length + k * q.step.toNat ∧
    q.firstEnd length + k * q.step.toNat < 2 ^ 64

/-- Until then the search asks for `x`. -/
def Tries (x : U64) : Prop :=
  ∃ k, q.firstEnd length + k * q.step.toNat ≤ q.lastEnd ∧ x = (· + q.step)^[k] q.start

/-- A region at `x` is aligned and lies inside the aperture. -/
structure Placement (x : U64) : Prop where
  aligned : q.step.toNat ∣ x.toNat
  base_le : q.baseAddress.toNat ≤ x.toNat
  le_limit : x.toNat + length.toNat ≤ q.limit.toNat + 1

/-- The search stops, and nothing it asks for can be granted. -/
def Barren (free : GcdSpace → Span → Bool) (space : GcdSpace) (gcd : Gcd) : Prop :=
  q.baseAddress < q.limit →
    q.Stops length ∧ ∀ x, q.Tries length x → ¬ Grantable free space length x gcd

theorem searchInside_iterate (k : Nat) :
    searchInside length q.limit ((· + q.step)^[k] q.start) = true ↔
      (q.firstEnd length + k * q.step.toNat) % 2 ^ 64 ≤ q.lastEnd := by
  rw [searchInside, decide_eq_true_eq, BitVec.le_def, BitVec.toNat_add, toNat_iterate_add,
    firstEnd, lastEnd, BitVec.toNat_add q.start, Nat.mod_add_mod, Nat.mod_add_mod,
    Nat.add_right_comm]

section Aligned

variable (hbits : q.bitsOfAlignment.toNat < 64)
include hbits

theorem step_pos : 0 < q.step.toNat := by
  rw [q.toNat_step hbits]
  exact Nat.two_pow_pos _

theorem step_dvd : q.step.toNat ∣ 2 ^ 64 := by
  rw [q.toNat_step hbits]
  exact Nat.pow_dvd_pow 2 hbits.le

/-- The walk leaves exactly when the comparison stops it before its sums overflow. -/
theorem leaves_iff_stops :
    Scan.Leaves (· + q.step) (searchInside length q.limit) q.start ↔ q.Stops length := by
  constructor
  · rintro ⟨k, hk⟩
    rw [← Bool.not_eq_true, searchInside_iterate, Nat.not_le] at hk
    have hlt : (q.firstEnd length + k * q.step.toNat) % 2 ^ 64 < 2 ^ 64 :=
      Nat.mod_lt _ (Nat.two_pow_pos 64)
    have hsplit := Nat.mod_add_div (q.firstEnd length + k * q.step.toNat) (2 ^ 64)
    by_cases hle : q.firstEnd length ≤ (q.firstEnd length + k * q.step.toNat) % 2 ^ 64
    · obtain ⟨r, hr⟩ := Nat.exists_eq_add_of_le hle
      have hsum : r + 2 ^ 64 * ((q.firstEnd length + k * q.step.toNat) / 2 ^ 64) =
          k * q.step.toNat := by omega
      have hcycle : q.step.toNat ∣
          2 ^ 64 * ((q.firstEnd length + k * q.step.toNat) / 2 ^ 64) :=
        (q.step_dvd hbits).mul_right _
      have hdvd : q.step.toNat ∣ r := by
        rw [← Nat.dvd_add_left hcycle, hsum]
        exact Nat.dvd_mul_left _ k
      obtain ⟨j, rfl⟩ := hdvd
      rw [hr, Nat.mul_comm] at hk hlt
      exact ⟨j, hk, hlt⟩
    · refine ⟨0, ?_⟩
      rw [Nat.zero_mul, Nat.add_zero]
      exact ⟨by omega, (q.start + length).isLt⟩
  · rintro ⟨k, hlimit, hlt⟩
    refine ⟨k, ?_⟩
    rw [← Bool.not_eq_true, searchInside_iterate, Nat.mod_eq_of_lt hlt, Nat.not_le]
    exact hlimit

theorem ends_iff : q.Ends length ↔ (q.baseAddress < q.limit → q.Stops length) :=
  imp_congr_right fun _ => q.leaves_iff_stops length hbits

omit hbits in
theorem visits_of_tries (x : U64) (h : q.Tries length x) :
    Scan.Visits (· + q.step) (searchInside length q.limit) q.start x := by
  obtain ⟨k, hk, rfl⟩ := h
  refine ⟨k, rfl, fun j hj => ?_⟩
  have hlast : q.lastEnd < 2 ^ 64 := (q.limit + 1).isLt
  have hle : j * q.step.toNat ≤ k * q.step.toNat := Nat.mul_le_mul_right _ hj
  rw [searchInside_iterate, Nat.mod_eq_of_lt (by omega)]
  omega

omit hbits in
theorem tries_of_visits (hstops : q.Stops length) (x : U64)
    (h : Scan.Visits (· + q.step) (searchInside length q.limit) q.start x) : q.Tries length x := by
  obtain ⟨m, hm, hlt⟩ := hstops
  obtain ⟨k, rfl, hin⟩ := h
  have hkm : k < m := by
    by_contra hle
    have hmin := hin m (Nat.not_lt.mp hle)
    rw [searchInside_iterate, Nat.mod_eq_of_lt hlt] at hmin
    omega
  have hle : k * q.step.toNat ≤ m * q.step.toNat := Nat.mul_le_mul_right _ hkm.le
  have hink := hin k (Nat.le_refl k)
  rw [searchInside_iterate, Nat.mod_eq_of_lt (by omega)] at hink
  exact ⟨k, hink, rfl⟩

end Aligned

section Start

variable (hbits : q.bitsOfAlignment.toNat < 64)
include hbits

theorem dvd_start : q.step.toNat ∣ q.start.toNat := by
  have hvalue := dvd_alignValue q.baseAddress q.step q.bitsOfAlignment.toNat hbits
    (q.toNat_step hbits)
  rwa [← q.toNat_step hbits] at hvalue

/-- The alignment moves up by less than a step, or over the end of the address space. -/
theorem start_cases :
    (q.baseAddress.toNat ≤ q.start.toNat ∧ q.start.toNat < q.baseAddress.toNat + q.step.toNat) ∨
      (q.start.toNat = 0 ∧ 2 ^ 64 < q.baseAddress.toNat + q.step.toNat) := by
  have hstep := q.toNat_step hbits
  have hpos := q.step_pos hbits
  have hbase := q.baseAddress.isLt
  have hone : (1 : U64).toNat = 1 := rfl
  have hle : q.step.toNat ≤ 2 ^ 63 := by
    rw [hstep]
    exact Nat.pow_le_pow_right (by decide) (Nat.le_of_lt_succ hbits)
  have hmask : q.step - 1 = Align.lowMask 64 q.bitsOfAlignment.toNat := by
    apply BitVec.eq_of_toNat_eq
    rw [Align.lowMask, BitVec.toNat_ofNat, BitVec.toNat_sub, ← hstep, hone]
    omega
  have hoffset : ((q.step - q.baseAddress) &&& (q.step - 1)).toNat < q.step.toNat := by
    rw [hmask, Align.toNat_and_lowMask _ _ hbits.le, ← hstep]
    exact Nat.mod_lt _ hpos
  have hdvd := q.dvd_start hbits
  have hstart : q.start.toNat = (q.baseAddress.toNat +
      ((q.step - q.baseAddress) &&& (q.step - 1)).toNat) % 2 ^ 64 := by
    rw [start, ALIGN_VALUE, BitVec.toNat_add]
  generalize ((q.step - q.baseAddress) &&& (q.step - 1)).toNat = offset at hoffset hstart
  by_cases hlt : q.baseAddress.toNat + offset < 2 ^ 64
  · rw [Nat.mod_eq_of_lt hlt] at hstart
    exact Or.inl ⟨by omega, by omega⟩
  · have hsmall : q.start.toNat < q.step.toNat := by omega
    exact Or.inr ⟨Nat.eq_zero_of_dvd_of_lt hdvd hsmall, by omega⟩

theorem exists_step_of_placement (x : U64) (h : q.Placement length x) :
    q.baseAddress.toNat ≤ q.start.toNat ∧
      ∃ k, x.toNat = q.start.toNat + k * q.step.toNat := by
  have hpos := q.step_pos hbits
  have hx := x.isLt
  have hbase := h.base_le
  obtain ⟨m, hm⟩ := h.aligned
  obtain ⟨n, hn⟩ := q.dvd_start hbits
  obtain ⟨c, hc⟩ := q.step_dvd hbits
  rcases q.start_cases hbits with ⟨hle, hlt⟩ | ⟨-, hover⟩
  · refine ⟨hle, m - n, ?_⟩
    have hmn : n ≤ m := by
      by_contra hne
      have hmul : q.step.toNat * (m + 1) ≤ q.step.toNat * n :=
        Nat.mul_le_mul_left _ (Nat.lt_of_not_le hne)
      rw [Nat.mul_succ] at hmul
      omega
    rw [hm, hn, Nat.mul_comm (m - n), ← Nat.mul_add, Nat.add_sub_cancel' hmn]
  · have hmc : m < c := by
      by_contra hne
      have hmul : q.step.toNat * c ≤ q.step.toNat * m :=
        Nat.mul_le_mul_left _ (Nat.le_of_not_lt hne)
      omega
    have hmul : q.step.toNat * (m + 1) ≤ q.step.toNat * c := Nat.mul_le_mul_left _ hmc
    rw [Nat.mul_succ] at hmul
    omega

end Start

section Run

variable (free : GcdSpace → Span → Bool) (space : GcdSpace) (gcd : Gcd)

theorem gcdAllocate_ne_self (x : U64) : gcdAllocate free space length x gcd ≠ some gcd := by
  intro h
  have hgrantable := grantable_of_gcdAllocate free space length x gcd gcd h
  have hheld := (held_of_gcdAllocate free space length x gcd gcd h space
    (gcdRegion x length)).mpr (Or.inl ⟨rfl, rfl⟩)
  exact HeldSpans.not_disjoint_self _ hgrantable.2.1.1 (hgrantable.2.2 _ hheld)

theorem run_eq_max_iff (hbits : q.bitsOfAlignment.toNat < 64) :
    q.run length free space gcd = some (MAX_UINT64, gcd) ↔ q.Barren length free space gcd := by
  constructor
  · intro hrun hlt
    rcases q.run_cases length free space gcd gcd MAX_UINT64 hrun with
      ⟨-, -, hends, hrefused⟩ | ⟨-, hgranted⟩
    · have hstops := (q.ends_iff length hbits).mp hends hlt
      exact ⟨hstops, fun x hx => hrefused x ⟨hlt, q.visits_of_tries length x hx⟩⟩
    · exact absurd hgranted (gcdAllocate_ne_self length free space gcd MAX_UINT64)
  · intro hbarren
    apply q.run_of_refused length free space gcd
    · exact (q.ends_iff length hbits).mpr fun hlt => (hbarren hlt).1
    · rintro y ⟨hlt, hvisits⟩
      obtain ⟨hstops, hrefused⟩ := hbarren hlt
      exact hrefused y (q.tries_of_visits length hstops y hvisits)

/-- The limit plus one is not zero, or the only placement ends where the space does. -/
def Reaches : Prop :=
  q.limit ≠ MAX_UINT64 ∨ q.start.toNat + length.toNat = 2 ^ 64

theorem inside_of_placement (x : U64)
    (hreaches : q.Reaches length) (h : q.Placement length x) (k : Nat)
    (hk : x.toNat = q.start.toNat + k * q.step.toNat) (j : Nat) (hj : j ≤ k) :
    searchInside length q.limit ((· + q.step)^[j] q.start) = true := by
  have hle : j * q.step.toNat ≤ k * q.step.toNat := Nat.mul_le_mul_right _ hj
  have hinside := h.le_limit
  have hlimit := q.limit.isLt
  have hmax : MAX_UINT64.toNat = 2 ^ 64 - 1 := rfl
  have hone : (1 : U64).toNat = 1 := rfl
  rw [searchInside_iterate, firstEnd, lastEnd, BitVec.toNat_add, BitVec.toNat_add, hone]
  rcases hreaches with hne | htop
  · rw [ne_eq, ← BitVec.toNat_inj, hmax] at hne
    omega
  · omega

/-- A search that reaches its placements finds one if there is a free one. -/
theorem run_of_placement (hbits : q.bitsOfAlignment.toNat < 64) (hlength : 0 < length.toNat)
    (hlt : q.baseAddress < q.limit) (hreaches : q.Reaches length) (x : U64)
    (hx : q.Placement length x) (hgrantable : Grantable free space length x gcd) :
    ∃ y gcd', q.run length free space gcd = some (y, gcd') ∧ y ≠ MAX_UINT64 ∧
      q.Placement length y ∧ gcdAllocate free space length y gcd = some gcd' := by
  obtain ⟨hbase, k, hk⟩ := q.exists_step_of_placement length hbits x hx
  have hpos := q.step_pos hbits
  have hxlt := x.isLt
  have hfuel : k < 2 ^ 64 := by
    have hmul : k * 1 ≤ k * q.step.toNat := Nat.mul_le_mul_left k hpos
    omega
  have htoNat (j : Nat) (hj : j ≤ k) :
      ((· + q.step)^[j] q.start).toNat = q.start.toNat + j * q.step.toNat := by
    have hle : j * q.step.toNat ≤ k * q.step.toNat := Nat.mul_le_mul_right _ hj
    rw [toNat_iterate_add, Nat.mod_eq_of_lt (by omega)]
  have hhit : gcdAllocate free space length ((· + q.step)^[k] q.start) gcd ≠ none := by
    have hxk : (· + q.step)^[k] q.start = x :=
      BitVec.eq_of_toNat_eq ((htoNat k (Nat.le_refl k)).trans hk.symm)
    rw [hxk]
    exact fun hnone => (gcdAllocate_eq_none_iff free space length x gcd).mp hnone hgrantable
  obtain ⟨j, gcd', hj, hgranted, hrun⟩ := Scan.run_of_hit (· + q.step)
    (searchInside length q.limit) (fun base => gcdAllocate free space length base gcd) (2 ^ 64) k
    q.start hfuel (q.inside_of_placement length x hreaches hx k hk) hhit
  have hle : j * q.step.toNat ≤ k * q.step.toNat := Nat.mul_le_mul_right _ hj
  have hinside := hx.le_limit
  refine ⟨(· + q.step)^[j] q.start, gcd', ?_, ?_, ⟨?_, ?_, ?_⟩, hgranted⟩
  · rw [run_eq, if_pos hlt]
    exact congrArg (Option.map fun found => found.getD (MAX_UINT64, gcd)) hrun
  · intro hmax
    have hy := (htoNat j hj).symm.trans (congrArg BitVec.toNat hmax)
    have hlimit := q.limit.isLt
    have htoNatMax : MAX_UINT64.toNat = 2 ^ 64 - 1 := rfl
    rw [BitVec.lt_def] at hlt
    rcases hreaches with hne | htop
    · rw [ne_eq, ← BitVec.toNat_inj] at hne
      omega
    · have hdvd : q.step.toNat ∣ 2 ^ 64 - 1 := by
        rw [← htoNatMax, ← hy]
        exact Nat.dvd_add (q.dvd_start hbits) (Nat.dvd_mul_left _ j)
      have hstep : q.step.toNat ∣ 1 := (Nat.dvd_add_right hdvd).mp (q.step_dvd hbits)
      rw [Nat.dvd_one] at hstep
      rcases q.start_cases hbits with ⟨-, hclose⟩ | ⟨hzero, -⟩ <;> omega
  · rw [htoNat j hj]
    exact Nat.dvd_add (q.dvd_start hbits) (Nat.dvd_mul_left _ j)
  · rw [htoNat j hj]
    omega
  · rw [htoNat j hj]
    omega

/-- With the last address for a limit and room before it, the search gives up at once. -/
theorem barren_of_not_reaches (hlength : 0 < length.toNat) (h : ¬ q.Reaches length) :
    q.Barren length free space gcd := by
  intro hlt
  rw [Reaches, not_or, not_not] at h
  obtain ⟨hlimit, htop⟩ := h
  have hstart := q.start.isLt
  have hlen := length.isLt
  have hlast : q.lastEnd = 0 := by
    rw [lastEnd, hlimit]
    rfl
  have hfirst : 0 < q.firstEnd length := by
    rw [firstEnd, BitVec.toNat_add]
    omega
  constructor
  · refine ⟨0, ?_, ?_⟩
    · omega
    · rw [Nat.zero_mul, Nat.add_zero]
      exact (q.start + length).isLt
  · rintro x ⟨k, hk, -⟩
    omega

theorem barren_of_whole (hbits : q.bitsOfAlignment.toNat < 64) (hbase : q.baseAddress = 0)
    (hlimit : q.limit = MAX_UINT64) : q.Barren length free space gcd := by
  have hpos := q.step_pos hbits
  have hzero : q.baseAddress.toNat = 0 := by
    rw [hbase]
    rfl
  have hstart : q.start = 0 := by
    apply BitVec.eq_of_toNat_eq
    rcases q.start_cases hbits with ⟨-, hlt⟩ | ⟨hstart, -⟩
    · rw [hzero, Nat.zero_add] at hlt
      exact Nat.eq_zero_of_dvd_of_lt (q.dvd_start hbits) hlt
    · exact hstart
  have hlast : q.lastEnd = 0 := by
    rw [lastEnd, hlimit]
    rfl
  have hfirst : q.firstEnd length = length.toNat := by
    have hsum : 0 + length = length := BitVec.zero_add _
    rw [firstEnd, hstart, hsum]
  have hstep := q.step.isLt
  have hlength := length.isLt
  intro _
  by_cases hempty : length.toNat = 0
  · refine ⟨⟨1, by omega, by omega⟩, fun x _ hgrantable => ?_⟩
    have hsome : 0 < length.toNat := hgrantable.2.1.1
    omega
  · refine ⟨⟨0, by omega, by omega⟩, ?_⟩
    rintro x ⟨k, hk, -⟩
    omega

end Run

end ApertureSearch

/-- A call of `AllocateResource` that searches. -/
structure SearchCall where
  free : GcdSpace → Span → Bool
  mmio : Bool
  length : U64
  bitsOfAlignment : U64
  baseAddress : U64
  limit : U64
  gcd : Gcd
  length_pos : 0 < length.toNat
  bits_lt : bitsOfAlignment.toNat < 64
  base_lt : baseAddress < limit

namespace SearchCall

variable (c : SearchCall)

def space : GcdSpace := if c.mmio then .memory else .io

def search : ApertureSearch := ⟨c.bitsOfAlignment, c.baseAddress, c.limit⟩

def result : Option (U64 × Gcd) :=
  allocateResource c.free c.mmio c.length c.bitsOfAlignment c.baseAddress c.limit c.gcd

/-- An aligned region inside the aperture, in exact arithmetic. -/
structure Inside (x : U64) : Prop where
  aligned : 2 ^ c.bitsOfAlignment.toNat ∣ x.toNat
  base_le : c.baseAddress.toNat ≤ x.toNat
  le_limit : x.toNat + c.length.toNat ≤ c.limit.toNat + 1

/-- An aligned region inside the aperture that the GCD would grant. -/
def FreePlacement (x : U64) : Prop := c.Inside x ∧ Grantable c.free c.space c.length x c.gcd

/-- The search returns; an address is an aligned one inside the aperture that is taken
now, and no address means that nothing changed and nothing was free. -/
def Exact : Prop :=
  ∃ x gcd, c.result = some (x, gcd) ∧
    (x ≠ MAX_UINT64 → c.Inside x ∧ ∀ space span, span ∈ (gcd space).held ↔
      (space = c.space ∧ span = gcdRegion x c.length) ∨ span ∈ (c.gcd space).held) ∧
    (x = MAX_UINT64 → gcd = c.gcd ∧ ∀ y, ¬ c.FreePlacement y)

/-- If a placement is free, the search gets to it; if none is, the search is barren. -/
def Safe : Prop :=
  ((∃ x, c.FreePlacement x) → c.search.Reaches c.length) ∧
    ((¬ ∃ x, c.FreePlacement x) → c.search.Barren c.length c.free c.space c.gcd)

theorem result_eq : c.result = c.search.run c.length c.free c.space c.gcd := by
  rw [result, ApertureSearch.run, search, space]
  cases c.mmio <;> rfl

theorem inside_iff (x : U64) : c.Inside x ↔ c.search.Placement c.length x := by
  have hstep := c.search.toNat_step c.bits_lt
  constructor
  · intro h
    refine ⟨?_, h.base_le, h.le_limit⟩
    rw [hstep]
    exact h.aligned
  · intro h
    have haligned := h.aligned
    rw [hstep] at haligned
    exact ⟨haligned, h.base_le, h.le_limit⟩

theorem exact_iff_safe : c.Exact ↔ c.Safe := by
  have hbarren := c.search.run_eq_max_iff c.length c.free c.space c.gcd c.bits_lt
  rw [← c.result_eq] at hbarren
  constructor
  · rintro ⟨x, gcd, hrun, hfound, hmissed⟩
    refine ⟨fun hfree => ?_, fun hnone => ?_⟩
    · by_contra hreaches
      have hempty := hbarren.mpr (c.search.barren_of_not_reaches c.length c.free c.space c.gcd
        c.length_pos hreaches)
      rw [hrun, Option.some.injEq, Prod.mk.injEq] at hempty
      obtain ⟨y, hy⟩ := hfree
      exact (hmissed hempty.1).2 y hy
    · by_cases hx : x = MAX_UINT64
      · obtain ⟨rfl, -⟩ := hmissed hx
        rw [hx] at hrun
        exact hbarren.mp hrun
      · have hcases := c.search.run_cases c.length c.free c.space c.gcd gcd x
          (c.result_eq.symm.trans hrun)
        rcases hcases with ⟨hmax, -⟩ | ⟨-, hgranted⟩
        · exact absurd hmax hx
        · exact absurd ⟨x, (hfound hx).1,
            grantable_of_gcdAllocate c.free c.space c.length x c.gcd gcd hgranted⟩ hnone
  · rintro ⟨hreaches, hnone⟩
    by_cases hfree : ∃ x, c.FreePlacement x
    · obtain ⟨x, hinside, hgrantable⟩ := hfree
      obtain ⟨y, gcd, hrun, hy, hplacement, hgranted⟩ := c.search.run_of_placement c.length c.free
        c.space c.gcd c.bits_lt c.length_pos c.base_lt (hreaches ⟨x, hinside, hgrantable⟩) x
        ((c.inside_iff x).mp hinside) hgrantable
      refine ⟨y, gcd, c.result_eq.trans hrun, fun _ => ⟨(c.inside_iff y).mpr hplacement, ?_⟩,
        fun hmax => absurd hmax hy⟩
      exact held_of_gcdAllocate c.free c.space c.length y c.gcd gcd hgranted
    · exact ⟨MAX_UINT64, c.gcd, hbarren.mpr (hnone hfree), fun hne => absurd rfl hne,
        fun _ => ⟨rfl, fun y hy => hfree ⟨y, hy⟩⟩⟩

end SearchCall

/-- The arguments of the call the phase makes for an aperture. -/
def phaseSearch (bridge : PciHostBridge) (node : PciResNode) (a : PciAperture) : ApertureSearch :=
  if a = .io then ioSearch bridge node
  else memorySearch node (if a.below4G then 31 else 63) (bridge.aperture a)

theorem exists_aperture_of_mem_searches (bridge : PciHostBridge) (node : PciResNode)
    (t : PciResourceType) (q : ApertureSearch) (h : q ∈ searches bridge node t) :
    ∃ a, q = phaseSearch bridge node a := by
  cases t with
  | io => exact ⟨.io, List.mem_singleton.mp h⟩
  | mem32 => exact ⟨.mem, List.mem_singleton.mp h⟩
  | pMem32 => exact ⟨.pMem, List.mem_singleton.mp h⟩
  | mem64 =>
      rcases List.mem_cons.mp h with rfl | h
      · exact ⟨.memAbove4G, rfl⟩
      · exact ⟨.mem, List.mem_singleton.mp h⟩
  | pMem64 =>
      rcases List.mem_cons.mp h with rfl | h
      · exact ⟨.pMemAbove4G, rfl⟩
      · exact ⟨.pMem, List.mem_singleton.mp h⟩
  | bus => exact absurd h List.not_mem_nil

theorem bits_phaseSearch_lt (bridge : PciHostBridge) (node : PciResNode) (a : PciAperture) :
    (phaseSearch bridge node a).bitsOfAlignment.toNat < 64 := by
  have hmin (m x : U64) (hm : m.toNat < 64) : (MIN m x).toNat < 64 := by
    rw [toNat_MIN]
    exact Nat.lt_of_le_of_lt (Nat.min_le_left _ _) hm
  rw [phaseSearch]
  split
  · exact hmin _ _ (by decide)
  · cases a <;> exact hmin _ _ (by decide)

/-- A call the phase makes for an aperture that is absent. -/
structure AbsentCall where
  bridge : PciHostBridge
  aperture : PciAperture
  absent : (bridge.aperture aperture).valid = false
  node : PciResNode
  free : GcdSpace → Span → Bool
  gcd : Gcd

namespace AbsentCall

variable (d : AbsentCall)

def space : GcdSpace := if d.aperture = .io then .io else .memory

def search : ApertureSearch := phaseSearch d.bridge d.node d.aperture

def YieldsNothing : Prop :=
  allocateResource d.free (d.space = .memory) d.node.length d.search.bitsOfAlignment
    d.search.baseAddress d.search.limit d.gcd = some (MAX_UINT64, d.gcd)

theorem yieldsNothing_iff :
    d.YieldsNothing ↔ d.search.Barren d.node.length d.free d.space d.gcd :=
  d.search.run_eq_max_iff d.node.length d.free d.space d.gcd
    (bits_phaseSearch_lt d.bridge d.node d.aperture)

theorem yieldsNothing_of_noEntry (hrange : d.bridge.aperture d.aperture = zeroRange)
    (n : Nat) (hn : n ≤ 64) (halignment : d.node.alignment = Align.lowMask 64 n) :
    d.YieldsNothing := by
  have hpow : 2 ^ n ∣ 2 ^ 64 := Nat.pow_dvd_pow 2 hn
  have hcarry : (d.node.alignment + 1) &&& d.node.alignment = 0 := by
    apply BitVec.eq_of_toNat_eq
    have hpos := Nat.two_pow_pos n
    have hle : 2 ^ n ≤ 2 ^ 64 := Nat.le_of_dvd (Nat.two_pow_pos 64) hpow
    have hone : (1 : U64).toNat = 1 := rfl
    rw [halignment, Align.toNat_and_lowMask _ n hn, BitVec.toNat_add, Align.lowMask,
      BitVec.toNat_ofNat, hone, Nat.mod_add_mod, Nat.sub_add_cancel hpos,
      Nat.mod_mod_of_dvd _ hpow, Nat.mod_self]
    rfl
  have haligned : ALIGN_VALUE 0 (d.node.alignment + 1) = 0 := by
    have hsub : d.node.alignment + 1 - 0 = d.node.alignment + 1 := BitVec.sub_zero _
    have hadd : d.node.alignment + 1 - 1 = d.node.alignment := BitVec.add_sub_cancel _ _
    rw [ALIGN_VALUE, hsub, hadd, hcarry]
    rfl
  have hsearch : d.search.baseAddress = 0 ∧ d.search.limit = MAX_UINT64 := by
    rw [search, phaseSearch]
    split
    · next hio =>
        rw [hio] at hrange
        have hioRange : d.bridge.ioRange = zeroRange := hrange
        rw [ioSearch, hioRange]
        exact ⟨haligned, rfl⟩
    · rw [hrange]
      exact ⟨congrArg (toHostAddress · 0) haligned, rfl⟩
  rw [yieldsNothing_iff]
  exact d.search.barren_of_whole d.node.length d.free d.space d.gcd
    (bits_phaseSearch_lt d.bridge d.node d.aperture) hsearch.1 hsearch.2

end AbsentCall

/-- The search is exact if and only if it gets to its placements while one is free, and
stops without a grant while none is; an absent aperture yields nothing if and only if
its search does the latter. -/
theorem allocateResource_exact_iff (c : SearchCall) (d : AbsentCall) :
    c.Exact ∧ d.YieldsNothing ↔
      c.Safe ∧ d.search.Barren d.node.length d.free d.space d.gcd := by
  rw [c.exact_iff_safe, d.yieldsNothing_iff]

/-- 4 KB wanted in the upper half of an empty address space. -/
def upperHalfCall : SearchCall where
  free := fun _ _ => true
  mmio := true
  length := 0x1000
  bitsOfAlignment := 12
  baseAddress := 0x8000000000000000
  limit := MAX_UINT64
  gcd := fun _ => HeldSpans.empty (2 ^ 64)
  length_pos := by decide
  bits_lt := by decide
  base_lt := by decide

def noApertureCall : AbsentCall where
  bridge := rootBridgeAlloc busesOnlyNode.dtIo 1
  aperture := .mem
  absent := rfl
  node := ⟨0, 0x1000, 0xFFF, .submitted⟩
  free := fun _ _ => true
  gcd := fun _ => HeldSpans.empty (2 ^ 64)

/-- The search gives up, although its first address is free. -/
theorem upperHalf_not_found : ¬ (upperHalfCall.Exact ∧ noApertureCall.YieldsNothing) := by
  rintro ⟨hexact, -⟩
  have hfirst : upperHalfCall.FreePlacement 0x8000000000000000 :=
    ⟨⟨by decide, by decide, by decide⟩, by decide, by decide⟩
  rcases (upperHalfCall.exact_iff_safe.mp hexact).1 ⟨_, hfirst⟩ with hlimit | htop
  · exact hlimit rfl
  · exact absurd htop (by decide)

end FdtBusPkg
