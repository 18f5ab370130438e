import FdtBusPkg.Pci.SearchExact

/-!
What an aperture search answers: the first free address it comes to, counted from its
start around the address space, or nothing when its comparison stops it before.
-/
namespace FdtBusPkg

namespace ApertureSearch

variable (q : ApertureSearch) (length : U64) (free : GcdSpace → Span → Bool) (space : GcdSpace)
  (gcd gcd' : Gcd) (x y : U64)

def Obtains : Prop := ∃ x, q.Asks length x ∧ Grantable free space length x gcd

/-- `x` is the free address it comes to first. -/
structure Finds : Prop where
  asks : q.Asks length x
  grantable : Grantable free space length x gcd
  first : ∀ y, q.Asks length y → Grantable free space length y gcd →
    x - q.start ≤ y - q.start

theorem finds_unique (hx : q.Finds length free space gcd x) (hy : q.Finds length free space gcd y) :
    x = y := by
  have hsame : x - q.start = y - q.start :=
    BitVec.le_antisymm (hx.first y hy.asks hy.grantable) (hy.first x hx.asks hx.grantable)
  rw [← BitVec.sub_add_cancel x q.start, hsame, BitVec.sub_add_cancel]

theorem exists_iterate_of_lt (hbits : q.bitsOfAlignment.toNat < 64) (k m : Nat)
    (hlt : (· + q.step)^[m] q.start - q.start < (· + q.step)^[k] q.start - q.start) :
    ∃ j < k, (· + q.step)^[m] q.start = (· + q.step)^[j] q.start := by
  have hpos := q.step_pos hbits
  have hstart := q.start.isLt
  have hdistance (i : Nat) :
      ((· + q.step)^[i] q.start - q.start).toNat = i * q.step.toNat % 2 ^ 64 := by
    have hplace := toNat_iterate_add q.step q.start i
    rw [BitVec.toNat_sub, hplace]
    omega
  rw [BitVec.lt_def, hdistance, hdistance] at hlt
  have hdvd : q.step.toNat ∣ m * q.step.toNat % 2 ^ 64 :=
    (Nat.dvd_mod_iff (q.step_dvd hbits)).mpr (Nat.dvd_mul_left _ m)
  obtain ⟨j, hj⟩ := hdvd
  refine ⟨j, ?_, ?_⟩
  · have hmod : k * q.step.toNat % 2 ^ 64 ≤ k * q.step.toNat := Nat.mod_le _ _
    rw [hj, Nat.mul_comm] at hlt
    exact Nat.lt_of_mul_lt_mul_right (Nat.lt_of_lt_of_le hlt hmod)
  · apply BitVec.eq_of_toNat_eq
    rw [toNat_iterate_add, toNat_iterate_add, ← Nat.add_mod_mod, hj, Nat.mul_comm q.step.toNat]

/-- A search that returns has found the first free address or asked in vain. -/
theorem run_finds (hbits : q.bitsOfAlignment.toNat < 64)
    (h : q.run length free space gcd = some (x, gcd')) :
    (x = MAX_UINT64 ∧ gcd' = gcd ∧ ¬ q.Obtains length free space gcd) ∨
      (q.Finds length free space gcd x ∧ gcdAllocate free space length x gcd = some gcd') := by
  rcases q.run_cases length free space gcd gcd' x h with
    ⟨hmax, hsame, -, hrefused⟩ | ⟨hasks, hgranted⟩
  · refine Or.inl ⟨hmax, hsame, ?_⟩
    rintro ⟨y, hy, hgrantable⟩
    exact hrefused y hy hgrantable
  · have hgrantable := grantable_of_gcdAllocate free space length x gcd gcd' hgranted
    refine Or.inr ⟨⟨hasks, hgrantable, fun y hy hfree => ?_⟩, hgranted⟩
    rw [run_eq, if_pos hasks.1, Option.map_eq_some_iff] at h
    obtain ⟨found, hscan, hfound⟩ := h
    cases found with
    | none =>
        obtain ⟨-, rfl⟩ := Prod.mk.inj hfound
        exact absurd hgranted (gcdAllocate_ne_self length free space gcd x)
    | some hit =>
        obtain ⟨z, granted⟩ := hit
        obtain ⟨rfl, rfl⟩ := Prod.mk.inj hfound
        obtain ⟨k, hk, hfirst⟩ := Scan.first_of_run _ _ _ _ _ _ _ hscan
        obtain ⟨-, m, hm, -⟩ := hy
        by_contra hlt
        rw [BitVec.not_le] at hlt
        have hstart : ALIGN_VALUE q.baseAddress q.step = q.start := rfl
        rw [hstart] at hk hm hfirst
        rw [hk, hm] at hlt
        obtain ⟨j, hj, hjm⟩ := q.exists_iterate_of_lt hbits k m hlt
        have hnone := hfirst j hj
        rw [← hjm, ← hm] at hnone
        exact (gcdAllocate_eq_none_iff free space length y gcd).mp hnone hfree

/-- A search returns exactly when its comparison stops it or it obtains an address. -/
theorem run_eq_none_iff :
    q.run length free space gcd = none ↔
      ¬ (q.Ends length ∨ q.Obtains length free space gcd) := by
  constructor
  · rintro hnone (hends | ⟨x, ⟨hlt, k, rfl, hin⟩, hgrantable⟩)
    · exact q.run_ne_none length free space gcd hends hnone
    · have hturn := Function.IsPeriodicPt.iterate_mod_apply (f := (· + q.step))
        (iterate_add_cycle q.step (ALIGN_VALUE q.baseAddress q.step)) k
      have hhit : gcdAllocate free space length
          ((· + q.step)^[k % 2 ^ 64] (ALIGN_VALUE q.baseAddress q.step)) gcd ≠ none := by
        rw [hturn]
        exact fun h => (gcdAllocate_eq_none_iff free space length _ gcd).mp h hgrantable
      obtain ⟨j, b, -, -, hrun⟩ := Scan.run_of_hit (· + q.step) (searchInside length q.limit)
        (fun base => gcdAllocate free space length base gcd) (2 ^ 64) (k % 2 ^ 64)
        (ALIGN_VALUE q.baseAddress q.step) (Nat.mod_lt k (Nat.two_pow_pos 64))
        (fun j hj => hin j (hj.trans (Nat.mod_le k _))) hhit
      rw [run_eq, if_pos hlt, hrun] at hnone
      contradiction
  · intro hnot
    by_contra hsome
    obtain ⟨⟨x, gcd'⟩, hrun⟩ := Option.ne_none_iff_exists'.mp hsome
    rcases q.run_cases length free space gcd gcd' x hrun with ⟨-, -, hends, -⟩ | ⟨hasks, hgranted⟩
    · exact hnot (Or.inl hends)
    · exact hnot (Or.inr ⟨x, hasks, grantable_of_gcdAllocate free space length x gcd gcd' hgranted⟩)

end ApertureSearch

end FdtBusPkg
