import FdtBusPkg.Library.Span
import Mathlib.Data.List.Pairwise

/-!
Sorted lists of disjoint spans with values. A region inside one span is given another
value by cutting that span in up to three pieces.
-/

structure SpanList (κ : Type*) where
  entries : List (Span × κ)
  nonempty : ∀ e ∈ entries, 0 < e.1.len
  sorted : entries.Pairwise fun e f => e.1.limit ≤ f.1.base

namespace SpanList

variable {κ : Type*} (m : SpanList κ)

def At (x : Nat) (v : κ) : Prop := ∃ e ∈ m.entries, Span.Mem x e.1 ∧ e.2 = v

theorem eq_of_mem (e f : Span × κ) (he : e ∈ m.entries) (hf : f ∈ m.entries) (x : Nat)
    (hxe : Span.Mem x e.1) (hxf : Span.Mem x f.1) : e = f := by
  have hsymm : Std.Symm fun e f : Span × κ => Span.Disjoint e.1 f.1 :=
    ⟨fun _ _ h => Span.disjoint_symm h⟩
  have hdisjoint : m.entries.Pairwise fun e f => Span.Disjoint e.1 f.1 :=
    m.sorted.imp fun h => Or.inl h
  by_contra hne
  obtain ⟨hbase, hlimit⟩ := hxe
  obtain ⟨hbase', hlimit'⟩ := hxf
  rcases hdisjoint.forall he hf hne with h | h <;> omega

/-! Giving a region another value. -/

variable (region : Span) (v : κ)

def cut (e : Span × κ) : List (Span × κ) :=
  if Span.Within region e.1 then
    [(⟨e.1.base, region.base - e.1.base⟩, e.2), (region, v),
      (⟨region.limit, e.1.limit - region.limit⟩, e.2)].filter fun p => 0 < p.1.len
  else
    [e]

theorem mem_cut_of_within (e p : Span × κ) (h : Span.Within region e.1) :
    p ∈ cut region v e ↔
      (p = (⟨e.1.base, region.base - e.1.base⟩, e.2) ∨ p = (region, v) ∨
        p = (⟨region.limit, e.1.limit - region.limit⟩, e.2)) ∧ 0 < p.1.len := by
  rw [cut, if_pos h, List.mem_filter, decide_eq_true_eq]
  simp only [List.mem_cons, List.not_mem_nil, or_false]

theorem within_of_mem_cut (e p : Span × κ) (hp : p ∈ cut region v e) :
    e.1.base ≤ p.1.base ∧ p.1.limit ≤ e.1.limit := by
  by_cases h : Span.Within region e.1
  · obtain ⟨hbase, hlimit⟩ := h
    rw [mem_cut_of_within region v e p ⟨hbase, hlimit⟩] at hp
    rw [Span.limit] at *
    rcases hp with ⟨rfl | rfl | rfl, hpos⟩ <;> simp only [Span.limit] at * <;> omega
  · rw [cut, if_neg h, List.mem_singleton] at hp
    rw [hp]
    exact ⟨Nat.le_refl _, Nat.le_refl _⟩

theorem sorted_cut (e : Span × κ) :
    (cut region v e).Pairwise fun e f => e.1.limit ≤ f.1.base := by
  rw [cut]
  split
  · next h =>
      obtain ⟨hbase, hlimit⟩ := h
      refine List.Pairwise.sublist List.filter_sublist ?_
      simp only [Span.limit] at hlimit
      simp [Span.limit]
      omega
  · exact List.pairwise_singleton _ e

/-- The map with the value `v` for the region. -/
def assign : SpanList κ where
  entries := m.entries.flatMap (cut region v)
  nonempty := fun p hp => by
    obtain ⟨e, he, hp⟩ := List.mem_flatMap.mp hp
    by_cases h : Span.Within region e.1
    · exact ((mem_cut_of_within region v e p h).mp hp).2
    · rw [cut, if_neg h, List.mem_singleton] at hp
      rw [hp]
      exact m.nonempty e he
  sorted := by
    refine List.pairwise_flatMap.mpr ⟨fun e _ => sorted_cut region v e, m.sorted.imp ?_⟩
    intro e f hef p hp q hq
    exact Nat.le_trans (Nat.le_trans (within_of_mem_cut region v e p hp).2 hef)
      (within_of_mem_cut region v f q hq).1

theorem mem_assign (e : Span × κ) (he : e ∈ m.entries) (h : ¬ Span.Within region e.1) :
    e ∈ (m.assign region v).entries := by
  refine List.mem_flatMap.mpr ⟨e, he, ?_⟩
  rw [cut, if_neg h]
  exact List.mem_singleton_self e

/-- The values of the pieces: the new one in the region, the old one beside it. -/
theorem at_cut (e : Span × κ) (x : Nat) (w : κ) :
    (∃ p ∈ cut region v e, Span.Mem x p.1 ∧ p.2 = w) ↔
      Span.Mem x e.1 ∧ (if Span.Within region e.1 ∧ Span.Mem x region then w = v else e.2 = w) := by
  by_cases h : Span.Within region e.1
  · have hcut := fun p => mem_cut_of_within region v e p h
    have hregion : region.base ≤ region.limit := Nat.le_add_right _ _
    have hbase := h.1
    have hlimit := h.2
    constructor
    · rintro ⟨p, hp, ⟨hxbase, hxlimit⟩, rfl⟩
      obtain ⟨rfl | rfl | rfl, -⟩ := (hcut p).mp hp
      · rw [Span.limit_mk] at hxlimit
        dsimp only at hxbase
        have hout : ¬ Span.Mem x region := fun hx => absurd hx.1 (by omega)
        rw [if_neg fun hboth => hout hboth.2]
        exact ⟨⟨hxbase, by omega⟩, rfl⟩
      · rw [if_pos ⟨h, hxbase, hxlimit⟩]
        exact ⟨Span.mem_of_within h ⟨hxbase, hxlimit⟩, rfl⟩
      · rw [Span.limit_mk] at hxlimit
        dsimp only at hxbase
        have hout : ¬ Span.Mem x region := fun hx => absurd hx.2 (by omega)
        rw [if_neg fun hboth => hout hboth.2]
        exact ⟨⟨by omega, by omega⟩, rfl⟩
    · rintro ⟨⟨hxbase, hxlimit⟩, hw⟩
      split at hw
      · next hin =>
          obtain ⟨hbefore, hafter⟩ := hin.2
          have hpos : 0 < region.len := by
            rw [Span.limit] at hafter
            omega
          exact ⟨(region, v), (hcut _).mpr ⟨Or.inr (Or.inl rfl), hpos⟩, hin.2, hw.symm⟩
      · next hout =>
          by_cases hbefore : x < region.base
          · refine ⟨(⟨e.1.base, region.base - e.1.base⟩, e.2), (hcut _).mpr ⟨Or.inl rfl, ?_⟩,
              ⟨hxbase, ?_⟩, hw⟩
            · exact Nat.sub_pos_of_lt (Nat.lt_of_le_of_lt hxbase hbefore)
            · rw [Span.limit_mk]
              omega
          · have hafter : region.limit ≤ x := by
              by_contra hlt
              exact hout ⟨h, Nat.not_lt.mp hbefore, Nat.not_le.mp hlt⟩
            refine ⟨(⟨region.limit, e.1.limit - region.limit⟩, e.2),
              (hcut _).mpr ⟨Or.inr (Or.inr rfl), ?_⟩, ⟨hafter, ?_⟩, hw⟩
            · exact Nat.sub_pos_of_lt (Nat.lt_of_le_of_lt hafter hxlimit)
            · rw [Span.limit_mk]
              omega
  · rw [cut, if_neg h, if_neg fun hboth => h hboth.1]
    simp only [List.mem_singleton, exists_eq_left]

theorem at_assign (e : Span × κ) (he : e ∈ m.entries) (h : Span.Within region e.1) (x : Nat)
    (w : κ) :
    (m.assign region v).At x w ↔ if Span.Mem x region then w = v else m.At x w := by
  have hpieces : (m.assign region v).At x w ↔
      ∃ f ∈ m.entries, ∃ p ∈ cut region v f, Span.Mem x p.1 ∧ p.2 = w := by
    simp only [At, assign, List.mem_flatMap]
    constructor
    · rintro ⟨p, ⟨f, hf, hp⟩, hx⟩
      exact ⟨f, hf, p, hp, hx⟩
    · rintro ⟨f, hf, p, hp, hx⟩
      exact ⟨p, ⟨f, hf, hp⟩, hx⟩
  rw [hpieces]
  simp only [at_cut]
  by_cases hregion : Span.Mem x region
  · rw [if_pos hregion]
    have hxe : Span.Mem x e.1 := Span.mem_of_within h hregion
    constructor
    · rintro ⟨f, hf, hxf, hw⟩
      rw [m.eq_of_mem f e hf he x hxf hxe, if_pos ⟨h, hregion⟩] at hw
      exact hw
    · intro hw
      exact ⟨e, he, hxe, by rw [if_pos ⟨h, hregion⟩]; exact hw⟩
  · simp only [hregion, and_false, if_false]
    rfl

end SpanList
