import FdtBusPkg.Library.HeldSpans
import Mathlib.Logic.Function.Basic

/-!
Leases. Owners take regions of several address lines on top of what is held there
already, each owner one region at most, and give them back. Once all leases are back
the lines hold what they held at first.
-/

variable {κ σ : Type*} {top : Nat}

/-- The lines hold what `base` holds and the leased regions, and no region twice. -/
structure Leased (base lines : σ → HeldSpans top) (lease : κ → Option (σ × Span)) : Prop where
  held : ∀ line span, span ∈ (lines line).held ↔
    span ∈ (base line).held ∨ ∃ k, lease k = some (line, span)
  fresh : ∀ k line span, lease k = some (line, span) → span ∉ (base line).held
  single : ∀ k k' region, lease k = some region → lease k' = some region → k = k'

namespace Leased

theorem refl (base : σ → HeldSpans top) : Leased base base (fun _ : κ => none) where
  held := fun line span => by simp
  fresh := fun k line span h => by contradiction
  single := fun k k' region h => by contradiction

variable {base lines : σ → HeldSpans top} {lease : κ → Option (σ × Span)}

theorem taken_iff (h : Leased base lines lease) (line : σ) (span : Span) :
    span ∈ (lines line).held ∧ span ∉ (base line).held ↔ ∃ k, lease k = some (line, span) := by
  constructor
  · rintro ⟨hheld, hnew⟩
    exact ((h.held line span).mp hheld).resolve_left hnew
  · rintro ⟨k, hk⟩
    exact ⟨(h.held line span).mpr (Or.inr ⟨k, hk⟩), h.fresh k line span hk⟩

theorem held_iff_of_none (h : Leased base lines lease) (hnone : ∀ k, lease k = none) (line : σ)
    (span : Span) : span ∈ (lines line).held ↔ span ∈ (base line).held := by
  rw [h.held line span]
  simp [hnone]

variable [DecidableEq κ]

theorem update_eq_some_iff (k k' : κ) (new : Option (σ × Span)) (region : σ × Span) :
    Function.update lease k new k' = some region ↔
      (k' = k ∧ new = some region) ∨ (k' ≠ k ∧ lease k' = some region) := by
  by_cases hk : k' = k
  · rw [hk, Function.update_self]
    simp
  · rw [Function.update_of_ne hk]
    simp [hk]

variable [DecidableEq σ]

theorem mem_update_held (lines : σ → HeldSpans top) (line line' : σ) (span : Span)
    (q : HeldSpans top) :
    span ∈ (Function.update lines line q line').held ↔
      (line' = line ∧ span ∈ q.held) ∨ (line' ≠ line ∧ span ∈ (lines line').held) := by
  by_cases hline : line' = line
  · rw [hline, Function.update_self]
    simp
  · rw [Function.update_of_ne hline]
    simp [hline]

theorem take (h : Leased base lines lease) (k : κ) (line : σ) (span : Span) (q : HeldSpans top)
    (hk : lease k = none) (hq : (lines line).allocate span = some q) :
    Leased base (Function.update lines line q) (Function.update lease k (some (line, span))) := by
  have hfree := HeldSpans.free_of_allocate (lines line) q span hq
  have hnew : span ∉ (lines line).held := fun hmem =>
    HeldSpans.not_disjoint_self span hfree.1.1 (hfree.2 span hmem)
  have hdiffers (k' : κ) : lease k' ≠ some (line, span) := fun hk' =>
    hnew ((h.held line span).mpr (Or.inr ⟨k', hk'⟩))
  have hne (k' : κ) (region : σ × Span) (hk' : lease k' = some region) : k' ≠ k := by
    rintro rfl
    rw [hk] at hk'
    contradiction
  constructor
  · intro line' span'
    simp only [mem_update_held, HeldSpans.held_of_allocate (lines line) q span hq, List.mem_cons,
      update_eq_some_iff, Option.some.injEq, Prod.mk.injEq]
    constructor
    · rintro (⟨rfl, rfl | hheld⟩ | ⟨-, hheld⟩)
      · exact Or.inr ⟨k, Or.inl ⟨rfl, rfl, rfl⟩⟩
      · exact ((h.held line' span').mp hheld).imp_right fun ⟨k', hk'⟩ =>
          ⟨k', Or.inr ⟨hne k' _ hk', hk'⟩⟩
      · exact ((h.held line' span').mp hheld).imp_right fun ⟨k', hk'⟩ =>
          ⟨k', Or.inr ⟨hne k' _ hk', hk'⟩⟩
    · have hkept (hheld : span' ∈ (lines line').held) :
          (line' = line ∧ (span' = span ∨ span' ∈ (lines line).held)) ∨
            (line' ≠ line ∧ span' ∈ (lines line').held) := by
        by_cases hline : line' = line
        · rw [hline] at hheld
          exact Or.inl ⟨hline, Or.inr hheld⟩
        · exact Or.inr ⟨hline, hheld⟩
      rintro (hbase | ⟨k', ⟨-, rfl, rfl⟩ | ⟨-, hk'⟩⟩)
      · exact hkept ((h.held line' span').mpr (Or.inl hbase))
      · exact Or.inl ⟨rfl, Or.inl rfl⟩
      · exact hkept ((h.held line' span').mpr (Or.inr ⟨k', hk'⟩))
  · intro k' line' span' hk'
    rcases (update_eq_some_iff k k' _ _).mp hk' with ⟨-, hsome⟩ | ⟨-, hk'⟩
    · obtain ⟨rfl, rfl⟩ := Prod.mk.inj (Option.some.inj hsome)
      exact fun hbase => hnew ((h.held line span).mpr (Or.inl hbase))
    · exact h.fresh k' line' span' hk'
  · intro a b region ha hb
    rcases (update_eq_some_iff k a _ _).mp ha with ⟨hak, hsome⟩ | ⟨-, ha⟩ <;>
      rcases (update_eq_some_iff k b _ _).mp hb with ⟨hbk, hsome'⟩ | ⟨-, hb⟩
    · rw [hak, hbk]
    · exact absurd (hb.trans hsome.symm) (hdiffers b)
    · exact absurd (ha.trans hsome'.symm) (hdiffers a)
    · exact h.single a b region ha hb

theorem giveBack (h : Leased base lines lease) (k : κ) (line : σ) (span : Span)
    (hk : lease k = some (line, span)) :
    ∃ q, (lines line).release span = some q ∧
      Leased base (Function.update lines line q) (Function.update lease k none) := by
  have hmem : span ∈ (lines line).held := (h.held line span).mpr (Or.inr ⟨k, hk⟩)
  obtain ⟨q, hq, hheld⟩ := (lines line).release_of_mem span hmem
  have hother (k' : κ) (region : σ × Span) :
      Function.update lease k none k' = some region ↔ k' ≠ k ∧ lease k' = some region := by
    rw [update_eq_some_iff]
    simp
  refine ⟨q, hq, ⟨fun line' span' => ?_, fun k' line' span' hk' => ?_, fun a b region ha hb => ?_⟩⟩
  · have hheld' : span' ∈ (Function.update lines line q line').held ↔
        span' ∈ (lines line').held ∧ ¬ (line' = line ∧ span' = span) := by
      rw [mem_update_held, hheld]
      by_cases hline : line' = line
      · rw [hline]
        simp
      · simp [hline]
    rw [hheld', h.held line' span']
    simp only [hother]
    constructor
    · rintro ⟨hbase | ⟨k', hk'⟩, hgone⟩
      · exact Or.inl hbase
      · refine Or.inr ⟨k', fun heq => ?_, hk'⟩
        rw [heq, hk] at hk'
        obtain ⟨rfl, rfl⟩ := Prod.mk.inj (Option.some.inj hk')
        exact hgone ⟨rfl, rfl⟩
    · rintro (hbase | ⟨k', hne, hk'⟩)
      · refine ⟨Or.inl hbase, ?_⟩
        rintro ⟨rfl, rfl⟩
        exact h.fresh k line' span' hk hbase
      · refine ⟨Or.inr ⟨k', hk'⟩, ?_⟩
        rintro ⟨rfl, rfl⟩
        exact hne (h.single k' k _ hk' hk)
  · exact h.fresh k' line' span' ((hother k' _).mp hk').2
  · exact h.single a b region ((hother a region).mp ha).2 ((hother b region).mp hb).2

end Leased
