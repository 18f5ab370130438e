import Mathlib.Tactic.Common
import Mathlib.Algebra.Group.Nat.Defs

/-!
Half-open spans `[base, base + len)` of an unbounded address line, and the
sums of fixed-width machine arithmetic that stand for them. All bounds are in
unbounded arithmetic, so a statement about spans never inherits a wrap.
-/

/-- The addresses `base, …, base + len - 1`. -/
structure Span where
  base : Nat
  len : Nat
  deriving DecidableEq, Repr

namespace Span

def limit (s : Span) : Nat := s.base + s.len

def Mem (a : Nat) (s : Span) : Prop := s.base ≤ a ∧ a < s.limit

/-- `s` lies between the two ends of `t`. -/
def Within (s t : Span) : Prop := t.base ≤ s.base ∧ s.limit ≤ t.limit

def Disjoint (s t : Span) : Prop := s.limit ≤ t.base ∨ t.limit ≤ s.base

instance (a : Nat) (s : Span) : Decidable (Mem a s) :=
  inferInstanceAs (Decidable (_ ∧ _))

instance (s t : Span) : Decidable (Within s t) :=
  inferInstanceAs (Decidable (_ ∧ _))

instance (s t : Span) : Decidable (Disjoint s t) :=
  inferInstanceAs (Decidable (_ ∨ _))

@[simp] theorem limit_mk (b l : Nat) : (Span.mk b l).limit = b + l := rfl

theorem within_refl (s : Span) : Within s s := ⟨Nat.le_refl _, Nat.le_refl _⟩

theorem disjoint_symm {s t : Span} (h : Disjoint s t) : Disjoint t s := h.symm

theorem mem_of_within {s t : Span} {a : Nat} (h : Within s t) (ha : Mem a s) :
    Mem a t :=
  ⟨Nat.le_trans h.1 ha.1, Nat.lt_of_lt_of_le ha.2 h.2⟩

/-- A span with an address lies in another one when all its addresses do. -/
theorem within_of_mem {s t : Span} {a : Nat} (ha : Mem a s) (h : ∀ x, Mem x s → Mem x t) :
    Within s t := by
  obtain ⟨hbase, hlimit⟩ := ha
  have hfirst : Mem s.base s := ⟨Nat.le_refl _, Nat.lt_of_le_of_lt hbase hlimit⟩
  have hlast : Mem (s.limit - 1) s := ⟨by omega, by omega⟩
  have hend := (h _ hlast).2
  exact ⟨(h _ hfirst).1, by omega⟩

end Span
