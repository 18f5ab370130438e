import FdtBusPkg.Library.Span
import Mathlib.Data.List.Pairwise

/-!
Partitions of an address line `[0, top)`: the regions held in it, none empty and
no two sharing an address. A region is taken only where nothing is held, and
given back whole.
-/

structure HeldSpans (top : Nat) where
  held : List Span
  bounded : ∀ s ∈ held, 0 < s.len ∧ s.limit ≤ top
  disjoint : held.Pairwise Span.Disjoint

namespace HeldSpans

variable {top : Nat}

def empty (top : Nat) : HeldSpans top := ⟨[], by simp, List.Pairwise.nil⟩

/-- The region is not empty, ends at or below `top`, and nothing is held in it. -/
def Free (p : HeldSpans top) (s : Span) : Prop :=
  (0 < s.len ∧ s.limit ≤ top) ∧ ∀ t ∈ p.held, Span.Disjoint s t

instance (p : HeldSpans top) (s : Span) : Decidable (p.Free s) :=
  inferInstanceAs (Decidable (_ ∧ _))

def allocate (p : HeldSpans top) (s : Span) : Option (HeldSpans top) :=
  if h : p.Free s then
    some ⟨s :: p.held, List.forall_mem_cons.mpr ⟨h.1, p.bounded⟩,
      List.pairwise_cons.mpr ⟨h.2, p.disjoint⟩⟩
  else
    none

def release (p : HeldSpans top) (s : Span) : Option (HeldSpans top) :=
  if s ∈ p.held then
    some ⟨p.held.erase s, fun t ht => p.bounded t (List.mem_of_mem_erase ht),
      p.disjoint.sublist List.erase_sublist⟩
  else
    none

theorem free_of_allocate (p q : HeldSpans top) (s : Span) (h : p.allocate s = some q) :
    p.Free s := by
  by_contra hfree
  rw [allocate, dif_neg hfree] at h
  contradiction

theorem held_of_allocate (p q : HeldSpans top) (s : Span) (h : p.allocate s = some q) :
    q.held = s :: p.held := by
  have hfree := free_of_allocate p q s h
  rw [allocate, dif_pos hfree] at h
  rw [← Option.some.inj h]

theorem allocate_eq_none_iff (p : HeldSpans top) (s : Span) :
    p.allocate s = none ↔ ¬ p.Free s := by
  by_cases h : p.Free s <;> simp [allocate, h]

theorem free_anti (p q : HeldSpans top) (s : Span) (hheld : ∀ t ∈ p.held, t ∈ q.held)
    (h : q.Free s) : p.Free s :=
  ⟨h.1, fun t ht => h.2 t (hheld t ht)⟩

theorem not_disjoint_self (s : Span) (h : 0 < s.len) : ¬ Span.Disjoint s s := by
  intro hd
  rcases hd with hd | hd <;> rw [Span.limit] at hd <;> omega

theorem nodup_held (p : HeldSpans top) : p.held.Nodup := by
  apply p.disjoint.imp_of_mem
  intro s t hs _ hd heq
  rw [← heq] at hd
  exact not_disjoint_self s (p.bounded s hs).1 hd

theorem release_of_mem (p : HeldSpans top) (s : Span) (h : s ∈ p.held) :
    ∃ q, p.release s = some q ∧ ∀ t, t ∈ q.held ↔ t ∈ p.held ∧ t ≠ s := by
  refine ⟨_, if_pos h, fun t => ?_⟩
  rw [p.nodup_held.mem_erase_iff, and_comm]

end HeldSpans
