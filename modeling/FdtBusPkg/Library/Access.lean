import Mathlib.Logic.Function.Basic
import Mathlib.Tactic.Common

/-!
Sequences of cell accesses to a window of a memory. A run observes what it
reads; runs of one sequence on two windows with the same contents observe the
same and leave the same contents.
-/

/-- An access to the cell at an index of the window. -/
inductive Access (α : Type*)
  | read (i : Nat)
  | write (i : Nat) (v : α)

namespace Access

variable {α : Type*}

def index : Access α → Nat
  | .read i => i
  | .write i _ => i

def IsRead : Access α → Prop
  | .read _ => True
  | .write _ _ => False

/-- The memory after the accesses to the window at `base`, and what they read. -/
def run (base : Nat) : List (Access α) → (Nat → α) → (Nat → α) × List α
  | [], m => (m, [])
  | .read i :: rest, m => ((run base rest m).1, m (base + i) :: (run base rest m).2)
  | .write i v :: rest, m => run base rest (Function.update m (base + i) v)

def Written (accesses : List (Access α)) (i : Nat) : Prop :=
  ∃ a ∈ accesses, ¬ a.IsRead ∧ a.index = i

theorem run_untouched (base : Nat) (accesses : List (Access α)) (m : Nat → α) (x : Nat)
    (h : ∀ a ∈ accesses, base + a.index ≠ x) : (run base accesses m).1 x = m x := by
  induction accesses generalizing m with
  | nil => rfl
  | cons a rest ih =>
      have hrest : ∀ a ∈ rest, base + a.index ≠ x := fun a ha => h a (List.mem_cons_of_mem _ ha)
      cases a with
      | read i => exact ih m hrest
      | write i v =>
          have hne : base + i ≠ x := h (.write i v) List.mem_cons_self
          rw [run, ih _ hrest, Function.update_of_ne hne.symm]

theorem run_outside (base n : Nat) (accesses : List (Access α)) (m : Nat → α) (x : Nat)
    (hwithin : ∀ a ∈ accesses, a.index < n) (hx : x < base ∨ base + n ≤ x) :
    (run base accesses m).1 x = m x := by
  apply run_untouched
  intro a ha
  have hindex := hwithin a ha
  omega

theorem run_reads (base : Nat) (accesses : List (Access α)) (m : Nat → α)
    (h : ∀ a ∈ accesses, a.IsRead) : (run base accesses m).1 = m := by
  induction accesses with
  | nil => rfl
  | cons a rest ih =>
      have hrest : ∀ a ∈ rest, a.IsRead := fun a ha => h a (List.mem_cons_of_mem _ ha)
      cases a with
      | read i => exact ih hrest
      | write i v => exact (h _ List.mem_cons_self).elim

theorem observed_of_writes (base : Nat) (accesses : List (Access α)) (m : Nat → α)
    (h : ∀ a ∈ accesses, ¬ a.IsRead) : (run base accesses m).2 = [] := by
  induction accesses generalizing m with
  | nil => rfl
  | cons a rest ih =>
      have hrest : ∀ a ∈ rest, ¬ a.IsRead := fun a ha => h a (List.mem_cons_of_mem _ ha)
      cases a with
      | read i => exact absurd trivial (h _ List.mem_cons_self)
      | write i v => exact ih _ hrest

/-- Runs on two memories that agree where the accesses are observe the same and leave the
memories in agreement. -/
theorem run_agree (base base' : Nat) (accesses : List (Access α)) (m m' : Nat → α)
    (P : Nat → Prop) (hwithin : ∀ a ∈ accesses, P a.index)
    (hsame : ∀ i, P i → m (base + i) = m' (base' + i)) :
    (run base accesses m).2 = (run base' accesses m').2 ∧
      ∀ i, P i → (run base accesses m).1 (base + i) = (run base' accesses m').1 (base' + i) := by
  induction accesses generalizing m m' with
  | nil => exact ⟨rfl, hsame⟩
  | cons a rest ih =>
      have hrest : ∀ a ∈ rest, P a.index := fun a ha => hwithin a (List.mem_cons_of_mem _ ha)
      have hhead : P a.index := hwithin a List.mem_cons_self
      cases a with
      | read i =>
          obtain ⟨hobserved, hleft⟩ := ih m m' hrest hsame
          refine ⟨?_, hleft⟩
          simp only [run]
          rw [hsame i hhead, hobserved]
      | write i v =>
          simp only [run]
          apply ih _ _ hrest
          intro j hj
          by_cases hji : j = i
          · rw [hji, Function.update_self, Function.update_self]
          · rw [Function.update_of_ne (by omega), Function.update_of_ne (by omega)]
            exact hsame j hj

theorem observed_relocate (base base' n : Nat) (accesses : List (Access α)) (m m' : Nat → α)
    (hwithin : ∀ a ∈ accesses, a.index < n) (hsame : ∀ i < n, m (base + i) = m' (base' + i)) :
    (run base accesses m).2 = (run base' accesses m').2 :=
  (run_agree base base' accesses m m' (· < n) hwithin hsame).1

theorem run_not_written (base : Nat) (accesses : List (Access α)) (m : Nat → α) (i : Nat)
    (h : ¬ Written accesses i) : (run base accesses m).1 (base + i) = m (base + i) := by
  induction accesses generalizing m with
  | nil => rfl
  | cons a rest ih =>
      have hrest : ¬ Written rest i := by
        rintro ⟨b, hb, hwrites⟩
        exact h ⟨b, List.mem_cons_of_mem _ hb, hwrites⟩
      cases a with
      | read j => exact ih m hrest
      | write j v =>
          have hne : base + i ≠ base + j := by
            intro heq
            exact h ⟨.write j v, List.mem_cons_self, not_false, by rw [index]; omega⟩
          rw [run, ih _ hrest, Function.update_of_ne hne]

theorem run_written (base base' : Nat) (accesses : List (Access α)) (m m' : Nat → α) (i : Nat)
    (h : Written accesses i) :
    (run base accesses m).1 (base + i) = (run base' accesses m').1 (base' + i) := by
  induction accesses generalizing m m' with
  | nil => simp [Written] at h
  | cons a rest ih =>
      by_cases hrest : Written rest i
      · cases a <;> exact ih _ _ hrest
      · obtain ⟨b, hb, hwrites, rfl⟩ := h
        have hhead : b = a := by
          rcases List.mem_cons.mp hb with heq | hmem
          · exact heq
          · exact absurd ⟨b, hmem, hwrites, rfl⟩ hrest
        subst hhead
        cases b with
        | read j => exact absurd trivial hwrites
        | write j v =>
            simp only [run]
            rw [run_not_written _ _ _ _ hrest, run_not_written _ _ _ _ hrest]
            simp only [index, Function.update_self]

end Access
