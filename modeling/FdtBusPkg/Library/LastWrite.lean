import Mathlib.Data.List.Induction
import Mathlib.Tactic.Common

/-!
A loop over a list whose steps overwrite one part of the state. What that part holds
in the end is what the last step that overwrites it has written.
-/
namespace LastWrite

variable {α β σ : Type*} (step : σ → α → σ) (P : σ → Prop)

theorem invariant_foldl (hP : ∀ s x, P s → P (step s x)) (l : List α) (s : σ) (h : P s) :
    P (l.foldl step s) := by
  induction l generalizing s with
  | nil => exact h
  | cons x l ih => exact ih (step s x) (hP s x h)

theorem read_foldl (read : σ → β) (hit : α → Bool) (write : α → β)
    (hP : ∀ s x, P s → P (step s x))
    (hstep : ∀ s x, P s → read (step s x) = if hit x then write x else read s)
    (l : List α) (s : σ) (h : P s) :
    read (l.foldl step s) = ((l.reverse.find? hit).map write).getD (read s) := by
  induction l using List.reverseRecOn with
  | nil => rfl
  | append_singleton l x ih =>
      rw [List.foldl_append, List.foldl_cons, List.foldl_nil,
        hstep _ _ (invariant_foldl step P hP l s h), List.reverse_append,
        List.reverse_singleton, List.singleton_append, List.find?_cons]
      cases hx : hit x with
      | true => rfl
      | false => exact ih

end LastWrite
