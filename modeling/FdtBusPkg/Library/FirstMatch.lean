import Mathlib.Data.List.Basic
import Mathlib.Tactic.Common

/-!
First-match search over a list. Two predicates select the same entry exactly
when they agree on every entry the search looks at, so a search that tests the
wrong thing is compared with the intended one on a prefix only.
-/
namespace FirstMatch

variable {α : Type*}

/-- The entries a first-match search for `p` looks at: everything up to and
including the first hit. -/
def examined (p : α → Bool) : List α → List α
  | [] => []
  | x :: xs => if p x then [x] else x :: examined p xs

theorem examined_cons_hit (p : α → Bool) (x : α) (xs : List α) (h : p x = true) :
    examined p (x :: xs) = [x] := by
  simp [examined, h]

theorem examined_cons_miss (p : α → Bool) (x : α) (xs : List α) (h : p x = false) :
    examined p (x :: xs) = x :: examined p xs := by
  simp [examined, h]

theorem mem_of_mem_examined (p : α → Bool) (l : List α) (x : α)
    (h : x ∈ examined p l) : x ∈ l := by
  induction l with
  | nil => exact h
  | cons y ys ih =>
      cases hy : p y with
      | true =>
          rw [examined_cons_hit p y ys hy] at h
          exact List.mem_cons.mpr (Or.inl (List.mem_singleton.mp h))
      | false =>
          rw [examined_cons_miss p y ys hy] at h
          rcases List.mem_cons.mp h with rfl | h
          · exact List.mem_cons_self
          · exact List.mem_cons_of_mem y (ih h)

theorem eq_of_mem_examined (p : α → Bool) (l : List α) (x y : α)
    (h : l.find? p = some x) (hy : y ∈ examined p l) (hp : p y = true) : y = x := by
  induction l with
  | nil => simp at h
  | cons z zs ih =>
      cases hz : p z with
      | true =>
          rw [examined_cons_hit p z zs hz, List.mem_singleton] at hy
          have hzx : z = x := by simpa [List.find?_cons, hz] using h
          rw [hy, hzx]
      | false =>
          rw [examined_cons_miss p z zs hz] at hy
          rcases List.mem_cons.mp hy with rfl | hy
          · rw [hz] at hp
            exact absurd hp Bool.false_ne_true
          · exact ih (by simpa [List.find?_cons, hz] using h) hy

theorem find?_congr (p q : α → Bool) (l : List α)
    (h : ∀ x ∈ examined p l, p x = q x) : l.find? p = l.find? q := by
  induction l with
  | nil => rfl
  | cons y ys ih =>
      cases hy : p y with
      | true =>
          have hq : q y = true := by
            rw [← h y (by simp [examined_cons_hit p y ys hy]), hy]
          simp [hy, hq]
      | false =>
          rw [examined_cons_miss p y ys hy] at h
          have hq : q y = false := by
            rw [← h y List.mem_cons_self, hy]
          have htail := ih (fun x hx => h x (List.mem_cons_of_mem y hx))
          simpa [List.find?_cons, hy, hq] using htail

/-- Two first-match searches find the same entry exactly when the predicates
agree on the entries examined. -/
theorem find?_eq_iff (p q : α → Bool) (l : List α) :
    l.find? p = l.find? q ↔ ∀ x ∈ examined p l, p x = q x := by
  refine ⟨fun h => ?_, find?_congr p q l⟩
  induction l with
  | nil => intro x hx; simp [examined] at hx
  | cons y ys ih =>
      cases hy : p y with
      | true =>
          have hfound : (y :: ys).find? q = some y := by
            rw [← h]; simp [hy]
          intro x hx
          rw [examined_cons_hit p y ys hy, List.mem_singleton] at hx
          subst hx
          rw [hy, List.find?_some hfound]
      | false =>
          have hq : q y = false := by
            by_contra hne
            have hq : q y = true := by simpa using hne
            have hfound : (y :: ys).find? p = some y := by
              rw [h]; simp [hq]
            exact absurd (List.find?_some hfound) (by simp [hy])
          have htail : ys.find? p = ys.find? q := by
            simpa [List.find?_cons, hy, hq] using h
          intro x hx
          rw [examined_cons_miss p y ys hy] at hx
          rcases List.mem_cons.mp hx with rfl | hx
          · rw [hy, hq]
          · exact ih htail x hx

end FirstMatch
