import Mathlib.Order.Bounds.Basic
import Mathlib.Tactic.Common

/-!
Lists of strings, each closed by a terminator. What comes after the last terminator
is no string.
-/
namespace Terminated

variable {α : Type*} [DecidableEq α] (nul : α)

def strings (l : List α) : List (List α) := (l.splitOn nul).dropLast

theorem strings_of_not_mem (l : List α) (hl : nul ∉ l) : strings nul l = [] := by
  rw [strings, List.splitOn_eq_singleton hl, List.dropLast_singleton]

theorem strings_append_cons (s rest : List α) (hs : nul ∉ s) :
    strings nul (s ++ nul :: rest) = s :: strings nul rest := by
  rw [strings, List.splitOn_append_cons_self, List.splitOn_eq_singleton hs,
    List.singleton_append, List.dropLast_cons_of_ne_nil (List.splitOn_ne_nil nul rest), strings]

example : strings 0 [1, 0, 0, 2, 0, 3] = [[1], [], [2]] := by decide

theorem idxOf?_eq_some_iff_isLeast {β : Type*} [BEq β] [LawfulBEq β] (l : List β) (a : β)
    (i : Nat) :
    l.idxOf? a = some i ↔ IsLeast {j | l[j]? = some a} i := by
  rw [List.idxOf?_eq_some_iff]
  constructor
  · rintro ⟨hi, heq, hbefore⟩
    refine ⟨List.getElem?_eq_some_iff.mpr ⟨hi, heq⟩, fun j hj => ?_⟩
    by_contra hlt
    obtain ⟨hjlength, hja⟩ := List.getElem?_eq_some_iff.mp hj
    exact hbefore j (Nat.lt_of_not_le hlt) hja
  · rintro ⟨hi, hleast⟩
    obtain ⟨hilength, hia⟩ := List.getElem?_eq_some_iff.mp hi
    refine ⟨hilength, hia, fun j hj hja => ?_⟩
    exact absurd (hleast (List.getElem?_eq_some_iff.mpr ⟨_, hja⟩)) (Nat.not_le.mpr hj)

end Terminated
