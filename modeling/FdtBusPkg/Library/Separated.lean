import Mathlib.Data.List.Basic
import Mathlib.Tactic.Common

/-!
Lists of parts written with a separator between them. A separator at the end closes
the last part and does not begin another one.
-/
namespace Separated

variable {α : Type*} (sep : α)

def join (names : List (List α)) : List α := [sep].intercalate names

theorem join_cons_cons (name next : List α) (names : List (List α)) :
    join sep (name :: next :: names) = name ++ sep :: join sep (next :: names) := by
  rw [join, List.intercalate_cons_cons, List.append_assoc, List.singleton_append, ← join]

/-- A list is empty, a last part, or a part with the separator that closes it and more. -/
theorem induction {motive : List α → Prop} (nil : motive [])
    (last : ∀ name, name ≠ [] → sep ∉ name → motive name)
    (cons : ∀ name rest, sep ∉ name → motive rest → motive (name ++ sep :: rest))
    (l : List α) : motive l := by
  induction hlength : l.length using Nat.strongRecOn generalizing l with
  | ind n ih =>
      subst hlength
      by_cases hmem : sep ∈ l
      · obtain ⟨name, rest, rfl, hname⟩ := List.eq_append_cons_of_mem hmem
        refine cons name rest hname (ih rest.length ?_ rest rfl)
        rw [List.length_append, List.length_cons]
        omega
      · by_cases hnil : l = []
        · exact hnil ▸ nil
        · exact last l hnil hmem

variable [DecidableEq α]

def parts : List α → List (List α)
  | [] => []
  | a :: rest =>
    if a = sep then
      [] :: parts rest
    else
      match parts rest with
      | [] => [[a]]
      | name :: names => (a :: name) :: names

theorem parts_last (name : List α) (hne : name ≠ []) (hname : sep ∉ name) :
    parts sep name = [name] := by
  induction name with
  | nil => exact absurd rfl hne
  | cons a name ih =>
      have ha : a ≠ sep := fun heq => hname (heq ▸ List.mem_cons_self)
      rw [parts, if_neg ha]
      cases name with
      | nil => rfl
      | cons b name =>
          rw [ih (List.cons_ne_nil b name) (fun hmem => hname (List.mem_cons_of_mem a hmem))]

theorem parts_append (name rest : List α) (hname : sep ∉ name) :
    parts sep (name ++ sep :: rest) = name :: parts sep rest := by
  induction name with
  | nil => rw [List.nil_append, parts, if_pos rfl]
  | cons a name ih =>
      have ha : a ≠ sep := fun heq => hname (heq ▸ List.mem_cons_self)
      rw [List.cons_append, parts, if_neg ha,
        ih (fun hmem => hname (List.mem_cons_of_mem a hmem))]

theorem parts_join (names : List (List α)) (hne : ∀ name ∈ names, name ≠ [])
    (hsep : ∀ name ∈ names, sep ∉ name) : parts sep (join sep names) = names := by
  induction names with
  | nil => rfl
  | cons name names ih =>
      have hname := hsep name List.mem_cons_self
      cases names with
      | nil =>
          rw [join, List.intercalate_singleton]
          exact parts_last sep name (hne name List.mem_cons_self) hname
      | cons next names =>
          rw [join_cons_cons, parts_append sep name _ hname,
            ih (fun n hn => hne n (List.mem_cons_of_mem name hn))
              (fun n hn => hsep n (List.mem_cons_of_mem name hn))]

theorem join_parts (l : List α) : l = join sep (parts sep l) ∨
    (parts sep l ≠ [] ∧ l = join sep (parts sep l) ++ [sep]) := by
  induction l using induction sep with
  | nil => exact .inl rfl
  | last name hne hname =>
      rw [parts_last sep name hne hname]
      exact .inl List.intercalate_singleton.symm
  | cons name rest hname ih =>
      rw [parts_append sep name rest hname]
      cases hparts : parts sep rest with
      | nil =>
          rw [hparts] at ih
          have hrest : rest = [] := ih.resolve_right fun h => h.1 rfl
          rw [hrest, join, List.intercalate_singleton]
          exact .inr ⟨List.cons_ne_nil _ _, rfl⟩
      | cons next names =>
          rw [hparts] at ih
          rw [join_cons_cons]
          cases ih with
          | inl hjoin => exact .inl (congrArg (fun l => name ++ sep :: l) hjoin)
          | inr hjoin =>
              refine .inr ⟨List.cons_ne_nil _ _, ?_⟩
              rw [List.append_assoc, List.cons_append]
              exact congrArg (fun l => name ++ sep :: l) hjoin.2

theorem mem_of_mem_parts (l name : List α) (hname : name ∈ parts sep l) (a : α)
    (ha : a ∈ name) : a ∈ l := by
  induction l using induction sep with
  | nil => exact nomatch hname
  | last whole hne hwhole =>
      rw [parts_last sep whole hne hwhole] at hname
      exact List.mem_singleton.mp hname ▸ ha
  | cons first rest hfirst ih =>
      rw [parts_append sep first rest hfirst] at hname
      cases List.mem_cons.mp hname with
      | inl heq => exact List.mem_append_left _ (heq ▸ ha)
      | inr hrest => exact List.mem_append_right _ (List.mem_cons_of_mem _ (ih hrest))

end Separated
