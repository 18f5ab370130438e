import Mathlib.Data.List.Nodup
import Mathlib.Tactic.Common

/-!
Search for the entry whose key is the longest prefix of a path. The first of
several entries with equally long keys is taken. An entry whose key is the whole
path is always preferred, so the search decides membership of the path.
-/
namespace LongestPrefix

variable {α β : Type*} (key : β → List α) (path : List α)

def search [DecidableEq α] : List β → Option β
  | [] => none
  | b :: rest =>
    match search rest with
    | none => if key b <+: path then some b else none
    | some best =>
      if key b <+: path ∧ (key best).length ≤ (key b).length then some b else some best

/-- What the search returns: an entry whose key is a prefix, none longer. -/
structure IsBest (l : List β) (best : β) : Prop where
  mem : best ∈ l
  isPrefix : key best <+: path
  longest (b : β) (hb : b ∈ l) (hbegins : key b <+: path) :
    (key b).length ≤ (key best).length

theorem isBest_cons_of_shorter (b best : β) (l : List β) (h : IsBest key path l best)
    (hle : key b <+: path → (key b).length ≤ (key best).length) :
    IsBest key path (b :: l) best where
  mem := List.mem_cons_of_mem b h.mem
  isPrefix := h.isPrefix
  longest c hc hbegins := by
    cases hc with
    | head => exact hle hbegins
    | tail _ hc => exact h.longest c hc hbegins

theorem IsBest.unique {key : β → List α} {path : List α} {l l' : List β} {best best' : β}
    (h : IsBest key path l best) (h' : IsBest key path l' best') (hmem : ∀ b, b ∈ l ↔ b ∈ l')
    (hdistinct : (l.map key).Nodup) : best = best' := by
  have hbest' := (hmem best').mpr h'.mem
  have hle := h.longest best' hbest' h'.isPrefix
  have hge := h'.longest best ((hmem best).mp h.mem) h.isPrefix
  have hbegins := List.prefix_of_prefix_length_le h.isPrefix h'.isPrefix hge
  exact List.inj_on_of_nodup_map hdistinct h.mem hbest' (hbegins.eq_of_length_le hle)

variable [DecidableEq α]

theorem search_none (l : List β) :
    search key path l = none ↔ ∀ b ∈ l, ¬ key b <+: path := by
  induction l with
  | nil => simp [search]
  | cons b l ih =>
      cases hrest : search key path l with
      | none =>
          simp only [search, hrest, List.mem_cons, forall_eq_or_imp]
          split
          · next hb => exact iff_of_false nofun (fun hall => hall.1 hb)
          · next hb => exact iff_of_true rfl ⟨hb, ih.mp hrest⟩
      | some best =>
          have hfound : ¬ ∀ c ∈ l, ¬ key c <+: path := by
            intro hall
            rw [ih.mpr hall] at hrest
            exact nomatch hrest
          simp only [search, hrest, List.mem_cons, forall_eq_or_imp]
          refine iff_of_false ?_ (fun hall => hfound hall.2)
          split <;> exact nofun

theorem search_some (l : List β) (best : β) (h : search key path l = some best) :
    IsBest key path l best := by
  induction l generalizing best with
  | nil => exact nomatch h
  | cons b l ih =>
      cases hrest : search key path l with
      | none =>
          simp only [search, hrest, Option.ite_none_right_eq_some, Option.some.injEq] at h
          obtain ⟨hbegins, rfl⟩ := h
          refine ⟨List.mem_cons_self, hbegins, fun c hc hcprefix => ?_⟩
          cases hc with
          | head => exact Nat.le_refl _
          | tail _ hc => exact absurd hcprefix ((search_none key path l).mp hrest c hc)
      | some other =>
          have hother := ih other hrest
          simp only [search, hrest] at h
          split at h
          · next hb =>
              cases h
              refine ⟨List.mem_cons_self, hb.1, fun c hc hcprefix => ?_⟩
              cases hc with
              | head => exact Nat.le_refl _
              | tail _ hc => exact Nat.le_trans (hother.longest c hc hcprefix) hb.2
          · next hb =>
              cases h
              refine isBest_cons_of_shorter key path b best l hother fun hbegins => ?_
              exact Nat.le_of_not_le fun hle => hb ⟨hbegins, hle⟩

theorem exists_best (l : List β) (b : β) (hb : b ∈ l) (hbegins : key b <+: path) :
    ∃ best, search key path l = some best ∧ IsBest key path l best := by
  cases hsearch : search key path l with
  | none => exact absurd hbegins ((search_none key path l).mp hsearch b hb)
  | some best => exact ⟨best, rfl, search_some key path l best hsearch⟩

theorem exact_found (l : List β) (b : β) (hb : b ∈ l) (hkey : key b = path) :
    ∃ best, search key path l = some best ∧ best ∈ l ∧ key best = path := by
  obtain ⟨best, hsearch, hbest⟩ := exists_best key path l b hb (hkey ▸ List.prefix_rfl)
  refine ⟨best, hsearch, hbest.mem, hbest.isPrefix.eq_of_length_le ?_⟩
  have hle := hbest.longest b hb (hkey ▸ List.prefix_rfl)
  rwa [hkey] at hle

end LongestPrefix
