import Mathlib.Data.List.Nodup
import Mathlib.Tactic.Common

/-!
Lists whose entries have distinct keys. Taking out the entry of a key takes out that
entry and no other, in the list and in the list of its keys.
-/
namespace KeyedList

variable {α β : Type*}

theorem eraseP_append_perm {p : α → Bool} {l : List α} {x : α} (h : l.find? p = some x) :
    (l.eraseP p ++ [x]).Perm l := by
  obtain ⟨hp, before, after, rfl, hbefore⟩ := List.find?_eq_some_iff_append.mp h
  rw [List.eraseP_append_right _ (by simpa using hbefore), List.eraseP_cons_of_pos hp,
    List.append_assoc]
  exact (List.perm_append_singleton x after).append_left before

variable [DecidableEq β] {key : α → β} {l : List α}

theorem map_eraseP_key (l : List α) (k : β) :
    (l.eraseP fun x => key x = k).map key = (l.map key).erase k := by
  induction l with
  | nil => rfl
  | cons x l ih =>
      by_cases hkey : key x = k
      · rw [List.eraseP_cons_of_pos (by simpa using hkey), List.map_cons, hkey,
          List.erase_cons_head]
      · rw [List.eraseP_cons_of_neg (by simpa using hkey), List.map_cons, List.map_cons, ih,
          List.erase_cons_tail (by simpa using hkey)]

theorem mem_eraseP_key (h : (l.map key).Nodup) (k : β) (x : α) :
    x ∈ l.eraseP (fun y => key y = k) ↔ x ∈ l ∧ key x ≠ k := by
  induction l with
  | nil => simp
  | cons y l ih =>
      rw [List.map_cons, List.nodup_cons] at h
      by_cases hkey : key y = k
      · rw [List.eraseP_cons_of_pos (by simpa using hkey), List.mem_cons]
        constructor
        · intro hx
          exact ⟨.inr hx, fun heq => h.1 (hkey ▸ heq ▸ List.mem_map_of_mem hx)⟩
        · intro hx
          exact hx.1.resolve_left fun heq => hx.2 (heq ▸ hkey)
      · rw [List.eraseP_cons_of_neg (by simpa using hkey), List.mem_cons, List.mem_cons, ih h.2]
        constructor
        · intro hx
          cases hx with
          | inl heq => exact ⟨.inl heq, heq ▸ hkey⟩
          | inr hx => exact ⟨.inr hx.1, hx.2⟩
        · intro hx
          exact hx.1.imp_right fun hmem => ⟨hmem, hx.2⟩

variable [DecidableEq α]

theorem eraseP_key (h : (l.map key).Nodup) {x : α} (hx : x ∈ l) :
    l.eraseP (fun y => decide (key y = key x)) = l.erase x := by
  induction l with
  | nil => exact nomatch hx
  | cons y l ih =>
      rw [List.map_cons, List.nodup_cons] at h
      by_cases hkey : key y = key x
      · have hsame : y = x := by
          cases hx with
          | head => rfl
          | tail _ hmem => exact absurd (hkey ▸ List.mem_map_of_mem hmem) h.1
        subst hsame
        rw [List.eraseP_cons_of_pos (by simp), List.erase_cons_head]
      · have hne : y ≠ x := fun heq => hkey (congrArg key heq)
        have hmem : x ∈ l := (List.mem_cons.mp hx).resolve_left (Ne.symm hne)
        rw [List.eraseP_cons_of_neg (by simpa using hkey), ih h.2 hmem,
          List.erase_cons_tail (by simpa using hne)]

theorem map_erase (h : (l.map key).Nodup) {x : α} (hx : x ∈ l) :
    (l.erase x).map key = (l.map key).erase (key x) := by
  rw [← eraseP_key h hx, map_eraseP_key]

theorem map_filter_erase (p : α → Bool) (h : (l.map key).Nodup) {x : α} (hx : x ∈ l) :
    ((l.erase x).filter p).map key =
      if p x then ((l.filter p).map key).erase (key x) else (l.filter p).map key := by
  have hnodup : l.Nodup := List.Nodup.of_map key h
  have hselected : ((l.filter p).map key).Nodup := h.sublist (List.filter_sublist.map key)
  have hcomm : (l.erase x).filter p = (l.filter p).erase x := by
    rw [hnodup.erase_eq_filter, (hnodup.filter p).erase_eq_filter, List.filter_filter,
      List.filter_filter]
    simp only [Bool.and_comm]
  rw [hcomm]
  split
  · next hp => exact map_erase hselected (List.mem_filter.mpr ⟨hx, hp⟩)
  · next hp =>
      rw [List.erase_of_not_mem]
      exact fun hmem => hp (List.mem_filter.mp hmem).2

end KeyedList
