import Mathlib.Dynamics.PeriodicPts.Defs
import Mathlib.Tactic.Common

/-!
Scans. A scan walks from a start along `next` while it is `inside`, tries every
place it comes to and stops at the first try that succeeds. Run with fuel it
gives no answer exactly when it is still going; over a walk that comes back to
its start that means it never ends.
-/
namespace Scan

variable {α β : Type*}

/-- The first place where `attempt` succeeds, with what it gave, or `some none` when
the walk leaves first. -/
def run (next : α → α) (inside : α → Bool) (attempt : α → Option β) :
    Nat → α → Option (Option (α × β))
  | 0, _ => none
  | fuel + 1, x =>
    if inside x then
      match attempt x with
      | some b => some (some (x, b))
      | none => run next inside attempt fuel (next x)
    else
      some none

section

variable (next : α → α) (inside : α → Bool)

/-- The walk from `start` comes to `x`. -/
def Visits (start x : α) : Prop :=
  ∃ k, x = next^[k] start ∧ ∀ j ≤ k, inside (next^[j] start) = true

/-- The walk from `start` leaves. -/
def Leaves (start : α) : Prop := ∃ k, inside (next^[k] start) = false

theorem visits_start (start : α) (h : inside start = true) : Visits next inside start start :=
  ⟨0, rfl, fun j hj => by rwa [Nat.le_zero.mp hj]⟩

theorem visits_of_next (start x : α) (h : inside start = true)
    (hx : Visits next inside (next start) x) : Visits next inside start x := by
  obtain ⟨k, rfl, hin⟩ := hx
  refine ⟨k + 1, rfl, fun j hj => ?_⟩
  cases j with
  | zero => exact h
  | succ j => exact hin j (by omega)

theorem visits_next (start x : α) (hx : Visits next inside start x) :
    inside start = true ∧ (x = start ∨ Visits next inside (next start) x) := by
  obtain ⟨k, rfl, hin⟩ := hx
  refine ⟨hin 0 (Nat.zero_le k), ?_⟩
  cases k with
  | zero => exact Or.inl rfl
  | succ k => exact Or.inr ⟨k, rfl, fun j hj => hin (j + 1) (by omega)⟩

variable (attempt : α → Option β)

theorem visits_of_run (fuel : Nat) (start x : α) (b : β)
    (h : run next inside attempt fuel start = some (some (x, b))) :
    Visits next inside start x ∧ attempt x = some b := by
  induction fuel generalizing start with
  | zero => simp [run] at h
  | succ fuel ih =>
      rw [run] at h
      by_cases hin : inside start = true
      · rw [if_pos hin] at h
        cases htry : attempt start with
        | some c =>
            rw [htry] at h
            obtain ⟨rfl, rfl⟩ := Prod.mk.inj (Option.some.inj (Option.some.inj h))
            exact ⟨visits_start next inside start hin, htry⟩
        | none =>
            rw [htry] at h
            obtain ⟨hx, hb⟩ := ih (next start) h
            exact ⟨visits_of_next next inside start x hin hx, hb⟩
      · rw [if_neg hin] at h
        simp at h

theorem first_of_run (fuel : Nat) (start x : α) (b : β)
    (h : run next inside attempt fuel start = some (some (x, b))) :
    ∃ k, x = next^[k] start ∧ ∀ j < k, attempt (next^[j] start) = none := by
  induction fuel generalizing start with
  | zero => simp [run] at h
  | succ fuel ih =>
      rw [run] at h
      by_cases hin : inside start = true
      · rw [if_pos hin] at h
        cases htry : attempt start with
        | some c =>
            rw [htry] at h
            obtain ⟨rfl, rfl⟩ := Prod.mk.inj (Option.some.inj (Option.some.inj h))
            exact ⟨0, rfl, fun j hj => absurd hj (Nat.not_lt_zero j)⟩
        | none =>
            rw [htry] at h
            obtain ⟨k, rfl, hfirst⟩ := ih (next start) h
            refine ⟨k + 1, rfl, fun j hj => ?_⟩
            cases j with
            | zero => exact htry
            | succ j => exact hfirst j (Nat.lt_of_succ_lt_succ hj)
      · rw [if_neg hin] at h
        simp at h

theorem leaves_of_run (fuel : Nat) (start : α)
    (h : run next inside attempt fuel start = some none) :
    Leaves next inside start ∧ ∀ x, Visits next inside start x → attempt x = none := by
  induction fuel generalizing start with
  | zero => simp [run] at h
  | succ fuel ih =>
      rw [run] at h
      by_cases hin : inside start = true
      · rw [if_pos hin] at h
        cases htry : attempt start with
        | some c => rw [htry] at h; simp at h
        | none =>
            rw [htry] at h
            obtain ⟨⟨k, hk⟩, hfail⟩ := ih (next start) h
            refine ⟨⟨k + 1, hk⟩, fun x hx => ?_⟩
            rcases (visits_next next inside start x hx).2 with rfl | hx
            · exact htry
            · exact hfail x hx
      · refine ⟨⟨0, by simpa using hin⟩, fun x hx => ?_⟩
        exact absurd (visits_next next inside start x hx).1 hin

theorem inside_of_run_none (fuel : Nat) (start : α)
    (h : run next inside attempt fuel start = none) (k : Nat) (hk : k < fuel) :
    inside (next^[k] start) = true ∧ attempt (next^[k] start) = none := by
  induction fuel generalizing start k with
  | zero => omega
  | succ fuel ih =>
      rw [run] at h
      by_cases hin : inside start = true
      · rw [if_pos hin] at h
        cases htry : attempt start with
        | some c => rw [htry] at h; simp at h
        | none =>
            rw [htry] at h
            cases k with
            | zero => exact ⟨hin, htry⟩
            | succ k => exact ih (next start) h k (by omega)
      · rw [if_neg hin] at h
        simp at h

theorem run_of_hit (fuel k : Nat) (start : α) (hk : k < fuel)
    (hin : ∀ j ≤ k, inside (next^[j] start) = true) (hhit : attempt (next^[k] start) ≠ none) :
    ∃ j b, j ≤ k ∧ attempt (next^[j] start) = some b ∧
      run next inside attempt fuel start = some (some (next^[j] start, b)) := by
  induction k generalizing start fuel with
  | zero =>
      obtain ⟨fuel, rfl⟩ := Nat.exists_eq_succ_of_ne_zero (Nat.ne_of_gt hk)
      obtain ⟨b, hb⟩ := Option.ne_none_iff_exists'.mp hhit
      refine ⟨0, b, Nat.le_refl 0, hb, ?_⟩
      have hstart : inside start = true := hin 0 (Nat.le_refl 0)
      rw [Function.iterate_zero_apply] at hb
      rw [run, if_pos hstart, hb]
      rfl
  | succ k ih =>
      obtain ⟨fuel, rfl⟩ := Nat.exists_eq_succ_of_ne_zero (Nat.ne_of_gt (Nat.zero_lt_of_lt hk))
      have hstart : inside start = true := hin 0 (Nat.zero_le _)
      rw [run, if_pos hstart]
      cases htry : attempt start with
      | some b => exact ⟨0, b, Nat.zero_le _, htry, rfl⟩
      | none =>
          obtain ⟨j, b, hj, hb, hrun⟩ := ih fuel (next start) (Nat.lt_of_succ_lt_succ hk)
            (fun j hj => hin (j + 1) (Nat.succ_le_succ hj)) hhit
          exact ⟨j + 1, b, Nat.succ_le_succ hj, hb, hrun⟩

theorem run_eq_of_only (fuel : Nat) (start x : α) (b : β) (hx : Visits next inside start x)
    (hb : attempt x = some b) (honly : ∀ y, y ≠ x → attempt y = none)
    (hends : run next inside attempt fuel start ≠ none) :
    run next inside attempt fuel start = some (some (x, b)) := by
  cases hrun : run next inside attempt fuel start with
  | none => exact absurd hrun hends
  | some found =>
      cases found with
      | none =>
          have hfail := (leaves_of_run next inside attempt fuel start hrun).2 x hx
          rw [hfail] at hb
          contradiction
      | some hit =>
          obtain ⟨y, c⟩ := hit
          have hy := (visits_of_run next inside attempt fuel start y c hrun).2
          have heq : y = x := by
            by_contra hne
            rw [honly y hne] at hy
            contradiction
          rw [heq] at hy ⊢
          rw [← Option.some.inj (hy.symm.trans hb)]

/-- Over a walk that is back at its start after `period` steps, a scan with that
much fuel that finds nothing to leave with never leaves. -/
theorem run_ne_none (period : Nat) (hperiod : 0 < period) (start : α)
    (hcycle : next^[period] start = start) (hleaves : Leaves next inside start) :
    run next inside attempt period start ≠ none := by
  intro h
  obtain ⟨k, hk⟩ := hleaves
  have hmod := Function.IsPeriodicPt.iterate_mod_apply (f := next) hcycle k
  have hin := (inside_of_run_none next inside attempt period start h (k % period)
    (Nat.mod_lt k hperiod)).1
  rw [hmod, hk] at hin
  contradiction

end

end Scan
