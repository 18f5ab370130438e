import FdtBusPkg.Library.Logged
import FdtBusPkg.Library.Loop

/-!
Loops whose iterations keep a log. The log does not change the run, and what all runs log is
what the states that are reached log, so a loop that may not end is confined as one that ends.
-/
namespace LoggedLoop

variable {ε σ ρ : Type} (body : σ → Logged ε (Loop.Step σ ρ))

def plain (s : σ) : Loop.Step σ ρ := (body s).value

/-- Run the loop for at most `fuel` iterations. -/
def run : Nat → σ → Logged ε (Option ρ)
  | 0, _ => pure none
  | fuel + 1, s => do
    match ← body s with
    | .exit r => pure (some r)
    | .next t => run fuel t

theorem value_run (fuel : Nat) (s : σ) :
    (run body fuel s).value = Loop.run (plain body) fuel s := by
  induction fuel generalizing s with
  | zero => rfl
  | succ fuel ih =>
      rw [run, Logged.value_bind]
      cases hs : (body s).value with
      | exit r => exact (Loop.run_exit (plain body) fuel s r hs).symm
      | next t => exact (ih t).trans (Loop.run_next (plain body) fuel s t hs).symm

variable {body} {P : ε → Prop}

theorem all_run_next {fuel : Nat} {s t : σ} (hnext : plain body s = .next t) :
    (run body (fuel + 1) s).All P ↔ (body s).All P ∧ (run body fuel t).All P := by
  have hvalue : (body s).value = .next t := hnext
  rw [run, Logged.all_bind, hvalue]

/-- A loop whose body keeps an invariant and then logs only what is allowed. -/
theorem all_run_of_inv (inv : σ → Prop) (hlog : ∀ s, inv s → (body s).All P)
    (hstep : ∀ s t, inv s → plain body s = .next t → inv t) (fuel : Nat) (s : σ) (h : inv s) :
    (run body fuel s).All P := by
  induction fuel generalizing s with
  | zero => exact Logged.all_pure P none
  | succ fuel ih =>
      rw [run, Logged.all_bind]
      refine ⟨hlog s h, ?_⟩
      cases hs : (body s).value with
      | exit r => exact Logged.all_pure P (some r)
      | next t => exact ih t (hstep s t h hs)

theorem all_run_iff (s : σ) :
    (∀ fuel, (run body fuel s).All P) ↔
      ∀ t, Loop.Reaches (plain body) s t → (body t).All P := by
  constructor
  · intro h t hreach
    induction hreach using Relation.ReflTransGen.head_induction_on with
    | refl =>
        have hone := h 1
        rw [run, Logged.all_bind] at hone
        exact hone.1
    | head hnext _ ih => exact ih fun fuel => ((all_run_next hnext).mp (h (fuel + 1))).2
  · intro h fuel
    refine all_run_of_inv (Loop.Reaches (plain body) s) h (fun t u hreach hnext => ?_) fuel s
      Relation.ReflTransGen.refl
    exact hreach.tail hnext

end LoggedLoop
