import FdtBusPkg.Library.Loop

/-!
Loops whose body may itself not return. Such a loop has a result only when every iteration
returns and the last one exits, so what its invariant says of an exit holds of the result.
-/
namespace PartialLoop

variable {σ ρ : Type*} (body : σ → Option (Loop.Step σ ρ))

/-- Run the loop for at most `fuel` iterations. -/
def run : Nat → σ → Option ρ
  | 0, _ => none
  | fuel + 1, s =>
    match body s with
    | none => none
    | some (.exit r) => some r
    | some (.next t) => run fuel t

/-- `t` is reached from `s` by iterations of the body. -/
def Reaches : σ → σ → Prop :=
  Relation.ReflTransGen (fun s t => body s = some (.next t))

variable {body}

theorem run_spec (inv : σ → Prop) (post : ρ → Prop)
    (hnext : ∀ s t, inv s → body s = some (.next t) → inv t)
    (hexit : ∀ s r, inv s → body s = some (.exit r) → post r) {fuel : Nat} {s : σ} {r : ρ}
    (h : inv s) (hrun : run body fuel s = some r) : post r := by
  induction fuel generalizing s with
  | zero => exact nomatch hrun
  | succ fuel ih =>
      rw [run] at hrun
      cases hs : body s with
      | none =>
          rw [hs] at hrun
          exact nomatch hrun
      | some step =>
          rw [hs] at hrun
          cases step with
          | exit q => exact Option.some.inj hrun ▸ hexit s q h hs
          | next t => exact ih (hnext s t h hs) hrun

theorem run_spec_of_reaches {s : σ} (inv : σ → Prop) (post : ρ → Prop)
    (hnext : ∀ t u, Reaches body s t → inv t → body t = some (.next u) → inv u)
    (hexit : ∀ t r, Reaches body s t → inv t → body t = some (.exit r) → post r) {fuel : Nat}
    {r : ρ} (h : inv s) (hrun : run body fuel s = some r) : post r :=
  run_spec (fun t => Reaches body s t ∧ inv t) post
    (fun t u ht hu => ⟨ht.1.tail hu, hnext t u ht.1 ht.2 hu⟩)
    (fun t q ht hq => hexit t q ht.1 ht.2 hq) ⟨.refl, h⟩ hrun

theorem run_spec_of_cases (inv : σ → Prop) (post : ρ → Prop)
    (hbody : ∀ s step, inv s → body s = some step →
      (∃ t, step = .next t ∧ inv t) ∨ ∃ r, step = .exit r ∧ post r)
    {fuel : Nat} {s : σ} {r : ρ} (h : inv s) (hrun : run body fuel s = some r) : post r := by
  refine run_spec inv post (fun s t hs ht => ?_) (fun s q hs hq => ?_) h hrun
  · rcases hbody s _ hs ht with ⟨u, hu, hinv⟩ | ⟨q, hq, -⟩
    · cases hu
      exact hinv
    · cases hq
  · rcases hbody s _ hs hq with ⟨u, hu, -⟩ | ⟨p, hp, hpost⟩
    · cases hu
    · cases hp
      exact hpost

end PartialLoop
