import Mathlib.Logic.Relation
import Mathlib.Data.Set.Card
import Mathlib.Tactic.Common

/-!
Unbounded loops. The body either continues with a new state or exits with a
result; running a loop with fuel yields a result only when the loop exits within
it. A loop with a decreasing measure exits, and one that comes back to a state of
its own never does.
-/
namespace Loop

variable {σ ρ : Type*}

inductive Step (σ ρ : Type*)
  | next (s : σ)
  | exit (r : ρ)

/-- A step seen through a view of the states and the results. -/
def Step.map {τ κ : Type*} (f : σ → τ) (g : ρ → κ) : Step σ ρ → Step τ κ
  | next s => next (f s)
  | exit r => exit (g r)

/-- Run the loop for at most `fuel` iterations. -/
def run (body : σ → Step σ ρ) : Nat → σ → Option ρ
  | 0, _ => none
  | fuel + 1, s =>
    match body s with
    | .exit r => some r
    | .next t => run body fuel t

/-- `t` is reached from `s` by iterations of the body. -/
def Reaches (body : σ → Step σ ρ) : σ → σ → Prop :=
  Relation.ReflTransGen (fun s t => body s = .next t)

theorem run_exit (body : σ → Step σ ρ) (fuel : Nat) (s : σ) (r : ρ)
    (h : body s = .exit r) : run body (fuel + 1) s = some r := by
  simp [run, h]

theorem run_next (body : σ → Step σ ρ) (fuel : Nat) (s t : σ)
    (h : body s = .next t) : run body (fuel + 1) s = run body fuel t := by
  simp [run, h]

theorem run_map {τ κ : Type*} (body : σ → Step σ ρ) (view : τ → Step τ κ) (f : σ → τ)
    (g : ρ → κ) (hbody : ∀ s, view (f s) = (body s).map f g) (fuel : Nat) (s : σ) :
    run view fuel (f s) = (run body fuel s).map g := by
  induction fuel generalizing s with
  | zero => rfl
  | succ fuel ih =>
      cases hs : body s with
      | exit r =>
          rw [run_exit body fuel s r hs, run_exit view fuel (f s) (g r) (by rw [hbody, hs]; rfl)]
          rfl
      | next t =>
          rw [run_next body fuel s t hs, run_next view fuel (f s) (f t) (by rw [hbody, hs]; rfl)]
          exact ih t

theorem run_mono (body : σ → Step σ ρ) (fuel extra : Nat) (s : σ) (r : ρ)
    (h : run body fuel s = some r) : run body (fuel + extra) s = some r := by
  induction fuel generalizing s with
  | zero => simp [run] at h
  | succ fuel ih =>
      rw [Nat.succ_add_eq_add_succ, Nat.add_succ]
      cases hs : body s with
      | exit q =>
          rw [run_exit body _ s q hs] at h ⊢
          exact h
      | next t =>
          rw [run_next body _ s t hs] at h ⊢
          exact ih t h

/-- A recursion that unfolds to the body is the loop, as long as a measure bounds its fuel. -/
theorem run_eq_of_unfold (body : σ → Step σ ρ) (f : Nat → σ → ρ) (measure : σ → Nat)
    (hexit : ∀ fuel s r, body s = .exit r → f (fuel + 1) s = r)
    (hnext : ∀ fuel s t, body s = .next t → f (fuel + 1) s = f fuel t ∧ measure t < measure s)
    (fuel fuel' : Nat) (s : σ) (h : measure s < fuel) (h' : measure s < fuel') :
    run body fuel s = some (f fuel' s) := by
  induction fuel generalizing fuel' s with
  | zero => exact absurd h (Nat.not_lt_zero _)
  | succ fuel ih =>
      obtain ⟨fuel', rfl⟩ := Nat.exists_eq_succ_of_ne_zero (Nat.ne_of_gt (Nat.zero_lt_of_lt h'))
      cases hs : body s with
      | exit r => rw [run_exit body fuel s r hs, hexit fuel' s r hs]
      | next t =>
          obtain ⟨hunfold, hless⟩ := hnext fuel' s t hs
          rw [run_next body fuel s t hs, hunfold]
          exact ih fuel' t (by omega) (by omega)

theorem exists_run_of_exit (body : σ → Step σ ρ) (s t : σ) (r : ρ)
    (hreach : Reaches body s t) (hexit : body t = .exit r) :
    ∃ fuel, run body fuel s = some r := by
  induction hreach using Relation.ReflTransGen.head_induction_on with
  | refl => exact ⟨1, run_exit body 0 t r hexit⟩
  | head hstep _ ih =>
      obtain ⟨fuel, hfuel⟩ := ih
      exact ⟨fuel + 1, by rw [run_next body fuel _ _ hstep, hfuel]⟩

theorem exists_exit_of_measure (body : σ → Step σ ρ) (inv : σ → Prop) (measure : σ → Nat)
    (hstep : ∀ s t, inv s → body s = .next t → inv t ∧ measure t < measure s)
    (s : σ) (h : inv s) : ∃ t r, Reaches body s t ∧ inv t ∧ body t = .exit r := by
  induction hm : measure s using Nat.strongRecOn generalizing s with
  | ind m ih =>
      cases hs : body s with
      | exit r => exact ⟨s, r, Relation.ReflTransGen.refl, h, hs⟩
      | next t =>
          obtain ⟨hinv, hless⟩ := hstep s t h hs
          obtain ⟨u, r, hreach, hu, hexit⟩ := ih (measure t) (hm ▸ hless) t hinv rfl
          exact ⟨u, r, Relation.ReflTransGen.head hs hreach, hu, hexit⟩

theorem exit_of_run (body : σ → Step σ ρ) (inv : σ → Prop)
    (hstep : ∀ s t, inv s → body s = .next t → inv t) (fuel : Nat) (s : σ) (r : ρ) (h : inv s)
    (hrun : run body fuel s = some r) : ∃ t, inv t ∧ body t = .exit r := by
  induction fuel generalizing s with
  | zero => exact nomatch hrun
  | succ fuel ih =>
      cases hs : body s with
      | exit q =>
          rw [run_exit body fuel s q hs] at hrun
          exact ⟨s, h, Option.some.inj hrun ▸ hs⟩
      | next t =>
          rw [run_next body fuel s t hs] at hrun
          exact ih t (hstep s t h hs) hrun

/-- A loop in which the invariant always allows one more iteration never exits. -/
theorem run_eq_none (body : σ → Step σ ρ) (inv : σ → Prop)
    (hstep : ∀ s, inv s → ∃ t, body s = .next t ∧ inv t) (fuel : Nat) (s : σ) (h : inv s) :
    run body fuel s = none := by
  induction fuel generalizing s with
  | zero => rfl
  | succ fuel ih =>
      obtain ⟨t, hnext, hinv⟩ := hstep s h
      rw [run_next body fuel s t hnext]
      exact ih t hinv

theorem run_eq_none_of_reaches (body : σ → Step σ ρ) (inv : σ → Prop)
    (hstep : ∀ s, inv s → ∃ t, body s = .next t ∧ inv t) (s t : σ) (hreach : Reaches body s t)
    (h : inv t) (fuel : Nat) : run body fuel s = none := by
  refine run_eq_none body (fun u => ∃ v, Reaches body u v ∧ inv v) ?_ fuel s ⟨t, hreach, h⟩
  rintro u ⟨v, hv, hinv⟩
  rcases Relation.ReflTransGen.cases_head hv with rfl | ⟨w, hnext, hw⟩
  · obtain ⟨w, hnext, hw⟩ := hstep u hinv
    exact ⟨w, hnext, w, Relation.ReflTransGen.refl, hw⟩
  · exact ⟨w, hnext, v, hw, hinv⟩

/-- A loop whose first states are listed runs on from the last of them. -/
theorem run_add (body : σ → Step σ ρ) (states : Nat → σ) (n fuel : Nat)
    (hnext : ∀ k < n, body (states k) = .next (states (k + 1))) :
    run body (n + fuel) (states 0) = run body fuel (states n) := by
  induction n generalizing fuel with
  | zero => rw [Nat.zero_add]
  | succ n ih =>
      rw [Nat.succ_add_eq_add_succ, ih (fuel + 1) fun k hk => hnext k (Nat.lt_succ_of_lt hk)]
      exact run_next body fuel _ _ (hnext n (Nat.lt_succ_self n))

/-- A loop that can only go through the listed states exits in one of them. -/
theorem exists_exit_of_run (body : σ → Step σ ρ) (states : Nat → σ)
    (honly : ∀ k t, body (states k) = .next t → t = states (k + 1)) (fuel : Nat) (r : ρ)
    (h : run body fuel (states 0) = some r) :
    ∃ n < fuel, (∀ k < n, body (states k) = .next (states (k + 1))) ∧
      body (states n) = .exit r := by
  by_contra hnone
  push Not at hnone
  have hall (n : Nat) (hn : n ≤ fuel) : ∀ k < n, body (states k) = .next (states (k + 1)) := by
    induction n with
    | zero => exact fun k hk => absurd hk (Nat.not_lt_zero k)
    | succ n ih =>
        have hbefore := ih (Nat.le_of_succ_le hn)
        intro k hk
        rcases Nat.lt_succ_iff_lt_or_eq.mp hk with hk | rfl
        · exact hbefore k hk
        · cases hbody : body (states k) with
          | next t => rw [honly k t hbody]
          | exit q =>
              have hrun := run_add body states k (fuel - k) hbefore
              have hfuel : k + (fuel - k) = fuel := by omega
              have hmore : fuel - k = fuel - k - 1 + 1 := by omega
              rw [hfuel, h, hmore, run_exit body _ _ q hbody] at hrun
              rw [← Option.some.inj hrun] at hbody
              exact absurd hbody (hnone k hn hbefore)
  have hrun := run_add body states fuel 0 (hall fuel (Nat.le_refl fuel))
  rw [Nat.add_zero, h] at hrun
  exact nomatch hrun

theorem ncard_reachable_lt (r : σ → σ → Prop) (s t : σ) (hstep : r s t)
    (hfinite : {u | Relation.ReflTransGen r s u}.Finite) (hacyclic : ¬ Relation.TransGen r s s) :
    {u | Relation.ReflTransGen r t u}.ncard < {u | Relation.ReflTransGen r s u}.ncard := by
  refine Set.ncard_lt_ncard ⟨?_, ?_⟩ hfinite
  · intro u hu
    exact Relation.ReflTransGen.head hstep hu
  · intro hsub
    exact hacyclic (Relation.TransGen.head' hstep (hsub Relation.ReflTransGen.refl))

/-- A loop whose steps are also steps of a relation that reaches finitely many
states, none of them twice, exits. -/
theorem exists_exit_of_acyclic {τ : Type*} (body : σ → Step σ ρ) (r : τ → τ → Prop) (f : σ → τ)
    (hbody : ∀ s t, body s = .next t → r (f s) (f t)) (s : σ)
    (hfinite : {u | Relation.ReflTransGen r (f s) u}.Finite)
    (hacyclic : ∀ u, Relation.ReflTransGen r (f s) u → ¬ Relation.TransGen r u u) :
    ∃ t q, Reaches body s t ∧ body t = .exit q := by
  obtain ⟨t, q, hreach, -, hexit⟩ := exists_exit_of_measure body
    (fun t => Relation.ReflTransGen r (f s) (f t))
    (fun t => {u | Relation.ReflTransGen r (f t) u}.ncard) (by
      intro t t' ht hnext
      have hstep := hbody t t' hnext
      refine ⟨ht.tail hstep, ncard_reachable_lt r (f t) (f t') hstep ?_ (hacyclic (f t) ht)⟩
      exact hfinite.subset (fun u hu => ht.trans hu)) s Relation.ReflTransGen.refl
  exact ⟨t, q, hreach, hexit⟩

/-- A loop that reaches a state from which it comes back to it never exits. -/
theorem run_eq_none_of_cycle (body : σ → Step σ ρ) (s t : σ) (hreach : Reaches body s t)
    (hcycle : Relation.TransGen (fun a b => body a = .next b) t t) (fuel : Nat) :
    run body fuel s = none := by
  refine run_eq_none body (fun u => Reaches body u t) ?_ fuel s hreach
  intro u hu
  rcases Relation.ReflTransGen.cases_head hu with rfl | ⟨v, hnext, hv⟩
  · obtain ⟨v, hnext, hv⟩ := Relation.TransGen.head'_iff.mp hcycle
    exact ⟨v, hnext, hv⟩
  · exact ⟨v, hnext, hv⟩

end Loop
