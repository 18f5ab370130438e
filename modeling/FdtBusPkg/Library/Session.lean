import Mathlib.Tactic.Common

/-!
Sessions: a list of calls against a state, each with an answer. A condition of a session
is met call by call, in the state each call is made in; what holds across one call that
meets it then holds across the session, for an invariant and for a second, simpler
system that gives the same answers.
-/
namespace Session

variable {ι σ τ ρ : Type*}

def run (step : ι → σ → ρ × σ) : List ι → σ → List ρ × σ
  | [], s => ([], s)
  | c :: calls, s =>
    let rest := run step calls (step c s).2
    ((step c s).1 :: rest.1, rest.2)

def Along (step : ι → σ → ρ × σ) (P : ι → σ → Prop) : List ι → σ → Prop
  | [], _ => True
  | c :: calls, s => P c s ∧ Along step P calls (step c s).2

variable {step : ι → σ → ρ × σ} {spec : ι → τ → ρ × τ} {P : ι → σ → Prop}

@[simp] theorem run_nil (s : σ) : run step [] s = ([], s) := rfl

@[simp] theorem along_nil (s : σ) : Along step P [] s := trivial

@[simp] theorem along_cons (c : ι) (calls : List ι) (s : σ) :
    Along step P (c :: calls) s ↔ P c s ∧ Along step P calls (step c s).2 := Iff.rfl

theorem along_of_forall (step : ι → σ → ρ × σ) (P : ι → σ → Prop) (calls : List ι) (s : σ)
    (h : ∀ c ∈ calls, ∀ s, P c s) : Along step P calls s := by
  induction calls generalizing s with
  | nil => trivial
  | cons c calls ih =>
      exact ⟨h c List.mem_cons_self s, ih _ fun d hd => h d (List.mem_cons_of_mem _ hd)⟩

/-- What holds before every call, given an invariant, where the invariant is kept by the calls
that meet the condition. -/
theorem along_of_invariant {Q : ι → σ → Prop} (I : σ → Prop)
    (hstep : ∀ c s, I s → P c s → Q c s ∧ I (step c s).2) (calls : List ι) (s : σ)
    (hcalls : Along step P calls s) (hI : I s) :
    Along step Q calls s ∧ I (run step calls s).2 := by
  induction calls generalizing s with
  | nil => exact ⟨trivial, hI⟩
  | cons c calls ih =>
      obtain ⟨hcall, hnext⟩ := hstep c s hI hcalls.1
      obtain ⟨hrest, hlast⟩ := ih _ hcalls.2 hnext
      exact ⟨⟨hcall, hrest⟩, hlast⟩

theorem refines (R : σ → τ → Prop)
    (hstep : ∀ c s t, R s t → P c s →
      (step c s).1 = (spec c t).1 ∧ R (step c s).2 (spec c t).2)
    (calls : List ι) (s : σ) (t : τ) (hcalls : Along step P calls s) (hR : R s t) :
    (run step calls s).1 = (run spec calls t).1 ∧
      R (run step calls s).2 (run spec calls t).2 := by
  induction calls generalizing s t with
  | nil => exact ⟨rfl, hR⟩
  | cons c calls ih =>
      obtain ⟨hanswer, hnext⟩ := hstep c s t hR hcalls.1
      obtain ⟨hanswers, hlast⟩ := ih _ _ hcalls.2 hnext
      refine ⟨?_, hlast⟩
      rw [run, run, hanswer, hanswers]

/-- A session of calls that need not return, nor answer in one way only. -/
inductive Trace (Step : ι → σ → ρ → σ → Prop) : σ → List ι → σ → Prop
  | nil (s : σ) : Trace Step s [] s
  | cons {s t u : σ} {c : ι} {calls : List ι} (answer : ρ) (first : Step c s answer t)
      (rest : Trace Step t calls u) : Trace Step s (c :: calls) u

namespace Trace

variable {Step : ι → σ → ρ → σ → Prop} {s t : σ} {calls : List ι}

theorem invariant (I : σ → Prop) (hstep : ∀ c s r t, I s → Step c s r t → I t)
    (h : Trace Step s calls t) (hs : I s) : I t := by
  induction h with
  | nil => exact hs
  | cons answer first _ ih => exact ih (hstep _ _ answer _ hs first)

theorem origin (P : σ → Prop) (Brings : ι → Prop)
    (hstep : ∀ c s r t, Step c s r t → P t → P s ∨ Brings c) (h : Trace Step s calls t)
    (ht : P t) : P s ∨ ∃ c ∈ calls, Brings c := by
  induction h with
  | nil => exact .inl ht
  | cons answer first _ ih =>
      cases ih ht with
      | inl hbefore =>
          exact (hstep _ _ answer _ first hbefore).imp_right fun hcall =>
            ⟨_, List.mem_cons_self, hcall⟩
      | inr hlater =>
          obtain ⟨c, hc, hcall⟩ := hlater
          exact .inr ⟨c, List.mem_cons_of_mem _ hc, hcall⟩

theorem view (f : σ → τ) (after : τ → ι → τ) (hstep : ∀ c s r t, Step c s r t → f t = after (f s) c)
    (h : Trace Step s calls t) : f t = calls.foldl after (f s) := by
  induction h with
  | nil => rfl
  | cons answer first _ ih => rw [ih, List.foldl_cons, hstep _ _ answer _ first]

end Trace

end Session
