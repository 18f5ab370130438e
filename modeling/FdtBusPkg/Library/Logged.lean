import Mathlib.Control.Monad.Writer
import Mathlib.Tactic.Common

/-!
Computations that keep a log of what they do. The value of a composed computation does
not depend on the log, and its log is that of the parts, one after the other.
-/

abbrev Logged (ε : Type) (α : Type) := Writer (List ε) α

namespace Logged

variable {ε α β : Type}

def value (x : Logged ε α) : α := x.run.1

def log (x : Logged ε α) : List ε := x.run.2

/-- A value obtained by an action that is logged. -/
def record (a : α) (e : ε) : Logged ε α := WriterT.mk (a, [e])

def All (P : ε → Prop) (x : Logged ε α) : Prop := ∀ e ∈ x.log, P e

@[simp] theorem value_pure (a : α) : (pure a : Logged ε α).value = a := rfl

@[simp] theorem value_record (a : α) (e : ε) : (record a e).value = a := rfl

@[simp] theorem value_bind (x : Logged ε α) (f : α → Logged ε β) :
    (x >>= f).value = (f x.value).value := rfl

variable (P : ε → Prop)

@[simp] theorem all_pure (a : α) : All P (pure a : Logged ε α) :=
  fun _ he => absurd he List.not_mem_nil

@[simp] theorem all_record (a : α) (e : ε) : All P (record a e) ↔ P e :=
  List.forall_mem_singleton

@[simp] theorem all_bind (x : Logged ε α) (f : α → Logged ε β) :
    All P (x >>= f) ↔ All P x ∧ All P (f x.value) :=
  List.forall_mem_append

variable {P}

theorem All.imp {Q : ε → Prop} (h : ∀ e, P e → Q e) {x : Logged ε α} (hx : All P x) : All Q x :=
  fun e he => h e (hx e he)

end Logged
