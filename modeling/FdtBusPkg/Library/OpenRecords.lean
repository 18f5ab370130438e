import Mathlib.Data.Multiset.Filter
import Mathlib.Logic.Function.Basic

/-!
Interfaces and the records of who has them open. Steps that are undone in reverse order
leave no trace: an interface that was installed is taken away again, and an interface that
was taken away is put back if it was not open. A close takes away every record that
matches, so opening again makes up for it only if there was that one record.
-/
namespace OpenRecords

/-- Interfaces at their keys, and the opens of each. What is not installed is not open. -/
@[ext]
structure Database (K I R : Type*) where
  interface : K → Option I
  opens : K → Multiset R
  closed (k : K) (h : interface k = none) : opens k = 0

namespace Database

variable {K I R : Type*} [DecidableEq K]

def empty : Database K I R := ⟨fun _ => none, fun _ => 0, fun _ _ => rfl⟩

def install (db : Database K I R) (k : K) (i : I) : Database K I R where
  interface := Function.update db.interface k (some i)
  opens := db.opens
  closed k' h := by
    refine db.closed k' ?_
    by_cases hk : k' = k
    · rw [hk, Function.update_self] at h
      exact nomatch h
    · rwa [Function.update_of_ne hk] at h

def uninstall (db : Database K I R) (k : K) : Database K I R where
  interface := Function.update db.interface k none
  opens := Function.update db.opens k 0
  closed k' h := by
    by_cases hk : k' = k
    · rw [hk, Function.update_self]
    · rw [Function.update_of_ne hk] at h ⊢
      exact db.closed k' h

/-- A record is added to an interface that is installed. -/
def addOpen (db : Database K I R) (k : K) (r : R) : Database K I R where
  interface := db.interface
  opens := Function.update db.opens k
    (if (db.interface k).isSome then r ::ₘ db.opens k else db.opens k)
  closed k' h := by
    by_cases hk : k' = k
    · rw [hk] at h
      rw [hk, Function.update_self, h, Option.isSome_none, if_neg Bool.false_ne_true]
      exact db.closed k h
    · rw [Function.update_of_ne hk]
      exact db.closed k' h

/-- Every record that matches is taken away. -/
def close (db : Database K I R) (k : K) (q : R → Prop) [DecidablePred q] : Database K I R where
  interface := db.interface
  opens := Function.update db.opens k ((db.opens k).filter (¬ q ·))
  closed k' h := by
    by_cases hk : k' = k
    · rw [hk, Function.update_self, db.closed k (hk ▸ h), Multiset.filter_zero]
    · rw [Function.update_of_ne hk]
      exact db.closed k' h

section Fields

variable (db : Database K I R) (k k' : K)

@[simp] theorem interface_install (i : I) :
    (db.install k i).interface k' = if k' = k then some i else db.interface k' :=
  Function.update_apply ..

@[simp] theorem opens_install (i : I) : (db.install k i).opens = db.opens := rfl

@[simp] theorem interface_uninstall :
    (db.uninstall k).interface k' = if k' = k then none else db.interface k' :=
  Function.update_apply ..

@[simp] theorem opens_uninstall :
    (db.uninstall k).opens k' = if k' = k then 0 else db.opens k' :=
  Function.update_apply ..

@[simp] theorem interface_addOpen (r : R) : (db.addOpen k r).interface = db.interface := rfl

theorem opens_addOpen (r : R) (h : (db.interface k).isSome) :
    (db.addOpen k r).opens k' = if k' = k then r ::ₘ db.opens k else db.opens k' :=
  (Function.update_apply ..).trans (by rw [if_pos h])

variable (q : R → Prop) [DecidablePred q]

@[simp] theorem interface_close : (db.close k q).interface = db.interface := rfl

@[simp] theorem opens_close :
    (db.close k q).opens k' = if k' = k then (db.opens k).filter (¬ q ·) else db.opens k' :=
  Function.update_apply ..

end Fields

variable {db : Database K I R} {k : K}

omit [DecidableEq K] in
theorem isSome_of_mem {r : R} (h : r ∈ db.opens k) : (db.interface k).isSome := by
  by_contra hnone
  rw [db.closed k (Option.not_isSome_iff_eq_none.mp hnone)] at h
  exact Multiset.notMem_zero r h

theorem addOpen_ne (r : R) (hsome : (db.interface k).isSome) : db.addOpen k r ≠ db := by
  intro h
  have hopens := congrFun (congrArg opens h) k
  rw [opens_addOpen _ _ _ _ hsome, if_pos rfl] at hopens
  exact Nat.succ_ne_self _ ((Multiset.card_cons r _).symm.trans (congrArg Multiset.card hopens))

theorem uninstall_install (i : I) (h : db.interface k = none) :
    (db.install k i).uninstall k = db := by
  ext k' : 2
  · rw [interface_uninstall, interface_install]
    split
    · next hk => rw [hk, h]
    · rfl
  · rw [opens_uninstall, opens_install]
    split
    · next hk => rw [hk, db.closed k h]
    · rfl

theorem eq_uninstall_of_install {db' : Database K I R} {i : I} (h : db'.install k i = db)
    (hnone : db'.interface k = none) : db' = db.uninstall k := by
  rw [← h, uninstall_install i hnone]

theorem install_uninstall_iff (db : Database K I R) (k : K) (i : I) :
    (db.uninstall k).install k i = db ↔ db.interface k = some i ∧ db.opens k = 0 := by
  constructor
  · intro h
    have hinterface := congrFun (congrArg interface h) k
    have hopens := congrFun (congrArg opens h) k
    rw [interface_install, if_pos rfl] at hinterface
    rw [opens_install, opens_uninstall, if_pos rfl] at hopens
    exact ⟨hinterface.symm, hopens.symm⟩
  · rintro ⟨hinterface, hopens⟩
    ext k' : 2
    · rw [interface_install, interface_uninstall]
      split
      · next hk => rw [hk, hinterface]
      · rfl
    · rw [opens_install, opens_uninstall]
      split
      · next hk => rw [hk, hopens]
      · rfl

section Records

variable {q : R → Prop} [DecidablePred q] {r : R}

theorem close_addOpen (hsome : (db.interface k).isSome) (hr : q r)
    (h : (db.opens k).filter q = 0) : (db.addOpen k r).close k q = db := by
  ext k' : 2
  · rfl
  · rw [opens_close, opens_addOpen _ _ _ _ hsome, opens_addOpen _ _ _ _ hsome, if_pos rfl]
    split
    · next hk =>
        rw [Multiset.filter_cons_of_neg (p := (¬ q ·)) _ (not_not_intro hr), hk]
        exact Multiset.filter_eq_self.mpr fun r' hr' hq =>
          Multiset.notMem_zero r' (h ▸ Multiset.mem_filter.mpr ⟨hr', hq⟩)
    · rfl

theorem close_addOpen_iff (hsome : (db.interface k).isSome) (hr : q r) :
    (db.addOpen k r).close k q = db ↔ (db.opens k).filter q = 0 := by
  refine ⟨fun h => ?_, close_addOpen hsome hr⟩
  rw [Multiset.filter_eq_nil]
  intro r' hr' hq
  rw [← h, opens_close, if_pos rfl] at hr'
  exact (Multiset.mem_filter.mp hr').2 hq

/-- Putting a record back in place of those taken away changes nothing if it is the only
one that was taken. -/
theorem cons_filter_not_iff (opens : Multiset R) :
    r ::ₘ opens.filter (¬ q ·) = opens ↔ opens.filter q = {r} := by
  rw [← Multiset.singleton_add]
  nth_rewrite 2 [← Multiset.filter_add_not q opens]
  rw [Multiset.add_left_inj, eq_comm]

theorem opens_addOpen_close (hsome : (db.interface k).isSome) (k' : K) :
    ((db.close k q).addOpen k r).opens k' =
      if k' = k then r ::ₘ (db.opens k).filter (¬ q ·) else db.opens k' := by
  rw [opens_addOpen (db.close k q) _ _ _ hsome, opens_close, opens_close, if_pos rfl]
  split <;> rfl

/-- Closing and opening leaves no trace if and only if that record was the only match. -/
theorem addOpen_close_iff (hsome : (db.interface k).isSome) :
    (db.close k q).addOpen k r = db ↔ (db.opens k).filter q = {r} := by
  rw [← cons_filter_not_iff]
  constructor
  · intro h
    have hopens := congrFun (congrArg opens h) k
    rwa [opens_addOpen_close hsome, if_pos rfl] at hopens
  · intro h
    ext k' : 2
    · rfl
    · rw [opens_addOpen_close hsome, h]
      split
      · next hk => rw [hk]
      · rfl

end Records

end Database

end OpenRecords
