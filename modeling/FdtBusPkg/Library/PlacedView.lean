import FdtBusPkg.Library.PlacedCopy

/-!
A memory seen under other keys. Each key has a place of its own in the memory; runs of keys
are loaded and stored there as if the contents were kept by key, and what is at no key's place
stays as it was.
-/
namespace PlacedView

variable {ι κ β : Type*} (place : κ → ι) (keys : Set κ)

/-- The view has the contents at the places of the keys; the rest is that of `before`. -/
structure Shows (before memory : ι → β) (view : κ → β) : Prop where
  holds : ∀ key ∈ keys, view key = memory (place key)
  elsewhere : ∀ i, (∀ key ∈ keys, place key ≠ i) → memory i = before i

variable {place keys} {before memory : ι → β} {view : κ → β} {run : Nat → κ} {n : Nat}

theorem shows_comp (memory : ι → β) :
    Shows place keys memory memory (fun key => memory (place key)) :=
  ⟨fun _ _ => rfl, fun _ _ => rfl⟩

theorem Shows.load (h : Shows place keys before memory view) (hrun : ∀ k < n, run k ∈ keys)
    (buffer : Nat → β) :
    PlacedCopy.load (fun k => place (run k)) n memory buffer =
      PlacedCopy.load run n view buffer := by
  funext k
  simp only [PlacedCopy.load]
  split_ifs with hk
  · exact (h.holds (run k) (hrun k hk)).symm
  · rfl

variable [DecidableEq ι] [DecidableEq κ]

theorem Shows.update (hplace : Set.InjOn place keys) (h : Shows place keys before memory view)
    {key : κ} (hkey : key ∈ keys) (x : β) :
    Shows place keys before (Function.update memory (place key) x)
      (Function.update view key x) where
  holds other hother := by
    by_cases heq : other = key
    · simp [heq]
    · have hne : place other ≠ place key := fun hsame => heq (hplace hother hkey hsame)
      rw [Function.update_of_ne heq, Function.update_of_ne hne, h.holds other hother]
  elsewhere i hi := by
    rw [Function.update_of_ne (hi key hkey).symm]
    exact h.elsewhere i hi

theorem Shows.store (hplace : Set.InjOn place keys) (h : Shows place keys before memory view)
    (hrun : ∀ k < n, run k ∈ keys) (buffer : Nat → β) :
    Shows place keys before (PlacedCopy.store (fun k => place (run k)) buffer n memory)
      (PlacedCopy.store run buffer n view) := by
  induction n with
  | zero => exact h
  | succ n ih =>
      have hfirst := ih fun k hk => hrun k (Nat.lt_succ_of_lt hk)
      exact hfirst.update hplace (hrun n n.lt_succ_self) (buffer n)

end PlacedView
