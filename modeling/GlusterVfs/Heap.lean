import Mathlib

/-!
# Tables updated one entry at a time

The model keeps what is allocated as tables `Nat → Option α` indexed by
allocation: the aio requests and states (`AioWorld.reqs`,
`AioWorld.states`) and the fsp extensions (`FspWorld.ext`). A step changes
one entry with `Function.update`; these lemmas say what a lookup then finds.
-/

namespace GlusterVfs

open Function (update update_same update_noteq)

/-- A lookup after an update finds the new value at the updated index and the
old one elsewhere. -/
theorem update_eq_some {α : Type} {f : Nat → Option α} {a x : Nat} {v : Option α} {b : α} :
    update f a v x = some b ↔ x = a ∧ v = some b ∨ x ≠ a ∧ f x = some b := by
  rcases eq_or_ne x a with rfl | hx
  · simp
  · simp [hx]

/-- What is found after a free was there before, at another index. -/
theorem update_none_of_eq_some {α : Type} {f : Nat → Option α} {a x : Nat} {b : α}
    (h : update f a none x = some b) : x ≠ a ∧ f x = some b := by
  simpa using update_eq_some.mp h

/-- A free leaves each entry as it was or empties it. -/
theorem update_none_eq_or {α : Type} (f : Nat → Option α) (a x : Nat) :
    update f a none x = f x ∨ update f a none x = none := by
  rcases eq_or_ne x a with rfl | hx
  · exact .inr (update_same _ _ _)
  · exact .inl (update_noteq hx _ _)

/-- Changing one entry between two values other than `b` changes no entry's
being `b`. -/
theorem forall_update_ne_iff {α : Type} {f : Nat → α} {a : Nat} {v b : α} (hv : v ≠ b)
    (hold : f a ≠ b) : (∀ x, update f a v x ≠ b) ↔ ∀ x, f x ≠ b := by
  refine forall_congr' fun x => ?_
  rcases eq_or_ne x a with rfl | hx
  · simp [hv, hold]
  · rw [update_noteq hx]

end GlusterVfs
