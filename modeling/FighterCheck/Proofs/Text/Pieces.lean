/-!
# Lists put together from pieces

Where each element of a list is replaced by a piece, in two ways, and the results are the same, the pieces
are the same too if they have the same lengths. They have if those of the one way are nowhere longer, and
so it is with everything else that adds up (`measure_eq_of_flatMap_eq`), such as how often something occurs.
-/

namespace FighterCheck.Text

variable {α β : Type} {f g : α → List β} {xs : List α}

section Measure

variable {m : List β → Nat} (hm : ∀ as bs, m (as ++ bs) = m as + m bs)
include hm

theorem measure_flatMap_le (hle : ∀ x ∈ xs, m (f x) ≤ m (g x)) :
    m (xs.flatMap f) ≤ m (xs.flatMap g) := by
  induction xs with
  | nil => exact Nat.le_refl _
  | cons x xs ih =>
    obtain ⟨hx, hxs⟩ := List.forall_mem_cons.mp hle
    rw [List.flatMap_cons, List.flatMap_cons, hm, hm]
    exact Nat.add_le_add hx (ih hxs)

/-- **Pieces that are nowhere more and come to the same are the same everywhere**, in any measure. -/
theorem measure_eq_of_flatMap_eq (hle : ∀ x ∈ xs, m (f x) ≤ m (g x))
    (h : xs.flatMap f = xs.flatMap g) : ∀ x ∈ xs, m (f x) = m (g x) := by
  have hsum : m (xs.flatMap f) = m (xs.flatMap g) := congrArg m h
  clear h
  induction xs with
  | nil => exact fun x hx => absurd hx List.not_mem_nil
  | cons x xs ih =>
    obtain ⟨hx, hxs⟩ := List.forall_mem_cons.mp hle
    rw [List.flatMap_cons, List.flatMap_cons, hm, hm] at hsum
    have hrest := measure_flatMap_le hm hxs
    exact List.forall_mem_cons.mpr ⟨by omega, ih hxs (by omega)⟩

end Measure

/-- **Pieces of the same lengths are the same if they come to the same.** -/
theorem eq_of_flatMap_eq (hlength : ∀ x ∈ xs, (f x).length = (g x).length)
    (h : xs.flatMap f = xs.flatMap g) : ∀ x ∈ xs, f x = g x := by
  induction xs with
  | nil => exact fun x hx => absurd hx List.not_mem_nil
  | cons x xs ih =>
    obtain ⟨hx, hxs⟩ := List.forall_mem_cons.mp hlength
    rw [List.flatMap_cons, List.flatMap_cons] at h
    obtain ⟨hfirst, hrest⟩ := List.append_inj h hx
    exact List.forall_mem_cons.mpr ⟨hfirst, ih hxs hrest⟩

end FighterCheck.Text
