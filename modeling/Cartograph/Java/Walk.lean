/-!
# Walks over trees

The sizes of the members of a list together, and a walk that keeps what is left to visit on a stack,
with this as its measure.
-/

namespace Cartograph.Java

/-- The sizes of the members together. -/
def totalSize {α : Type} [SizeOf α] : List α → Nat
  | [] => 0
  | a :: as => sizeOf a + totalSize as

variable {α : Type} [SizeOf α]

/-- The size of two lists is that of the first and that of the second. -/
theorem totalSize_append (xs ys : List α) :
    totalSize (xs ++ ys) = totalSize xs + totalSize ys := by
  induction xs with
  | nil => simp [totalSize]
  | cons x xs ih => simp only [List.cons_append, totalSize, ih]; omega

/-- The members together are smaller than the list. -/
theorem totalSize_lt (xs : List α) : totalSize xs < sizeOf xs := by
  induction xs with
  | nil => simp [totalSize]
  | cons x xs ih => simp only [totalSize, List.cons.sizeOf_spec]; omega

/-- The values on the stack, each followed by its children, their children and so on. -/
def unstack (children : α → List α) (h : ∀ a, totalSize (children a) < sizeOf a) : List α → List α
  | [] => []
  | a :: stack => a :: unstack children h (children a ++ stack)
termination_by stack => totalSize stack
decreasing_by
  have := h a
  simp only [totalSize_append, totalSize]
  omega

end Cartograph.Java
