import Cartograph.Java.Declaration
import Cartograph.Proofs.Loop
import Mathlib.Data.List.Basic

/-!
# Walks in preorder

A walk keeps what it still has to visit on a stack. In each round it takes the value on top, notes
it, and puts the children of the value on the stack, the last child first, so that the first child
is the next to be visited. Every walk ends, whatever the stack that it begins with, and has then
noted the preorders of the values on the stack: each value before its children, and the first child
with all below it before the second.

Declarations are walked for the declarations nested in them and types for the type arguments nested
in them. Both walks are thus the plain recursions over their trees.
-/

namespace Cartograph.Java

/-! ### Walks -/

/-- A walk on its way; the last value of the stack is its top. -/
structure Walk (α : Type) where
  stack : List α
  visited : List α

namespace Walk

variable {α : Type} {children : α → List α}

/-- A walk that begins with a stack. -/
def start (stack : List α) : Walk α := ⟨stack, []⟩

/-- One round of a walk; there is none when the stack is empty. -/
def round? (children : α → List α) (w : Walk α) : Option (Walk α) :=
  w.stack.getLast?.map fun a => ⟨w.stack.dropLast ++ (children a).reverse, w.visited ++ [a]⟩

/-- The walk ends, having visited the values. -/
def Ends (children : α → List α) : Walk α → List α → Prop :=
  Loop.Ends (round? children) visited

lemma round?_push (stack visited : List α) (a : α) :
    round? children ⟨stack ++ [a], visited⟩ =
      some ⟨stack ++ (children a).reverse, visited ++ [a]⟩ := by
  simp [round?]

/-- From any stack and with anything visited before, a walk ends. Each round takes one value off
the preorders of the values on the stack. -/
lemma ends_flatMap {preorder : α → List α}
    (h : ∀ a, preorder a = a :: (children a).flatMap preorder) (stack visited : List α) :
    (Walk.mk stack.reverse visited).Ends children (visited ++ stack.flatMap preorder) := by
  induction hlength : (stack.flatMap preorder).length generalizing stack visited with
  | zero =>
    cases stack with
    | nil =>
      rw [List.flatMap_nil, List.append_nil]
      exact Loop.Ends.done rfl
    | cons a stack => simp [h a] at hlength
  | succ n ih =>
    cases stack with
    | nil => simp at hlength
    | cons a stack =>
      have hround : (Walk.mk (a :: stack).reverse visited).round? children =
          some ⟨(children a ++ stack).reverse, visited ++ [a]⟩ := by
        rw [List.reverse_cons, round?_push, List.reverse_append]
      have hpreorder : (a :: stack).flatMap preorder =
          a :: (children a ++ stack).flatMap preorder := by
        rw [List.flatMap_cons, h a, List.flatMap_append, List.cons_append]
      rw [hpreorder, List.length_cons] at hlength
      rw [hpreorder, List.append_cons]
      exact Loop.Ends.step hround (ih _ _ (Nat.succ.inj hlength))

/-- A walk ends with the preorders of the values on its stack, and with nothing else. -/
lemma ends_iff {preorder : α → List α}
    (h : ∀ a, preorder a = a :: (children a).flatMap preorder) (stack : List α)
    {visited : List α} :
    (start stack.reverse).Ends children visited ↔ visited = stack.flatMap preorder := by
  have hends : (start stack.reverse).Ends children (stack.flatMap preorder) :=
    ends_flatMap h stack []
  exact Loop.Ends.iff_eq hends

end Walk

/-! ### The walk as a recursion -/

variable {α : Type} [SizeOf α] {children : α → List α}
variable {h : ∀ a, totalSize (children a) < sizeOf a}

/-- What lies deeper on the stack waits until all above it is visited. -/
lemma unstack_append (xs ys : List α) :
    unstack children h (xs ++ ys) = unstack children h xs ++ unstack children h ys := by
  fun_induction unstack children h xs with
  | case1 => rfl
  | case2 a xs ih => rw [List.cons_append, unstack, ← List.append_assoc, ih, List.cons_append]

lemma unstack_eq_flatMap (stack : List α) :
    unstack children h stack = stack.flatMap fun a => a :: unstack children h (children a) := by
  induction stack with
  | nil => rw [unstack, List.flatMap_nil]
  | cons a stack ih => rw [unstack, unstack_append, ih, List.flatMap_cons, List.cons_append]

/-- A walk ends with exactly what the recursion lists. -/
lemma ends_iff_eq_unstack (stack : List α) {visited : List α} :
    (Walk.start stack.reverse).Ends children visited ↔ visited = unstack children h stack := by
  rw [unstack_eq_flatMap]
  exact Walk.ends_iff (fun a => by rw [← unstack_eq_flatMap]) stack

/-- The declarations in a declaration are it and those in the declarations nested in it. -/
lemma Decl.selfAndNested_eq (d : Decl) :
    d.selfAndNested = d :: d.nested.flatMap selfAndNested := by
  have hself : selfAndNested = fun e => e :: unstack nested totalSize_nested e.nested := by
    funext e
    rw [selfAndNested, unstack, List.append_nil]
  rw [hself, ← unstack_eq_flatMap]

namespace WrittenType

lemma nestedArguments_eq_flatMap (t : WrittenType) :
    t.nestedArguments = t.typeArguments.flatMap fun a => a :: a.nestedArguments :=
  unstack_eq_flatMap t.typeArguments

/-! ### Type arguments by the form of the type -/

mutual

/-- The types between the angle brackets of a type, outer before inner, left to right. -/
def inside : WrittenType → List WrittenType
  | .primitive _ => []
  | .void => []
  | .named _ args => insideArgs args
  | .array element _ => element.inside

/-- The types in a list of type arguments; there is none in a bare `?`. -/
def insideArgs : List TypeArg → List WrittenType
  | [] => []
  | .type t :: args => t :: (t.inside ++ insideArgs args)
  | .anything :: args => insideArgs args
  | .bounded bound :: args => bound :: (bound.inside ++ insideArgs args)

end

mutual

lemma nestedArguments_eq_inside (t : WrittenType) : t.nestedArguments = t.inside := by
  match t with
  | .primitive _ => rw [nestedArguments_eq_flatMap, inside]; rfl
  | .void => rw [nestedArguments_eq_flatMap, inside]; rfl
  | .named _ args =>
    rw [nestedArguments_eq_flatMap, inside]
    exact flatMap_type?_eq_insideArgs args
  | .array element dims =>
    -- An array has the type arguments of its elements.
    have harray : (array element dims).nestedArguments = element.nestedArguments := rfl
    rw [harray, inside, nestedArguments_eq_inside element]

lemma flatMap_type?_eq_insideArgs (args : List TypeArg) :
    (args.filterMap TypeArg.type?).flatMap (fun a => a :: a.nestedArguments) =
      insideArgs args := by
  match args with
  | [] => rw [insideArgs]; rfl
  | .type t :: args =>
    rw [insideArgs, ← nestedArguments_eq_inside t, ← flatMap_type?_eq_insideArgs args]; rfl
  | .anything :: args =>
    rw [insideArgs, ← flatMap_type?_eq_insideArgs args]; rfl
  | .bounded bound :: args =>
    rw [insideArgs, ← nestedArguments_eq_inside bound, ← flatMap_type?_eq_insideArgs args]; rfl

end

end WrittenType

/-- The walk over nested declarations and the walk over nested type arguments end for every
declaration and every type, and what they list is the preorder of the tree: a declaration and then
the lists of the declarations in it, and each type argument followed by those nested in it. For
types this is the recursion over their forms, which looks through arrays and passes over bare
`?`. -/
theorem walks_end_in_preorder :
    (∀ (d : Decl) (visited : List Decl),
      (Walk.start [d]).Ends Decl.nested visited ↔ visited = d.selfAndNested) ∧
    (∀ d : Decl, d.selfAndNested = d :: d.nested.flatMap Decl.selfAndNested) ∧
    (∀ (t : WrittenType) (visited : List WrittenType),
      (Walk.start t.typeArguments.reverse).Ends WrittenType.typeArguments visited ↔
        visited = t.nestedArguments) ∧
    ∀ t : WrittenType,
      t.nestedArguments = t.typeArguments.flatMap (fun a => a :: a.nestedArguments) ∧
        t.nestedArguments = t.inside := by
  refine ⟨?_, Decl.selfAndNested_eq, ?_, ?_⟩
  · intro d visited
    exact ends_iff_eq_unstack [d]
  · intro t visited
    exact ends_iff_eq_unstack t.typeArguments
  · intro t
    exact ⟨t.nestedArguments_eq_flatMap, t.nestedArguments_eq_inside⟩

end Cartograph.Java
