import Cartograph.Java.Walk
import Cartograph.Text.Dotted

/-!
# Written types

A type as it stands in Java source: a primitive, `void`, a class type with its type arguments, or an
array. `WrittenType.render` writes it back, and `typeArguments` and `nestedArguments` list the types
written inside it.
-/

namespace Cartograph.Java

mutual

/-- A type as written; the name of a class type may be dotted. -/
inductive WrittenType
  | primitive (name : String)
  | void
  | named (name : String) (args : List TypeArg)
  | array (element : WrittenType) (dims : Nat)
deriving Inhabited

/-- A type argument: a type, a bare `?`, or a `?` with an upper or lower bound. -/
inductive TypeArg
  | type (type : WrittenType)
  | anything
  | bounded (bound : WrittenType)
deriving Inhabited

end

/-- The type or the bound of a type argument. -/
def TypeArg.type? : TypeArg → Option WrittenType
  | .type t => some t
  | .anything => none
  | .bounded t => some t

namespace WrittenType

/-- A class type without type arguments. -/
def plain (name : String) : WrittenType := .named name []

def className? : WrittenType → Option String
  | .named name _ => some name
  | _ => none

/-- The innermost element type of an array, or the type itself. -/
def element : WrittenType → WrittenType
  | .array t _ => t.element
  | t => t

def isArray : WrittenType → Bool
  | .array _ _ => true
  | _ => false

/-- The type arguments of a class type. -/
def args : WrittenType → List TypeArg
  | .named _ args => args
  | _ => []

/-- The types directly between the angle brackets, arrays looked through, bare `?` left out. -/
def typeArguments (t : WrittenType) : List WrittenType :=
  t.element.args.filterMap TypeArg.type?

/-! ### All nested arguments -/

private theorem sizeOf_element (t : WrittenType) : sizeOf t.element ≤ sizeOf t := by
  fun_induction element t with
  | case1 t dims ih => simp only [array.sizeOf_spec]; omega
  | case2 t => exact Nat.le_refl _

private theorem sizeOf_filterMap_type? (as : List TypeArg) :
    totalSize (as.filterMap TypeArg.type?) < sizeOf as := by
  induction as with
  | nil => simp [totalSize]
  | cons a as ih =>
    cases a <;> simp [List.filterMap_cons, TypeArg.type?, totalSize] at ih ⊢ <;> omega

/-- The direct type arguments together are smaller than the type. -/
theorem totalSize_typeArguments (t : WrittenType) : totalSize t.typeArguments < sizeOf t := by
  have h := sizeOf_element t
  unfold typeArguments
  cases he : t.element with
  | named name as =>
    have hs := sizeOf_filterMap_type? as
    rw [he] at h
    simp only [args, named.sizeOf_spec] at h ⊢
    omega
  | _ => rw [he] at h; simp_all [args, totalSize]; omega

/-- All types nested anywhere inside the type arguments, outer before inner, left to right. -/
def nestedArguments (t : WrittenType) : List WrittenType :=
  unstack typeArguments totalSize_typeArguments t.typeArguments

/-! ### Text of a type -/

/-- So many pairs of square brackets. -/
def brackets : Nat → String
  | 0 => ""
  | n + 1 => "[]" ++ brackets n

mutual

/-- The type as source text: `List<Foo>`, `int[]`, `Map<K, ?>`; every bound is an upper one. -/
def render : WrittenType → String
  | .primitive name => name
  | .void => "void"
  | .named name [] => name
  | .named name (a :: as) => name ++ "<" ++ renderArg a ++ renderRest as ++ ">"
  | .array t dims => render t ++ brackets dims

/-- A type argument as source text. -/
def renderArg : TypeArg → String
  | .type t => render t
  | .anything => "?"
  | .bounded t => "? extends " ++ render t

/-- The type arguments after the first, each behind its comma. -/
def renderRest : List TypeArg → String
  | [] => ""
  | a :: as => ", " ++ renderArg a ++ renderRest as

end

end WrittenType

end Cartograph.Java
