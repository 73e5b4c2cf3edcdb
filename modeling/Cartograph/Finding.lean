import Cartograph.Kind
import Cartograph.Text.Blank
import Cartograph.Text.Letter

/-!
# Findings

A finding says that the class under study depends on a target in a certain way. Targets that are
blank are never recorded, and as types neither are the primitives and their wrappers.
-/

namespace Cartograph

open Text

/-- A dependency of the class under study. -/
structure Finding where
  target : String
  kind : Kind
deriving DecidableEq, Inhabited

/-- Names that are too common to be recorded as types, in any case of their letters. -/
def basicNames : List String :=
  ["string", "int", "integer", "long", "double", "float", "boolean", "char", "byte", "short",
    "void", "object"]

/-- Qualified names that are too common to be recorded as types. -/
def basicQualifiedNames : List String :=
  ["java.lang.String", "java.lang.Integer", "java.lang.Long", "java.lang.Double", "java.lang.Float",
    "java.lang.Boolean", "java.lang.Character", "java.lang.Byte", "java.lang.Short",
    "java.lang.Object"]

/-- The name is too common to be recorded as a type. -/
def isBasicType (name : String) : Bool :=
  basicNames.contains (asciiLower name) || basicQualifiedNames.contains name

/-- The finding of a target, unless the target is blank. -/
def emit (target : String) (kind : Kind) : List Finding :=
  if isBlankText target then [] else [⟨target, kind⟩]

/-- The finding of a resolved type, unless there is none, it is basic or it is blank. -/
def emitType (resolved : Option String) (kind : Kind) : List Finding :=
  match resolved with
  | some name => if isBasicType name then [] else emit name kind
  | none => []

end Cartograph
