import Cartograph.Java.Declaration
import Cartograph.Java.Parser

/-!
# The grammar as a record of rules

The rules of the language refer to each other. A rule that begins deeper in the source takes the
others from a `Grammar`, one level further down; the levels are tied together once, with as many as
the source can use.
-/

namespace Cartograph.Java

/-- A member of a type body, with the facts of the code in it that runs outside methods. -/
inductive TypeMember
  | field (f : Field) (facts : List Fact)
  | method (m : Method)
  | constructor (c : Constructor)
  | initializer (facts : List Fact)
  | nested (d : Decl)
  | nothing

/-- The rules that other rules refer to. -/
structure Grammar where
  /-- An annotation with its arguments. -/
  annotationUse : Parser AnnotationUse
  /-- A type without annotations before it. -/
  type : Parser WrittenType
  /-- An expression; the flag tells whether it may be a lambda. -/
  expression : Bool → Parser Expr
  /-- An expression without binary operators; the flag tells whether it may be a lambda. -/
  operand : Bool → Parser Expr
  /-- The value of a variable: an expression or a list in braces. -/
  initial : Parser Unit
  /-- A pattern that takes a record apart; the flag tells whether it may be empty. -/
  recordPattern : Bool → Parser Unit
  /-- A statement. -/
  statement : Parser Unit
  /-- The body of a class in braces. -/
  classBody : Parser (List TypeMember)
  /-- A type declaration after its modifiers, given the line of its first token. -/
  declaration : Nat → Modifiers → List AnnotationUse → Parser Decl

/-- No rule reads anything. -/
def Grammar.nothing : Grammar where
  annotationUse := Parser.fail
  type := Parser.fail
  expression _ := Parser.fail
  operand _ := Parser.fail
  initial := Parser.fail
  recordPattern _ := Parser.fail
  statement := Parser.fail
  classBody := Parser.fail
  declaration _ _ _ := Parser.fail

end Cartograph.Java
