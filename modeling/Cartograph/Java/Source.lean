import Cartograph.Java.Grammar.Declaration

/-!
# Source files

A source text is read into a `SourceUnit`. The rules of the grammar are tied together level by
level, with more levels than the tokens of the text can use. If no rule fits, the text has syntax
errors, and what is still made of it is up to a `Recovery`.
-/

namespace Cartograph.Java

open Java.Parser

/-- The rules, so many levels deep. -/
def Grammar.level : Nat → Grammar
  | 0 => Grammar.nothing
  | n + 1 =>
    let g := Grammar.level n
    { annotationUse := Rule.annotationUse g
      type := Rule.type g
      expression := Rule.expression g
      operand := Rule.operand g
      initial := Rule.initial g
      recordPattern := Rule.recordPattern g
      statement := Rule.statement g
      classBody := Rule.classBody g
      declaration := Rule.declaration g }

/-- What stands at the top of a source file; code outside types is passed over. -/
inductive TopItem
  | package (name : String)
  | imported (i : Import)
  | type (d : Decl)
  | code

namespace Rule

/-- A method outside types. -/
def looseMethod (g : Grammar) : Parser Unit := do
  let (mods, annotations) ← modifiers g
  notAhead (wordAmong statementWords)
  let head ← methodHead g (type g)
  let _ ← memberOf g 0 mods annotations head

/-- One item at the top of a source file. -/
def topItem (g : Grammar) : Parser TopItem :=
  (do return .package (← packageDecl g))
  <|> (do return .imported (← importDecl))
  <|> (do
    let first ← line
    let (mods, annotations) ← modifiers g
    return .type (← declaration g first mods annotations))
  <|> (do looseMethod g; return .code)
  <|> (do statement g; return .code)

def sourceFile (g : Grammar) : Parser (List TopItem) := do
  let items ← many (topItem g)
  atEnd
  return items

end Rule

namespace SourceUnit

/-- The unit with the given items; of several packages the last counts. -/
def ofItems (path : String) (items : List TopItem) : SourceUnit where
  path
  package := (items.filterMap fun | .package n => some n | _ => none).getLast?
  imports := items.filterMap fun | .imported i => some i | _ => none
  types := items.filterMap fun | .type d => some d | _ => none

/-- Reads a source text; `none` when it has syntax errors. -/
def parse? (path source : String) : Option SourceUnit := do
  let tokens ← Token.ofSource? source
  let reading ← Rule.sourceFile (Grammar.level (2 * tokens.length + 4)) (.ofList tokens)
  return ofItems path reading.value

end SourceUnit

/-- What is made of a text with syntax errors, given its path: the package, the imports and the
types that are still told apart. -/
abbrev Recovery := (path source : String) → SourceUnit

/-- Nothing is told apart. -/
def Recovery.nothing : Recovery := fun _ _ => {}

/-- Reads a source text, with or without syntax errors. -/
def SourceUnit.read (recovery : Recovery) (path source : String) : SourceUnit :=
  (parse? path source).getD { recovery path source with path, hasSyntaxErrors := true }

end Cartograph.Java
