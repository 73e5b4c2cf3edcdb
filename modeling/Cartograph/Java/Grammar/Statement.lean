import Cartograph.Java.Grammar.Expression

/-!
# Statements

Statements are read only for the facts in them. Every declaration may stand among statements, and a
declaration without a name for it, such as an import, leaves no trace.
-/

namespace Cartograph.Java.Rule

open Java.Parser Text

/-- Words that begin a statement of their own, and never an expression or a type. -/
def statementWords : List String :=
  ["if", "while", "for", "do", "assert", "break", "continue", "return", "throw", "try", "class",
    "interface", "enum", "package", "import"]

/-- An optional expression up to the semicolon. -/
def expressionEnd (g : Grammar) : Parser Unit := do
  let _ ← maybe (expression g true)
  sign ";"

/-! ### Variables -/

/-- Local variables with their type, up to the semicolon. The type `var` declares none. -/
def localVariables (g : Grammar) : Parser Unit := do
  let ((t, names), facts) ← held (do
    let _ ← modifiers g
    let t ← type g
    let names ← separated (declarator g) ","
    sign ";"
    return (t, names.map (·.1)))
  if t.className? = some "var" then tell facts
  else tell (.localVar ⟨t, names⟩ :: facts)

/-- A variable that runs over a collection, up to the colon. -/
def loopVariable (g : Grammar) : Parser Unit := do
  let _ ← modifiers g
  let _ ← type g
  let _ ← anyWord
  let _ ← maybe (dims g)
  sign ":"

/-! ### Loops and conditions -/

/-- A loop over a collection, or with a start, a condition and a step. -/
def forLoop (g : Grammar) : Parser Unit := do
  keyword "for"
  sign "("
  let each ← maybe (loopVariable g)
  if each.isSome then
    let _ ← expression g true
  else
    localVariables g
      <|> (do
        let _ ← maybe (separated (expression g true) ",")
        sign ";")
    expressionEnd g
    let _ ← maybe (separated (expression g true) ",")
  sign ")"
  g.statement

/-- A condition with one or two branches. -/
def condition (g : Grammar) : Parser Unit := do
  keyword "if"
  parenthesized g
  g.statement
  (do keyword "else"; g.statement) <|> notAhead (keyword "else")

/-! ### Exceptions -/

/-- A handler. The caught types come before the facts of the parameter. -/
def handler (g : Grammar) : Parser Unit := do
  keyword "catch"
  sign "("
  let (types, facts) ← held (do
    let _ ← modifiers g
    let types ← separated (type g) "|"
    let _ ← anyWord
    let _ ← maybe (dims g)
    return types)
  tell (types.map Fact.caught ++ facts)
  sign ")"
  block g

/-- A resource: a variable with its value, or the name of one. -/
def resource (g : Grammar) : Parser Unit :=
  (do
    let _ ← modifiers g
    let _ ← type g
    let _ ← anyWord
    let _ ← maybe (dims g)
    sign "="
    let _ ← expression g true)
  <|> (do
    let o ← primary g
    check (o.isTarget && (!o.access.isEmpty || o.inner.isEmpty))
    tell o.facts)

/-- A protected block with its resources and handlers; without resources something
must follow it. -/
def protectedBlock (g : Grammar) : Parser Unit := do
  keyword "try"
  let resources ← maybe (do
    sign "("
    let _ ← separated (resource g) ";"
    let _ ← maybe (sign ";")
    sign ")")
  block g
  let handlers ← many (handler g)
  let last ← maybe (do keyword "finally"; block g)
  check (resources.isSome || last.isSome || !handlers.isEmpty)

/-! ### Declarations without a body of code -/

/-- A package declaration: its name. -/
def packageDecl (g : Grammar) : Parser String := do
  let _ ← many g.annotationUse
  keyword "package"
  let n ← name
  sign ";"
  return n

def importDecl : Parser Import := do
  keyword "import"
  let isStatic ← maybe (keyword "static")
  let path ← name
  let isWildcard ← maybe (do sign "."; sign "*")
  sign ";"
  return ⟨path, isStatic.isSome, isWildcard.isSome⟩

def directive : Parser Unit :=
  (do
    keyword "requires"
    (do
      let _ ← many (wordAmong ["transitive", "static"])
      let _ ← name
      sign ";")
    <|> (do let _ ← name; sign ";"))
  <|> (do
    let _ ← wordAmong ["exports", "opens"]
    let _ ← name
    let _ ← maybe (do keyword "to"; separated name ",")
    sign ";")
  <|> (do keyword "uses"; let _ ← name; sign ";")
  <|> (do
    keyword "provides"
    let _ ← name
    keyword "with"
    let _ ← separated name ","
    sign ";")

def moduleDecl (g : Grammar) : Parser Unit := do
  let _ ← many g.annotationUse
  let _ ← maybe (keyword "open")
  keyword "module"
  let _ ← name
  sign "\x7b"
  let _ ← many directive
  sign "\x7d"

/-- A type declaration with its modifiers, read for its facts. -/
def localType (g : Grammar) : Parser Unit := do
  let first ← line
  let (mods, annotations) ← modifiers g
  let _ ← g.declaration first mods annotations

/-! ### Statements -/

/-- A statement that begins with a word of its own. -/
def wordStatement (g : Grammar) : Parser Unit :=
  condition g
  <|> forLoop g
  <|> protectedBlock g
  <|> (do keyword "while"; parenthesized g; g.statement)
  <|> (do keyword "do"; g.statement; keyword "while"; parenthesized g; sign ";")
  <|> (do keyword "return"; expressionEnd g)
  <|> (do keyword "throw"; let _ ← expression g true; sign ";")
  <|> (do let _ ← wordAmong ["break", "continue"]; let _ ← maybe anyWord; sign ";")
  <|> (do
    keyword "assert"
    let _ ← expression g true
    let _ ← maybe (do sign ":"; expression g true)
    sign ";")
  <|> (do keyword "synchronized"; parenthesized g; block g)
  <|> (do keyword "yield"; let _ ← expression g true; sign ";")
  <|> switch g

def statement (g : Grammar) : Parser Unit :=
  sign ";"
  <|> block g
  <|> wordStatement g
  <|> (do let _ ← importDecl)
  <|> (do let _ ← packageDecl g)
  <|> localType g
  <|> moduleDecl g
  <|> (do
    notAhead (wordAmong ("case" :: "default" :: statementWords))
    localVariables g
      <|> (do let _ ← wordExcept expressionWords; sign ":"; g.statement)
      <|> (do let _ ← expression g true; sign ";"))

end Cartograph.Java.Rule
