import Cartograph.Java.Grammar.Type

/-!
# Expressions

An expression is read for the facts in it and for its view as a scope or an argument. Operators need
no precedence: neither facts nor views depend on it. Calls and accesses are built along the chain of
dots, and a call comes before the facts of its scope and of its arguments.
-/

namespace Cartograph.Java.Rule

open Java.Parser Text

/-- An operand with its facts still in hand. The access that the operand itself makes is kept apart,
because it does not count where the operand is the scope of a call or of a further access. -/
structure Operand where
  view : Expr
  access : List Fact := []
  inner : List Fact := []
  /-- Whether a value can be assigned to it. -/
  isTarget : Bool := false

def Operand.facts (o : Operand) : List Fact := o.access ++ o.inner

/-- Arguments in parentheses, with their facts. -/
def arguments (g : Grammar) : Parser (List Expr × List Fact) :=
  held (listed "(" ")" (g.expression true))

def parenthesized (g : Grammar) : Parser Unit := do
  sign "("
  let _ ← g.expression true
  sign ")"

/-- A text literal, with the facts of its holes. -/
def textLiteral (g : Grammar) : Parser (String × List Fact) := do
  let start ← here
  let (_, facts) ← held (
    (do let _ ← ofClass .text)
    <|> (do
      let _ ← ofClass .textHead
      let _ ← g.expression true
      let _ ← many (do let _ ← ofClass .textMiddle; g.expression true)
      let _ ← ofClass .textTail))
  return (Token.unquote (← textSince start), facts)

/-! ### Lambdas and casts -/

/-- The parameters of a lambda and its arrow. -/
def lambdaHead (g : Grammar) : Parser Unit :=
  (do let _ ← wordExcept expressionWords; sign "->")
  <|> (do let _ ← listed "(" ")" anyWord; sign "->")
  <|> (do let _ ← params g; sign "->")

def block (g : Grammar) : Parser Unit := do
  sign "\x7b"
  let _ ← many g.statement
  sign "\x7d"

def lambda (g : Grammar) : Parser Unit := do
  lambdaHead g
  block g <|> (do let _ ← g.expression true)

/-! ### Creations -/

/-- What follows `new`: an object with its arguments, or an array. The facts of an object's scope
come after the creation itself. -/
def creation (g : Grammar) (scope : List Fact) : Parser (List Fact) := do
  let (_, before) ← held (do
    let _ ← many g.annotationUse
    let _ ← maybe (typeArgs g)
    let _ ← many g.annotationUse)
  let (t, typeFacts) ← held (simpleType g typelessWords)
  (do
    let (args, argFacts) ← arguments g
    let (_, bodyFacts) ← held (maybe g.classBody)
    return .creation ⟨t, args⟩ :: (scope ++ before ++ typeFacts ++ argFacts ++ bodyFacts))
  <|> (do
    check scope.isEmpty
    let (_, lengths) ← held (
      (do
        let length : Parser Unit := do
          let _ ← many g.annotationUse
          sign "["
          let _ ← g.expression true
          sign "]"
        length
        let _ ← many length
        let _ ← maybe (dims g))
      <|> (do
        let _ ← dims g
        ahead (sign "\x7b")
        let _ ← braced g.initial))
    return before ++ typeFacts ++ lengths)

/-! ### Operands -/

/-- A type that cannot be read as a chain of names, used for its class or for a method reference. -/
def typeOperand (g : Grammar) : Parser Operand := do
  let start ← here
  let (_, facts) ← held (do
    let _ ← annotatedType g
    let stop ← here
    check ((start.upTo stop).any fun t =>
      if t.kind == .word then expressionWords.contains t.text else t.text != ".")
    (do
      sign "::"
      let _ ← maybe (typeArgs g)
      let _ ← anyWord)
    <|> (do sign "."; keyword "class"))
  return { view := .other (← textSince start), inner := facts }

/-- A call, on an operand or on nothing; the facts are those of what comes after its scope. -/
def Operand.call (scope : Option Operand) (name text : String) (args : List Expr)
    (facts : List Fact) : Operand where
  view := .call name text
  inner := .call ⟨scope.map view, name, args⟩ :: (scope.elim [] inner ++ facts)

/-- A part of an expression that is not built from a smaller operand before it. -/
def atom (g : Grammar) : Parser Operand := do
  let start ← here
  (do
    let (s, facts) ← textLiteral g
    return { view := .text s, inner := facts })
  <|> (do
    let t ← ofClass .number
    return { view := .other t.text })
  <|> (do
    let w ← wordAmong ["true", "false", "null"]
    return { view := .other w })
  <|> (do keyword "this"; return { view := .this })
  <|> (do keyword "super"; ahead (sign "." <|> sign "::"); return { view := .super })
  <|> (do
    keyword "new"
    let facts ← creation g []
    return { view := .other (← textSince start), inner := facts })
  <|> (do
    let (_, facts) ← held (parenthesized g)
    return { view := .other (← textSince start), inner := facts })
  <|> typeOperand g
  <|> (do
    let w ← wordExcept expressionWords
    (do
      let (args, facts) ← arguments g
      return .call none w (← textSince start) args facts)
    <|> (do return { view := .name w, isTarget := true }))

/-- The operand with a field taken from it. -/
def Operand.field (o : Operand) (field text : String) : Operand where
  view :=
    match o.view with
    | .selector rooted segments => .selector rooted (segments ++ [field])
    | .this => .selector true [field]
    | _ => .other text
  access := [.access ⟨o.view, field⟩]
  inner := o.inner
  isTarget := true

/-- A call or a field access after the dot, on the operand before it. -/
def selection (g : Grammar) (start : Input) (o : Operand) : Parser Operand := do
  let (typeArgs, typeFacts) ← held (maybe (typeArgs g))
  let n ← wordExcept ["super", "new"]
  (do
    let (args, facts) ← arguments g
    return .call (some o) n (← textSince start) args (typeFacts ++ facts))
  <|> (do
    check typeArgs.isNone
    return o.field n (← textSince start))

/-- One more step of the chain that began at `start`: what follows the operand. -/
def step (g : Grammar) (start : Input) (o : Operand) : Parser Operand :=
  (do
    sign "."
    (do
      keyword "class"
      check (match o.view with | .selector false _ => true | _ => false)
      return { view := .other (← textSince start) })
    <|> (do
      keyword "new"
      let facts ← creation g o.facts
      return { view := .other (← textSince start), inner := facts })
    <|> (do
      keyword "super"
      sign "."
      selection g start o)
    <|> (do
      let (_, facts) ← textLiteral g
      return { view := .other (← textSince start), inner := o.facts ++ facts })
    <|> selection g start o)
  <|> (do
    sign "["
    let (_, facts) ← held (g.expression true)
    sign "]"
    return { view := .other (← textSince start), inner := o.facts ++ facts, isTarget := true })
  <|> (do
    sign "::"
    let (_, facts) ← held (maybe (typeArgs g))
    let _ ← anyWord
    return { view := .other (← textSince start), inner := o.facts ++ facts })

/-- The longest chain of steps, at most so many. -/
def chain (g : Grammar) (start : Input) : Nat → Operand → Parser Operand
  | 0, o => Parser.pure o
  | n + 1, o =>
    (do
      let o' ← step g start o
      chain g start n o')
    <|> Parser.pure o

/-- An atom and the steps after it. -/
def primary (g : Grammar) : Parser Operand := do
  let start ← here
  let o ← atom g
  chain g start start.count o

/-! ### Switches and patterns -/

/-- A pattern with a type and a name. -/
def typePattern (g : Grammar) : Parser Unit := do
  let _ ← g.type
  let _ ← wordExcept ["when", "instanceof"]

/-- A pattern that takes a record apart: components in parentheses behind a name or a
generic type. -/
def recordPattern (g : Grammar) (mayBeEmpty : Bool) : Parser Unit := do
  (do
    let _ ← wordExcept expressionWords
    ahead (sign "("))
  <|> (do
    let t ← classType g typelessWords
    check !t.args.isEmpty)
  let component : Parser Unit :=
    g.recordPattern true
    <|> (do let _ ← g.type; let _ ← anyWord)
    <|> keyword "_"
  let components ← listed "(" ")" component
  check (mayBeEmpty || !components.isEmpty)

/-- What a switch compares with, up to the arrow or the colon. -/
def label (g : Grammar) : Parser Unit :=
  (do
    keyword "case"
    recordPattern g false
      <|> (do typePattern g; ahead (sign "->" <|> sign ":" <|> keyword "when"))
      <|> (do let _ ← separated (g.expression false) ",")
    let _ ← maybe (do keyword "when"; g.expression false))
  <|> keyword "default"

/-- An arm of a switch with an arrow. -/
def arm (g : Grammar) : Parser Unit := do
  label g
  sign "->"
  block g
    <|> (do keyword "throw"; let _ ← g.expression true; sign ";")
    <|> (do let _ ← g.expression true; sign ";")

/-- A label with a colon and the statements under it. -/
def labelled (g : Grammar) : Parser Unit := do
  label g
  sign ":"
  let _ ← many g.statement

/-- A switch: all arms have arrows, or all labels have colons. -/
def switch (g : Grammar) : Parser Unit := do
  keyword "switch"
  parenthesized g
  sign "\x7b"
  let arms ← many (arm g)
  if arms.isEmpty then let _ ← many (labelled g)
  sign "\x7d"

/-! ### Operators -/

def assignment : Parser Unit :=
  oneOf ["=", "+=", "-=", "*=", "/=", "&=", "|=", "^=", "%=", "<<="]
  <|> (do
    sign ">"
    adjacent ">"
    let _ ← maybe (adjacent ">")
    adjacent "=")

/-- An operator between two operands. -/
def binary : Parser Unit :=
  oneOf ["+", "-", "*", "/", "%", "<", "<=", "==", "!=", "&&", "||", "&", "|", "^", "<<"]
  <|> (do
    sign ">"
    adjacent "=" <|> (do
      let shift ← maybe (adjacent ">")
      if shift.isSome then
        let _ ← maybe (adjacent ">")))

/-- A type in parentheses and what it is applied to; several types need a plain operand. -/
def cast (g : Grammar) (lambdas : Bool) : Parser Unit := do
  sign "("
  let types ← separated (annotatedType g) "&"
  sign ")"
  if types.length ≤ 1 then let _ ← g.operand lambdas
  else
    (do check lambdas; lambda g) <|> (do tell (← primary g).facts)

/-- An expression without binary operators, with its facts given out. -/
def operand (g : Grammar) (lambdas : Bool) : Parser Expr := do
  let start ← here
  let other (p : Parser Unit) : Parser Expr := do
    p
    return .other (← textSince start)
  other (do check lambdas; lambda g)
  <|> other (do oneOf ["+", "-", "!", "~", "++", "--"]; let _ ← g.operand lambdas)
  <|> other (cast g lambdas)
  <|> other (switch g)
  <|> (do
    let o ← primary g
    tell o.facts
    other (do check o.isTarget; assignment; let _ ← g.expression lambdas)
    <|> other (do
      oneOf ["++", "--"]
      let _ ← many (oneOf ["++", "--"]))
    <|> Parser.pure o.view)

/-- What may follow an operand in an expression. -/
def continuation (g : Grammar) (lambdas : Bool) : Parser Unit :=
  (do binary; let _ ← operand g lambdas)
  <|> (do
    keyword "instanceof"
    let _ ← maybe (keyword "final")
    recordPattern g true
      <|> (do
        let _ ← annotatedType g
        let _ ← maybe (wordExcept ["instanceof", "when"])))
  <|> (do
    sign "?"
    let _ ← g.expression true
    sign ":"
    let _ ← operand g lambdas)

/-- An expression, with its facts given out. -/
def expression (g : Grammar) (lambdas : Bool) : Parser Expr := do
  let start ← here
  let first ← operand g lambdas
  let more ← many (continuation g lambdas)
  if more.isEmpty then return first else return .other (← textSince start)

/-- The value of a variable: an expression or a list in braces. -/
def initial (g : Grammar) : Parser Unit :=
  (do let _ ← braced g.initial) <|> (do let _ ← expression g true)

end Cartograph.Java.Rule
