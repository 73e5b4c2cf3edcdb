import Cartograph.Java.Grammar.Basic
import Cartograph.Text.Blank

/-!
# Names, annotations and types

A name or a type is kept as its source text without blanks. In a qualified type name the type
arguments before the last dot are dropped.
-/

namespace Cartograph.Java.Rule

open Java.Parser Text

/-- A dotted name. -/
def name : Parser String := do
  let start ← here
  let _ ← anyWord
  let _ ← many (do sign "."; anyWord)
  return compact (← textSince start)

/-- A list in braces; a comma may end it. -/
def braced {α : Type} (p : Parser α) : Parser (List α) := do
  sign "\x7b"
  let items ← maybe (separated p ",")
  let _ ← maybe (sign ",")
  sign "\x7d"
  return items.getD []

/-! ### Annotations -/

/-- The value of an annotation argument. -/
def elementValue (g : Grammar) : Parser ElementValue :=
  (do return .nested (← g.annotationUse))
  <|> (do
    let start ← here
    let view ← g.expression true
    match view with
    | .text s => return .text s
    | _ => return .code (← textSince start))

/-- A value of an annotation argument, or a list of them nested no deeper than the fuel. -/
def elementValues (g : Grammar) : Nat → Parser ElementValue
  | 0 => elementValue g
  | n + 1 => (do return .array (← braced (elementValues g n))) <|> elementValue g

/-- The value of an annotation argument, lists included. -/
def annotationValue (g : Grammar) : Parser ElementValue := fun i => elementValues g i.count i

/-- An argument with its key. -/
def annotationPair (g : Grammar) : Parser (String × ElementValue) := do
  let key ← anyWord
  sign "="
  return (key, ← annotationValue g)

def annotationArgs (g : Grammar) : Parser AnnotationArgs := do
  sign "("
  let args ←
    (do sign ")"; return AnnotationArgs.marker)
    <|> (do
      let pairs ← separated (annotationPair g) ","
      sign ")"
      return .pairs pairs)
    <|> (do
      let value ← annotationValue g
      sign ")"
      return .single value)
  return args

/-- An annotation; the sign before `interface` begins a declaration instead. -/
def annotationUse (g : Grammar) : Parser AnnotationUse := do
  sign "@"
  notAhead (token fun t => t.kind == .word && t.text == "interface" && t.gap.isEmpty)
  let n ← name
  let args ← maybe (annotationArgs g)
  return ⟨n, args.getD .marker⟩

/-! ### Types -/

/-- The names of the primitive types. -/
def primitiveNames : List String :=
  ["byte", "short", "int", "long", "char", "float", "double", "boolean"]

/-- Words that begin an expression of their own and are never the name of a type or variable. -/
def expressionWords : List String :=
  ["this", "super", "new", "true", "false", "null", "switch", "instanceof", "void"] ++
    primitiveNames

/-- Words that are no class type where an expression may stand. -/
def typelessWords : List String := "class" :: expressionWords

/-- A type with annotations before it, which are dropped. -/
def annotatedType (g : Grammar) : Parser WrittenType := do
  let _ ← many g.annotationUse
  g.type

def typeArg (g : Grammar) : Parser TypeArg :=
  (do
    let _ ← many g.annotationUse
    sign "?"
    let bound ← maybe (do let _ ← wordAmong ["extends", "super"]; annotatedType g)
    return (bound.map TypeArg.bounded).getD .anything)
  <|> (do return .type (← annotatedType g))

def typeArgs (g : Grammar) : Parser (List TypeArg) := listed "<" ">" (typeArg g)

/-- A class type: words with dots between them, each possibly with type arguments. Its first word is
none of the reserved ones. -/
def classType (g : Grammar) (reserved : List String) : Parser WrittenType := do
  let start ← here
  let _ ← wordExcept reserved
  let text ← textSince start
  let args ← maybe (typeArgs g)
  let more ← many (do
    sign "."
    let _ ← many g.annotationUse
    let _ ← wordExcept typelessWords
    let text ← textSince start
    return (text, ← maybe (typeArgs g)))
  let (text, args) := more.getLast?.getD (text, args)
  return .named (stripGenerics (compact text)) (args.getD [])

/-- A type that is not an array; the first word of a class type is none of the reserved ones. -/
def simpleType (g : Grammar) (reserved : List String) : Parser WrittenType :=
  (do return .primitive (← wordAmong primitiveNames))
  <|> (do keyword "void"; return .void)
  <|> classType g reserved

/-- Pairs of square brackets, possibly with annotations before them: how often `[` is written. -/
def dims (g : Grammar) : Parser Nat := do
  let start ← here
  let pair : Parser Unit := do
    let _ ← many g.annotationUse
    sign "["
    sign "]"
  pair
  let _ ← many pair
  return (← textSince start).toList.count '['

/-- A type wrapped in array brackets, if there are any. -/
def wrapped (t : WrittenType) : Option Nat → WrittenType
  | none => t
  | some n => .array t n

def type (g : Grammar) : Parser WrittenType := do
  let t ← simpleType g typelessWords
  return wrapped t (← maybe (dims g))

/-- A type at the beginning of a member, where no expression can stand and its words are names. -/
def memberType (g : Grammar) : Parser WrittenType := do
  let t ← simpleType g []
  return wrapped t (← maybe (dims g))

/-- A list of types behind a word. -/
def typesAfter (g : Grammar) (word : String) : Parser (List WrittenType) := do
  keyword word
  separated (annotatedType g) ","

def typeParam (g : Grammar) : Parser TypeParam := do
  let _ ← many g.annotationUse
  let n ← anyWord
  let bounds ← maybe (do keyword "extends"; separated (annotatedType g) "&")
  return ⟨n, bounds.getD []⟩

/-- Type parameters in angle brackets. -/
def typeParams (g : Grammar) : Parser (List TypeParam) := do
  sign "<"
  let ps ← separated (typeParam g) ","
  sign ">"
  return ps

/-! ### Modifiers and parameters -/

/-- Modifiers that are words of their own wherever they stand. -/
def modifierWords : List String :=
  ["public", "protected", "private", "abstract", "static", "final", "strictfp", "native",
    "transient", "volatile"]

/-- A modifier word. Some are modifiers only before a further word. -/
def modifierWord : Parser String :=
  wordAmong modifierWords
  <|> (do let w ← wordAmong ["sealed", "default", "synchronized"]; ahead follower; return w)
  <|> (do
    keyword "non"
    adjacent "-"
    ahead glued
    let _ ← anyWord
    ahead follower
    return "non-sealed")
where
  /-- What may follow a modifier. -/
  follower : Parser Unit := (do let _ ← anyWord) <|> sign "@" <|> sign "<"
  /-- The second half of a hyphenated modifier. -/
  glued : Parser Unit := do let _ ← token fun t => t.text == "sealed" && t.gap.isEmpty

/-- The modifiers with one more word; the last word on visibility counts. -/
def withModifier (m : Modifiers) (word : String) : Modifiers :=
  if word = "public" then { m with visibility := .publicAccess }
  else if word = "protected" then { m with visibility := .protectedAccess }
  else if word = "private" then { m with visibility := .privateAccess }
  else if word = "static" then { m with isStatic := true }
  else if word = "final" then { m with isFinal := true }
  else if word = "abstract" then { m with isAbstract := true }
  else m

/-- Modifier words and annotations, in any order. -/
def modifiers (g : Grammar) : Parser (Modifiers × List AnnotationUse) := do
  let items ← many ((do return .inl (← modifierWord)) <|> (do return .inr (← g.annotationUse)))
  let words := items.filterMap fun (i : String ⊕ AnnotationUse) => i.getLeft?
  return (words.foldl withModifier {}, items.filterMap Sum.getRight?)

/-- The parameter that only gives the type of the receiver. -/
def receiver (g : Grammar) : Parser Unit := do
  let _ ← annotatedType g
  let _ ← many (do let _ ← wordExcept ["this"]; sign ".")
  keyword "this"

def param (g : Grammar) : Parser Param := do
  let (_, annotations) ← modifiers g
  let t ← g.type
  (do
    sign "..."
    let _ ← many g.annotationUse
    let n ← anyWord
    let _ ← maybe (dims g)
    let _ ← maybe (do sign "="; g.initial)
    return ⟨n, .array t 1, annotations, true⟩)
  <|> (do
    let n ← anyWord
    return ⟨n, wrapped t (← maybe (dims g)), annotations, false⟩)

/-- Parameters in parentheses; the receiver may come first. -/
def params (g : Grammar) : Parser (List Param) := do
  sign "("
  let ps ←
    (do
      receiver g
      (do sign ")"; return []) <|> (do
        sign ","
        let ps ← maybe (separated (param g) ",")
        sign ")"
        return ps.getD []))
    <|> (do
      let ps ← maybe (separated (param g) ",")
      sign ")"
      return ps.getD [])
  return ps

/-- The name of a variable with its value, if it has one: the name and the facts of the value. -/
def declarator (g : Grammar) : Parser (String × List Fact) := do
  let n ← anyWord
  let _ ← maybe (dims g)
  let value ← maybe (do sign "="; listen g.initial)
  return (n, (value.map (·.2)).getD [])

end Cartograph.Java.Rule
