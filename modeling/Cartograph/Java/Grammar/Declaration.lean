import Cartograph.Java.Grammar.Statement

/-!
# Type declarations

Classes, interfaces, enums, records and annotation types with their members. What a type body may
hold depends on its kind: interfaces and annotation types have no constructors and no blocks, and
the elements of an annotation type are dropped.
-/

namespace Cartograph.Java.Rule

open Java.Parser Text

/-! ### Methods, constructors and fields -/

/-- The exceptions that a method or constructor declares. -/
def throwsClause (g : Grammar) : Parser (List WrittenType) := do
  return (← maybe (typesAfter g "throws")).getD []

/-- A call of another constructor at the beginning of a constructor. -/
def constructorCall (g : Grammar) : Parser Unit := do
  (do
    let _ ← maybe (typeArgs g)
    let _ ← wordAmong ["this", "super"])
  <|> (do
    let start ← here
    let o ← qualifier start start.count
    tell o.facts
    sign "."
    let _ ← maybe (typeArgs g)
    keyword "super")
  let (_, facts) ← arguments g
  tell facts
  sign ";"
where
  /-- The operand before the last dot. -/
  qualifier (start : Input) (fuel : Nat) : Parser Operand := do
    let o ← atom g
    chain g start fuel o

def constructorBody (g : Grammar) : Parser Unit := do
  sign "\x7b"
  let _ ← maybe (constructorCall g)
  let _ ← many g.statement
  sign "\x7d"

/-- What has been read of a member before its body. -/
inductive MemberHead
  | constructor (name : String) (params : List Param) (throws : List WrittenType)
  | compactConstructor (name : String)
  | method (typeParams : List TypeParam) (type : WrittenType) (name : String) (params : List Param)
      (throws : List WrittenType)
  | field (type : WrittenType)

/-- The name of a constructor: any word that is not a type of its own. -/
def constructorName : Parser String := wordExcept ("void" :: primitiveNames)

def constructorHead (g : Grammar) : Parser MemberHead := do
  let _ ← maybe (typeParams g)
  let n ← constructorName
  let ps ← params g
  return .constructor n ps (← throwsClause g)

/-- The head of a constructor that takes its parameters from the record. -/
def compactHead : Parser MemberHead := do
  let n ← constructorName
  ahead (sign "\x7b")
  return .compactConstructor n

/-- The head of a method that gives a value of the type. -/
def methodHead (g : Grammar) (type : Parser WrittenType) : Parser MemberHead := do
  let tps ← maybe (do
    let tps ← typeParams g
    let _ ← many g.annotationUse
    return tps)
  let t ← type
  let n ← anyWord
  let ps ← params g
  let _ ← maybe (dims g)
  return .method (tps.getD []) t n ps (← throwsClause g)

def fieldHead (g : Grammar) : Parser MemberHead := do
  return .field (← memberType g)

/-- A member after its head. -/
def memberOf (g : Grammar) (line : Nat) (mods : Modifiers) (annotations : List AnnotationUse) :
    MemberHead → Parser TypeMember
  | .constructor n ps ts => do
    let (_, facts) ← listen (constructorBody g)
    return .constructor ⟨n, mods, annotations, ps, ts, Body.ofFacts facts, line⟩
  | .compactConstructor n => do
    let (_, facts) ← listen (block g)
    return .constructor ⟨n, mods, annotations, [], [], Body.ofFacts facts, line⟩
  | .method tps t n ps ts => do
    let (_, facts) ← listen (sign ";" <|> block g)
    return .method ⟨n, mods, annotations, tps, t, ps, ts, Body.ofFacts facts, line⟩
  | .field t => do
    let vars ← separated (declarator g) ","
    sign ";"
    return .field ⟨mods, annotations, t, vars.map (·.1), line⟩ (vars.flatMap (·.2))

/-- An element of an annotation type with its default value. -/
def annotationElement (g : Grammar) : Parser TypeMember := do
  let _ ← memberType g
  let _ ← anyWord
  sign "("
  sign ")"
  let _ ← maybe (dims g)
  let _ ← maybe (do keyword "default"; annotationValue g)
  sign ";"
  return .nothing

/-- Code that runs when the class or an object of it is made. -/
def initializer (g : Grammar) : Parser TypeMember := do
  let (_, facts) ← listen (do
    let _ ← maybe (keyword "static")
    block g)
  return .initializer facts

/-- A member that any type may have, or else one of the given kinds, after the modifiers. -/
def memberWith (g : Grammar)
    (other : Nat → Modifiers → List AnnotationUse → Parser TypeMember) : Parser TypeMember :=
  (do sign ";"; return .nothing)
  <|> (do
    let first ← line
    let (mods, annotations) ← modifiers g
    (do return .nested (← g.declaration first mods annotations))
    <|> (do
      notAhead (wordAmong ["class", "interface", "enum"])
      other first mods annotations))

/-- A member of a class, an enum or a record. -/
def classMember (g : Grammar) : Parser TypeMember :=
  initializer g
  <|> memberWith g fun line mods annotations => do
    let head ← constructorHead g <|> compactHead <|> methodHead g (memberType g) <|> fieldHead g
    memberOf g line mods annotations head

def interfaceMember (g : Grammar) : Parser TypeMember :=
  memberWith g fun line mods annotations => do
    let head ← methodHead g (memberType g) <|> fieldHead g
    memberOf g line mods annotations head

def annotationMember (g : Grammar) : Parser TypeMember :=
  memberWith g fun line mods annotations =>
    annotationElement g <|> (do memberOf g line mods annotations (← fieldHead g))

/-- Members in braces. -/
def bodyOf (p : Parser TypeMember) : Parser (List TypeMember) := do
  sign "\x7b"
  let members ← many p
  sign "\x7d"
  return members

def classBody (g : Grammar) : Parser (List TypeMember) := bodyOf (classMember g)

/-- A constant of an enum; its arguments and its body are code of the enum. -/
def enumConstant (g : Grammar) : Parser TypeMember := do
  let (_, facts) ← listen (do
    let _ ← modifiers g
    let _ ← anyWord
    let _ ← maybe (do let (_, facts) ← arguments g; tell facts)
    let _ ← maybe (classBody g))
  return .initializer facts

/-- The body of an enum: its constants, and members behind a semicolon. -/
def enumBody (g : Grammar) : Parser (List TypeMember) := do
  sign "\x7b"
  let constants ← maybe (separated (enumConstant g) ",")
  let _ ← maybe (sign ",")
  let members ← maybe (do sign ";"; many (classMember g))
  sign "\x7d"
  return constants.getD [] ++ members.getD []

/-! ### Types -/

/-- The declaration with the members of its body, each sort in source order. -/
def withMembers (d : Decl) (members : List TypeMember) : Decl :=
  { d with
    fields := members.filterMap fun | .field f _ => some f | _ => none
    methods := members.filterMap fun | .method m => some m | _ => none
    constructors := members.filterMap fun | .constructor c => some c | _ => none
    nested := members.filterMap fun | .nested n => some n | _ => none
    initializers := Body.ofFacts (members.flatMap fun
      | .field _ facts => facts
      | .initializer facts => facts
      | _ => []) }

/-- Types behind a word, if it is there. -/
def typesIf (g : Grammar) (word : String) : Parser (List WrittenType) := do
  return (← maybe (typesAfter g word)).getD []

/-- A type declaration after its modifiers. -/
def declaration (g : Grammar) (line : Nat) (mods : Modifiers) (annotations : List AnnotationUse) :
    Parser Decl :=
  (do
    keyword "class"
    let n ← anyWord
    let tps ← maybe (typeParams g)
    let parent ← maybe (do keyword "extends"; annotatedType g)
    let interfaces ← typesIf g "implements"
    let _ ← typesIf g "permits"
    let d : Decl := {
      name := n, kind := .classType, modifiers := mods, annotations, line
      typeParams := tps.getD [], superTypes := parent.toList, interfaces }
    return withMembers d (← classBody g))
  <|> (do
    keyword "interface"
    let n ← anyWord
    let tps ← maybe (typeParams g)
    let parents ← typesIf g "extends"
    let _ ← typesIf g "permits"
    let d : Decl := {
      name := n, kind := .interfaceType, modifiers := mods, annotations, line
      typeParams := tps.getD [], superTypes := parents }
    return withMembers d (← bodyOf (interfaceMember g)))
  <|> (do
    keyword "enum"
    let n ← anyWord
    let interfaces ← typesIf g "implements"
    let d : Decl := {
      name := n, kind := .enumType, modifiers := mods, annotations, line, interfaces }
    return withMembers d (← enumBody g))
  <|> (do
    keyword "record"
    let n ← anyWord
    let tps ← maybe (typeParams g)
    let components ← params g
    let interfaces ← typesIf g "implements"
    let d : Decl := {
      name := n, kind := .recordType, modifiers := mods, annotations, line
      typeParams := tps.getD [], interfaces, components }
    return withMembers d (← classBody g))
  <|> (do
    sign "@"
    let _ ← token fun t => t.kind == .word && t.text == "interface" && t.gap.isEmpty
    let n ← anyWord
    let d : Decl := { name := n, kind := .annotationType, modifiers := mods, annotations, line }
    return withMembers d (← bodyOf (annotationMember g)))

end Cartograph.Java.Rule
