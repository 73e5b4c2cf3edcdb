import Cartograph.Text.Dotted

/-!
# Annotations

An annotation use with its arguments. Argument values are kept as far as they are texts, lists of
values or annotations; any other expression is kept as its source text.
-/

namespace Cartograph.Java

open Text

mutual

/-- An annotation use, its name as written and possibly qualified. -/
structure AnnotationUse where
  name : String
  args : AnnotationArgs

/-- What stands in the parentheses: nothing, one value, or named values. -/
inductive AnnotationArgs
  | marker
  | single (value : ElementValue)
  | pairs (entries : List (String × ElementValue))

/-- A value in an annotation. -/
inductive ElementValue
  | text (s : String)
  | array (items : List ElementValue)
  | nested (use : AnnotationUse)
  | code (source : String)

end

instance : Inhabited AnnotationUse := ⟨"", .marker⟩

instance : Inhabited ElementValue := ⟨.text ""⟩

namespace ElementValue

mutual

def texts : ElementValue → List String
  | .text s => [s]
  | .array items => textsOf items
  | _ => []

def textsOf : List ElementValue → List String
  | [] => []
  | v :: vs => v.texts ++ textsOf vs

end

mutual

/-- The text, or the first text of a list. -/
def firstText? : ElementValue → Option String
  | .text s => some s
  | .array items => firstTextOf? items
  | _ => none

def firstTextOf? : List ElementValue → Option String
  | [] => none
  | v :: vs => v.firstText?.or (firstTextOf? vs)

end

mutual

/-- The value on one line; the items of a list are joined with a comma. -/
def render : ElementValue → String
  | .text s => s
  | .array items => ",".intercalate (renderAll items)
  | .nested use => "@" ++ use.name
  | .code source => source

/-- Each value of a list on one line. -/
def renderAll : List ElementValue → List String
  | [] => []
  | v :: vs => v.render :: renderAll vs

end

end ElementValue

namespace AnnotationUse

/-- An annotation without arguments. -/
def marker (name : String) : AnnotationUse := ⟨name, .marker⟩

def simpleName (a : AnnotationUse) : String := Text.simpleName a.name

/-- Whether the annotation is written as the name or as a qualified form of it. -/
def isNamed (a : AnnotationUse) (name : String) : Bool := namesMatch a.name name

/-- The value under a key; a single value answers to `value`, and of equal keys the first counts. -/
def attr? (a : AnnotationUse) (key : String) : Option ElementValue :=
  match a.args with
  | .marker => none
  | .single v => if key = "value" then some v else none
  | .pairs entries => entries.lookup key

/-- The first text found under any of the keys, tried in order. -/
def textAttr? (a : AnnotationUse) (keys : List String) : Option String :=
  keys.findSome? fun key => (a.attr? key).bind ElementValue.firstText?

/-- All texts under the first of the keys that is present. -/
def textList (a : AnnotationUse) (keys : List String) : List String :=
  ((keys.findSome? a.attr?).map ElementValue.texts).getD []

/-- The value under a key on one line. -/
def renderedAttr? (a : AnnotationUse) (key : String) : Option String :=
  (a.attr? key).map ElementValue.render

/-- The arguments in order, each on one line; a single value is named `value`. -/
def attributes (a : AnnotationUse) : List (String × String) :=
  match a.args with
  | .marker => []
  | .single v => [("value", v.render)]
  | .pairs entries => entries.map fun (key, v) => (key, v.render)

end AnnotationUse

/-- The first annotation of the list that carries the name. -/
def annotationNamed? (annotations : List AnnotationUse) (name : String) : Option AnnotationUse :=
  annotations.find? (·.isNamed name)

def isAnnotated (annotations : List AnnotationUse) (name : String) : Bool :=
  annotations.any (·.isNamed name)

end Cartograph.Java
