import Cartograph.Rules.Injection
import Cartograph.Rules.Placeholder

/-!
# Configuration

Injected property values, groups of properties, and the conditions under which beans exist.
-/

namespace Cartograph.Rules

open Text Java

/-- The property keys of a value annotation. -/
def valueKeys (annotations : List AnnotationUse) : List Finding :=
  match (annotationNamed? annotations "Value").bind (·.renderedAttr? "value") with
  | some value => (placeholderKeys value).flatMap (emit · .valueInjection)
  | none => []

mutual

/-- The names of the class literals in a value, as written. -/
def classLiterals : ElementValue → List String
  | .array items => classLiteralsOf items
  | .code source => ((beforeEnd? ".class" (trim source)).map trim).toList
  | _ => []

/-- The names of the class literals in a list of values. -/
def classLiteralsOf : List ElementValue → List String
  | [] => []
  | v :: vs => classLiterals v ++ classLiteralsOf vs

end

/-- A condition that an annotation states. -/
def condition (a : AnnotationUse) : List Finding :=
  let name := a.simpleName
  if name = "Profile" then
    (a.textList ["value"]).flatMap fun p => emit ("profile:" ++ p) .profileCondition
  else if name = "Conditional" then
    ((a.attr? "value").map classLiterals |>.getD []).flatMap fun c =>
      emit ("condition:" ++ c) .profileCondition
  else if name.startsWith "ConditionalOn" then
    match a.textAttr? ["value", "name", "prefix"] with
    | some detail => emit ("condition:" ++ name ++ ":" ++ detail) .profileCondition
    | none => emit ("condition:" ++ name) .profileCondition
  else []

/-- The injected values of a declaration: on its fields, methods and parameters. -/
def injectedValues (d : Decl) : List Finding :=
  d.fields.flatMap (fun f => valueKeys f.annotations) ++
    d.methods.flatMap (fun m =>
      valueKeys m.annotations ++ m.params.flatMap fun p => valueKeys p.annotations) ++
    d.constructors.flatMap fun c => c.params.flatMap fun p => valueKeys p.annotations

/-- The groups of properties that are bound to the class or to the beans that it defines. -/
def propertyGroups (v : ClassView) : List Finding :=
  let group (annotations : List AnnotationUse) : Option AnnotationUse :=
    annotationNamed? annotations "ConfigurationProperties"
  (match group v.decl.annotations with
  | some a =>
    emit ((a.textAttr? ["prefix", "value"]).getD (kebab v.simpleName)) .configurationProperties
  | none => []) ++
  (beanMethods v).flatMap fun m =>
    match (group m.annotations).bind (·.textAttr? ["prefix", "value"]) with
    | some start => emit start .configurationProperties
    | none => []

def configuration (v : ClassView) : List Finding :=
  v.declarations.flatMap injectedValues ++ propertyGroups v ++
    v.decl.annotations.flatMap condition ++
    (beanMethods v).flatMap (fun m => m.annotations.flatMap condition) ++
    (if v.isAnnotated "AutoConfiguration" then emit v.fqn .autoConfiguration else [])

end Cartograph.Rules
