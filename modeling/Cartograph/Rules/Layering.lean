import Cartograph.Finding
import Cartograph.Mapping
import Cartograph.Rules.Names

/-!
# Layers

Controllers that use services, services that use repositories, repositories with their entities, the
parts of requests that are bound to parameters, and tests of slices.
-/

namespace Cartograph.Rules

open Text Java

/-- The fields and constructor parameters whose type mentions a role. -/
def collaborators (v : ClassView) (role : String) (kind : Kind) : List Finding :=
  let types :=
    v.decl.fields.map (·.type) ++ v.decl.constructors.flatMap fun c => c.params.map (·.type)
  types.flatMap fun t =>
    if t.className?.any fun name => mentions role (Text.simpleName name) then
      emitType (v.resolveType? t) kind
    else []

/-- The entity of a repository: the first type argument of a repository type that it extends. -/
def repositoryEntity (v : ClassView) : List Finding :=
  let parents := v.decl.superTypes.filter fun t => t.className?.any (·.endsWith "Repository")
  match parents.findSome? fun t => t.typeArguments.head? with
  | some entity => emitType (v.resolveType? entity) .repositoryToEntity
  | none => []

/-- The part of the request that an annotation binds to a parameter. -/
def binding (p : Param) (a : AnnotationUse) : List Finding :=
  if isOneOf a.name bindingNames then
    let detail := match a.textAttr? ["value", "name"] with
      | some text => "=" ++ text
      | none => ""
    emit (a.simpleName ++ ":" ++ p.name ++ detail) .requestBinding
  else []

/-- The paths of the mapped methods and the parameters bound to parts of the request. -/
def requestBinding (v : ClassView) : List Finding :=
  v.decl.methods.flatMap fun m =>
    (m.annotations.filter isMapping).flatMap (fun a =>
      (a.textList ["value", "path"]).flatMap fun path => emit ("Path:" ++ path) .requestBinding) ++
    m.params.flatMap fun p => p.annotations.flatMap (binding p)

def testSlices (v : ClassView) : List Finding :=
  (v.decl.annotations.filter fun a => isOneOf a.name sliceNames).flatMap fun a =>
    match (a.renderedAttr? "value").or (a.renderedAttr? "controllers") with
    | some value => emit (a.simpleName ++ ":" ++ value) .testSlice
    | none => emit a.simpleName .testSlice

def layering (v : ClassView) : List Finding :=
  (if v.isController then collaborators v "Service" .controllerToService ++ requestBinding v
    else []) ++
    (if v.isService then collaborators v "Repository" .serviceToRepository else []) ++
    (if v.isRepository then repositoryEntity v else []) ++
    (if v.isTest then testSlices v else [])

end Cartograph.Rules
