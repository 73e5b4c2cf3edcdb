import Cartograph.ClassView
import Cartograph.Verb

/-!
# Request mappings

The requests that the methods of a controller answer: a mapping annotation gives the verb and a
path, which is joined to the path of the controller.
-/

namespace Cartograph

open Text Java

/-- The mapping annotations with the verb of each; one takes its verb from an argument. -/
def mappingNames : List (String × Option Verb) :=
  [("GetMapping", some .get), ("PostMapping", some .post), ("PutMapping", some .put),
    ("DeleteMapping", some .delete), ("PatchMapping", some .patch), ("RequestMapping", none)]

/-- The annotation maps requests. -/
def isMapping (a : AnnotationUse) : Bool := mappingNames.any fun (name, _) => a.isNamed name

/-- The verb that a mapping annotation names as its argument, the first if there are several. -/
def declaredVerb? (a : AnnotationUse) : Option Verb :=
  let text := (a.attr? "method").bind fun
    | .array items => items.head?.map ElementValue.render
    | value => some value.render
  text.bind fun name => (Verb.ofName name).toOption

/-- The verb of a mapping annotation; a general one without a readable argument maps `GET`. -/
def mappingVerb? (a : AnnotationUse) : Option Verb :=
  match mappingNames.find? fun (name, _) => a.isNamed name with
  | some (_, some verb) => some verb
  | some (_, none) => some ((declaredVerb? a).getD .get)
  | none => none

/-- The first path of a mapping annotation; empty if it has none. -/
def mappingPath (a : AnnotationUse) : String := (a.textAttr? ["value", "path"]).getD ""

/-- Two paths joined into one that begins with a slash and has no empty part. -/
def combinePaths (base path : String) : String :=
  let joined :=
    if base = "" then path.toList
    else if path = "" then base.toList
    else base.toList ++ '/' :: path.toList
  String.ofList ('/' :: squeeze '/' true joined)

/-- A request that a class answers. -/
structure Mapping where
  classId : ClassId
  uri : String
  verb : Verb
deriving DecidableEq, Inhabited

def Java.Decl.mappings (d : Decl) (classId : ClassId) : List Mapping :=
  let base := ((annotationNamed? d.annotations "RequestMapping").map mappingPath).getD ""
  d.methods.flatMap fun m => m.annotations.filterMap fun a =>
    (mappingVerb? a).map fun verb => ⟨classId, combinePaths base (mappingPath a), verb⟩

/-- The mappings of the registered controllers of a source file. -/
def Java.SourceUnit.mappings (u : SourceUnit) (r : Registry) : List Mapping :=
  (u.types.filter Decl.isController).flatMap fun d =>
    match r.lookup? (classKey (u.package.getD "") d.name) with
    | some id => d.mappings id
    | none => []

end Cartograph
