import Cartograph.ClassView

/-!
# Members

The fields, constructors and methods of a registered class with their resolved types, as they are
shown in a diagram.
-/

namespace Cartograph

open Java

/-- The kind of a member. -/
inductive MemberKind
  | field
  | method
  | constructor
deriving DecidableEq, Inhabited

def MemberKind.code : MemberKind → String
  | .field => "FIELD"
  | .method => "METHOD"
  | .constructor => "CONSTRUCTOR"

/-- An annotation of a member, its arguments on one line each. -/
structure MemberNote where
  name : String
  attributes : List (String × String)
deriving DecidableEq, Inhabited

/-- A member of a class. A constructor has no type. -/
structure Member where
  classId : ClassId
  name : String
  typeName : Option String
  visibility : Visibility
  kind : MemberKind
  notes : List MemberNote
deriving DecidableEq, Inhabited

def memberNotes (annotations : List AnnotationUse) : List MemberNote :=
  annotations.map fun a => ⟨a.simpleName, a.attributes⟩

namespace ClassView

/-- The name of a member's type: a class as it resolves, anything else as it is written. -/
def typeName (v : ClassView) (t : WrittenType) : String := (v.resolveType? t).getD t.render

/-- The members of the class: record components, fields, constructors and methods. -/
def members (v : ClassView) (id : ClassId) : List Member :=
  v.decl.components.map (fun c =>
    ⟨id, c.name, some (v.typeName c.type), .privateAccess, .field, memberNotes c.annotations⟩) ++
  v.decl.fields.flatMap (fun f => f.names.map fun name =>
    ⟨id, name, some (v.typeName f.type), f.modifiers.visibility, .field,
      memberNotes f.annotations⟩) ++
  v.decl.constructors.map (fun c =>
    ⟨id, c.name, none, c.modifiers.visibility, .constructor, memberNotes c.annotations⟩) ++
  v.decl.methods.map fun m =>
    ⟨id, m.name, some (v.typeName m.returns), m.modifiers.visibility, .method,
      memberNotes m.annotations⟩

end ClassView

end Cartograph
