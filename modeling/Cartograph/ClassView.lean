import Cartograph.Scope

/-!
# The class under study

A top-level class as the rules see it: its declaration, its key and the scope of its file. Members
of nested declarations count as members of the class.
-/

namespace Cartograph

open Text Java

/-- A declaration is a controller if the name of one of its annotations ends in that word. -/
def Java.Decl.isController (d : Decl) : Bool :=
  d.annotations.any fun a => a.simpleName.endsWith "Controller"

/-- The last segment of the class name of a written type; empty if it has none. -/
def Java.WrittenType.simpleClassName (t : WrittenType) : String :=
  (t.className?.map Text.simpleName).getD ""

/-- A top-level class in its file. -/
structure ClassView where
  decl : Decl
  /-- The key of the class. -/
  fqn : String
  scope : Scope
  resolver : Resolver

namespace ClassView

/-- The class and the declarations nested in it. -/
def declarations (v : ClassView) : List Decl := v.decl.selfAndNested

/-- The type variables that the class, its nested declarations and their methods declare. -/
def typeVars (v : ClassView) : List String :=
  v.declarations.flatMap fun d =>
    d.typeParams.map (·.name) ++ d.methods.flatMap fun m => m.typeParams.map (·.name)

def simpleName (v : ClassView) : String := v.decl.name

/-- The package of the class; empty if it has none. -/
def package (v : ClassView) : String := v.scope.package.getD ""

def resolve (v : ClassView) (name : String) : String := v.resolver.resolve v.scope name

/-- What the class of a written type stands for; type variables stand for nothing. -/
def resolveType? (v : ClassView) (t : WrittenType) : Option String :=
  t.className?.bind fun name => if v.typeVars.contains name then none else some (v.resolve name)

/-- The type at the beginning of a chain of names. -/
def resolvePath? (v : ClassView) (segments : List String) : Option String :=
  v.resolver.resolvePath? v.scope segments

/-- The resolved name is the class itself. -/
def isSelf (v : ClassView) (resolved : String) : Bool :=
  resolved == v.fqn || resolved == v.simpleName

def isAnnotated (v : ClassView) (name : String) : Bool := v.decl.isAnnotated name

/-! ### Roles -/

/-- The class answers requests. -/
def isController (v : ClassView) : Bool := v.decl.isController

def isService (v : ClassView) : Bool := v.isAnnotated "Service"

/-- The class defines beans. -/
def isConfiguration (v : ClassView) : Bool :=
  v.isAnnotated "Configuration" || v.isAnnotated "AutoConfiguration" ||
    v.isAnnotated "TestConfiguration"

/-- The class is a repository by its annotation, by its name or by the type it extends. -/
def isRepository (v : ClassView) : Bool :=
  v.isAnnotated "Repository" || v.simpleName.endsWith "Repository" ||
    (v.decl.superTypes.filterMap (·.className?)).any (mentions "JpaRepository")

/-- The class is managed as a bean. -/
def isComponent (v : ClassView) : Bool :=
  v.isController || v.isService || v.isConfiguration || v.isAnnotated "Component" ||
    v.isAnnotated "Repository"

/-- The class is a test by the end of its name or by a segment of its package. -/
def isTest (v : ClassView) : Bool :=
  ["Test", "Tests", "IT"].any (v.simpleName.endsWith ·) ||
    (pieces '.' (asciiLower v.package)).contains "test"

end ClassView

/-! ### Variables -/

/-- The variables of a piece of code: parameters and locals, the later before the earlier, then the
fields of the declaration that the code stands in, then those of the class. -/
structure Variables where
  locals : List (String × WrittenType)
  owner : Decl
  outer : Decl

namespace Variables

/-- The variables of a body with the given parameters. -/
def ofBody (owner outer : Decl) (params : List Param) (body : Body) : Variables where
  locals :=
    (params.map (fun p => (p.name, p.type)) ++
      body.locals.flatMap fun l => l.names.map fun n => (n, l.type)).reverse
  owner
  outer

def field? (vs : Variables) (name : String) : Option WrittenType :=
  (vs.owner.fieldType? name).or (vs.outer.fieldType? name)

def lookup? (vs : Variables) (name : String) : Option WrittenType :=
  (vs.locals.lookup name).or (vs.field? name)

end Variables

/-- The bodies of code in a declaration with the variables of each: those of the methods, of the
constructors, and the code outside them. -/
def Java.Decl.bodies (owner outer : Decl) : List (Body × Variables) :=
  owner.methods.map (fun m => (m.body, .ofBody owner outer m.params m.body)) ++
    owner.constructors.map (fun c => (c.body, .ofBody owner outer c.params c.body)) ++
    [(owner.initializers, .ofBody owner outer [] owner.initializers)]

end Cartograph
