import Cartograph.Java.Declaration
import Cartograph.Path

/-!
# The registry of classes

The top-level classes of a project and their packages. A class or package is named by its place in
the order of first registration. A class is found by its key, the package and the simple name with a
dot between them; registering a key again keeps its place and brings the rest up to date.
-/

namespace Cartograph

open Text Java

/-- The name of the package of classes that declare none. -/
def defaultPackage : String := "<default>"

/-- The key of a class; the empty package is the default one. -/
def classKey (package simple : String) : String :=
  (if package = "" then defaultPackage else package) ++ "." ++ simple

/-- The place of a class in its registry. -/
abbrev ClassId := Nat

/-- The place of a package in its registry. -/
abbrev PackageId := Nat

/-- A registered class. The source path is relative to the root of the project. -/
structure ClassRecord where
  fqn : String
  simpleName : String
  package : PackageId
  kind : DeclKind
  sourcePath : Option String
deriving DecidableEq, Inhabited

/-- The packages and classes of a project, in the order of first registration. -/
structure Registry where
  packages : List String := []
  classes : List ClassRecord := []
deriving DecidableEq, Inhabited

namespace Registry

/-! ### Looking up -/

def lookup? (r : Registry) (key : String) : Option ClassId :=
  r.classes.findIdx? (·.fqn == key)

def contains (r : Registry) (key : String) : Bool := (r.lookup? key).isSome

def class? (r : Registry) (id : ClassId) : Option ClassRecord := r.classes[id]?

def package? (r : Registry) (id : PackageId) : Option String := r.packages[id]?

def packageNamed? (r : Registry) (name : String) : Option PackageId :=
  r.packages.findIdx? (· == name)

def packageOf? (r : Registry) (id : ClassId) : Option PackageId :=
  (r.class? id).bind fun c => if c.package < r.packages.length then some c.package else none

def packageNameOf? (r : Registry) (id : ClassId) : Option String :=
  (r.class? id).bind fun c => r.package? c.package

/-- All keys in ascending order. -/
def keys (r : Registry) : List String :=
  (r.classes.map (·.fqn)).mergeSort (· ≤ ·)

/-- The classes with the simple name, in ascending order of their keys. -/
def bySimpleName (r : Registry) (simple : String) : List ClassId :=
  let found := (List.range r.classes.length).filterMap fun id =>
    (r.class? id).bind fun c => if c.simpleName = simple then some (c.fqn, id) else none
  (found.mergeSort fun a b => a.1 ≤ b.1).map (·.2)

/-- The class that an identifier names: by its key, else by its last segment in the
default package. -/
def resolveTarget? (r : Registry) (identifier : String) : Option ClassId :=
  (r.lookup? identifier).or (r.lookup? (classKey "" (simpleName identifier)))

/-- The class with the simple name in the package, else the first by key in a package below it. -/
def findUnder? (r : Registry) (simple package : String) : Option ClassId :=
  (r.lookup? (classKey package simple)).or
    ((r.bySimpleName simple).find? fun id =>
      match r.packageNameOf? id with
      | some name => name != defaultPackage && name.startsWith (package ++ ".")
      | none => false)

/-! ### Packages above a package -/

/-- The names above a dotted name, longest first. -/
def ancestors : Nat → String → List String
  | 0, _ => []
  | fuel + 1, name =>
    if '.' ∈ name.toList then qualifier name :: ancestors fuel (qualifier name) else []

/-- The nearest registered package above a package. -/
def parent? (r : Registry) (id : PackageId) : Option PackageId :=
  (r.package? id).bind fun name => (ancestors name.length name).findSome? r.packageNamed?

/-! ### Registering -/

/-- The registry with the package, and the place of the package; the empty name is the
default one. -/
def addPackage (r : Registry) (name : String) : Registry × PackageId :=
  let name := if name = "" then defaultPackage else name
  match r.packageNamed? name with
  | some id => (r, id)
  | none => ({ r with packages := r.packages ++ [name] }, r.packages.length)

/-- The registry with the class, and the place of the class. For a known key the kind becomes the
new one, and so does the source path if one is given. -/
def register (r : Registry) (package simple : String) (kind : DeclKind) (path : Option String) :
    Registry × ClassId :=
  let (r, packageId) := r.addPackage package
  let key := classKey package simple
  match r.lookup? key with
  | some id =>
    let update (c : ClassRecord) : ClassRecord :=
      { c with kind, sourcePath := path.or c.sourcePath }
    ({ r with classes := r.classes.modify id update }, id)
  | none =>
    ({ r with classes := r.classes ++ [⟨key, simple, packageId, kind, path⟩] }, r.classes.length)

/-- The registry with the declared types in turn, and their places. -/
def registerAll (r : Registry) (package : String) (path : Option String) :
    List Decl → Registry × List ClassId
  | [] => (r, [])
  | d :: ds =>
    let (r, id) := r.register package d.name d.kind path
    let (r, ids) := registerAll r package path ds
    (r, id :: ids)

/-- The registry with the package and the top-level types of a source file, whose path is kept
relative to the root if it lies below it. -/
def registerUnit (r : Registry) (root : String) (unit : SourceUnit) : Registry × List ClassId :=
  let package := unit.package.getD ""
  let path := (Path.relativeTo? root unit.path).getD unit.path
  (r.addPackage package).1.registerAll package (some path) unit.types

/-- The registry of the source files, registered in turn. -/
def ofUnits (root : String) (units : List SourceUnit) : Registry :=
  units.foldl (fun r unit => (r.registerUnit root unit).1) {}

end Registry

end Cartograph
