import Cartograph.Registry
import Cartograph.Text.Blank
import Cartograph.Text.Letter

/-!
# Scopes and resolution

What a name written in a source file stands for: an imported class, a class of `java.lang`, a class
below a package that is imported as a whole, or else a class of the file's own package. Resolution
never fails: a name about which nothing is known stands for itself.
-/

namespace Cartograph

open Text Java

/-- The package and the imports of a source file. -/
structure Scope where
  package : Option String := none
  /-- Imported classes by simple name; of equal names the first counts. -/
  explicit : List (String × String) := []
  /-- Packages imported as a whole, in order. -/
  wildcards : List String := []

namespace Scope

/-- The scope of a package without imports; the empty name is no package. -/
def ofPackage (package : Option String) : Scope :=
  { package := package.filter (· ≠ "") }

/-- The scope with one more imported class. -/
def withImport (s : Scope) (path : String) : Scope :=
  { s with explicit := s.explicit ++ [(simpleName path, path)] }

/-- The scope with one more package imported as a whole. -/
def withWildcard (s : Scope) (package : String) : Scope :=
  { s with wildcards := s.wildcards ++ [package] }

/-- The scope with an import; imports of static members do not count. -/
def add (s : Scope) (i : Import) : Scope :=
  if i.isStatic then s else if i.isWildcard then s.withWildcard i.path else s.withImport i.path

def ofUnit (unit : SourceUnit) : Scope :=
  unit.imports.foldl add (ofPackage unit.package)

/-- The class imported under a simple name. -/
def explicit? (s : Scope) (simple : String) : Option String := s.explicit.lookup simple

end Scope

/-- The classes that every source file knows by their simple names. -/
def implicitNames : List String :=
  ["String", "Integer", "Long", "Double", "Float", "Boolean", "Character", "Byte", "Short",
    "Object", "Number", "Void", "Exception", "RuntimeException", "Error", "Throwable",
    "IllegalArgumentException", "IllegalStateException", "NullPointerException",
    "UnsupportedOperationException", "Comparable", "Cloneable", "Iterable", "Runnable",
    "AutoCloseable", "CharSequence", "StringBuilder", "Math", "System", "Thread", "Class", "Enum",
    "Record"]

/-- A source of knowledge about names outside the registry: the qualified name that a name means in
a scope. -/
abbrev Lexicon := String → Scope → Option String

/-- What names are resolved with: the registry and, if there is one, an outside source of knowledge,
which is asked first. -/
structure Resolver where
  registry : Registry
  lexicon : Option Lexicon := none

namespace Resolver

/-- What a name without a dot stands for. -/
def resolveSimple (r : Resolver) (s : Scope) (name : String) : String :=
  match s.explicit? name with
  | some path => path
  | none =>
    if implicitNames.contains name then "java.lang." ++ name
    else
      let found := s.wildcards.findSome? fun package =>
        (r.registry.findUnder? name package).bind fun id => (r.registry.class? id).map (·.fqn)
      match found with
      | some fqn => fqn
      | none =>
        match s.package with
        | some package => package ++ "." ++ name
        | none => name

/-- What stands before the first dot, and what stands after it. -/
def splitHead? (name : String) : Option (String × String) :=
  let cs := name.toList
  if '.' ∈ cs then
    some (String.ofList (cs.takeWhile (· != '.')), String.ofList ((cs.dropWhile (· != '.')).drop 1))
  else none

/-- What a written name stands for; a dotted one is resolved by its first segment if that is
imported or looks like a class. -/
def resolve (r : Resolver) (s : Scope) (reference : String) : String :=
  let name := trim reference
  if name = "" then ""
  else
    match r.lexicon.bind fun ask => ask name s with
    | some fqn => fqn
    | none =>
      match splitHead? name with
      | none => r.resolveSimple s name
      | some (head, rest) =>
        match s.explicit? head with
        | some path => path ++ "." ++ rest
        | none => if startsUpper head then r.resolveSimple s head ++ "." ++ rest else name

/-- What the class of a written type stands for. -/
def resolveType? (r : Resolver) (s : Scope) (t : WrittenType) : Option String :=
  t.className?.map (r.resolve s)

/-- The segments that still look like nested types, each behind a dot. -/
def nestedSegments (segments : List String) : String :=
  String.join ((segments.takeWhile looksLikeType).map ("." ++ ·))

/-- The type that a chain of names begins with: its first segment if that is upper-case, else the
segments up to the first that is; then the segments that look like types nested in it. -/
def resolvePath? (r : Resolver) (s : Scope) (segments : List String) : Option String :=
  match segments with
  | [] => none
  | head :: rest =>
    if startsUpper head then some (r.resolve s head ++ nestedSegments rest)
    else
      let lower := segments.takeWhile fun x => !startsUpper x
      match segments.dropWhile fun x => !startsUpper x with
      | [] => none
      | type :: rest => some (".".intercalate (lower ++ [type]) ++ nestedSegments rest)

end Resolver

end Cartograph
