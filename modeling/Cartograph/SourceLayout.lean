import Cartograph.PackagePattern
import Cartograph.Path
import Cartograph.Registry

/-!
# The layout of sources

Where the file of a class is kept by convention, and which package a file's place stands for.
-/

namespace Cartograph

open Text

/-- The directories below which the directories are packages. -/
def sourceRoots : List (List String) := [["src", "main", "java"], ["src", "test", "java"]]

/-- What follows the first occurrence of the parts. -/
def afterFirst? (parts : List String) : List String → Option (List String)
  | [] => if parts.isEmpty then some [] else none
  | p :: ps =>
    if parts.isPrefixOf (p :: ps) then some ((p :: ps).drop parts.length) else afterFirst? parts ps

/-- The package that the place of a file below a root stands for. -/
def packageOfPath? (root file : String) : Option String :=
  let parts := Path.components ((Path.relativeTo? root file).getD file)
  if parts = [] ∨ parts = ["/"] then none
  else
    let directories := parts.dropLast.filter fun p => p != "/" && p != "." && p != ".."
    (sourceRoots.findSome? (afterFirst? · directories)).map ".".intercalate

/-- The path of a class in a source set by convention. -/
def conventionalPath (fqn sourceSet : String) : String :=
  let package := qualifier fqn
  let start := "src/" ++ sourceSet ++ "/java/"
  if package = "" ∨ package = defaultPackage then start ++ simpleName fqn ++ ".java"
  else start ++ replaceChar '.' '/' package ++ "/" ++ simpleName fqn ++ ".java"

/-- The pattern selects the file by its place; a file outside the source roots is selected only by
the pattern that selects everything. -/
def PackagePattern.matchesFile (p : PackagePattern) (root file : String) : Bool :=
  p.isAll || (packageOfPath? root file).any p.matchesPackage

/-- The name of the file that the sources of an endpoint are exported to. -/
def exportFileName (uri verb : String) : String :=
  let safe := uri.toList.map fun c =>
    if c ∈ ['/', '\\', ':', '*', '?', '"', '<', '>', '|'] then '_' else c
  let start := safe.dropWhile (· == '_')
  (if start.isEmpty then "root" else String.ofList start) ++ "(" ++ verb ++ ").txt"

end Cartograph
