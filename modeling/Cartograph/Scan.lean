import Cartograph.Ignore
import Cartograph.Settings
import Cartograph.SourceLayout

/-!
# Finding source files

A walk below a root lists the files that no rule ignores. Of these the source files are kept: those
with the extension of sources that lie in no excluded directory and that a package pattern selects.
-/

namespace Cartograph

open Text Ignore

namespace FileTree

mutual

/-- The parts of the files below a node, the parts that lead to the node first. -/
def walk (withVersioned : Bool) (sets : List RuleSet) (here : List String) :
    FileTree → List (List String)
  | .file _ => [here]
  | .directory es =>
    walkEntries withVersioned (.ofDirectory withVersioned here.length (.directory es) :: sets)
      here es

/-- The parts of the files below the entries of a directory that are not ignored. -/
def walkEntries (withVersioned : Bool) (sets : List RuleSet) (here : List String) :
    List (String × FileTree) → List (List String)
  | [] => []
  | (name, node) :: rest =>
    (if isIgnored sets (here ++ [name]) node.isDirectory then []
      else walk withVersioned sets (here ++ [name]) node) ++
      walkEntries withVersioned sets here rest

end

/-- The rule sets of the directories above what the parts lead to, the nearest one first. -/
def setsAbove (t : FileTree) (withVersioned : Bool) (parts : List String) : List RuleSet :=
  (List.range parts.length).reverse.filterMap fun depth =>
    (t.at? (parts.take depth)).map (.ofDirectory withVersioned depth)

end FileTree

namespace ScanSettings

/-- The settings make a file, given by its parts below the root and its path, a source file. -/
def selects (s : ScanSettings) (below : List String) (path : String) : Bool :=
  !below.any s.excluded.contains && Path.extension? path == some s.extension

end ScanSettings

namespace Disk

/-- The parts below a root of the source files, in ascending order. -/
def sourceParts (d : Disk) (s : ScanSettings) (root : String) (pattern : PackagePattern)
    (parts : List String) : List (List String) :=
  let found := match d.tree.at? parts with
    | some (.directory es) =>
      (FileTree.directory es).walk s.respectGitignore
        (d.tree.setsAbove s.respectGitignore parts) parts
    | _ => []
  let isSource (below : List String) : Bool :=
    let path := Path.join root ("/".intercalate below)
    s.selects below path && pattern.matchesFile root path
  ((found.map (·.drop parts.length)).filter isSource).mergeSort Path.inOrder

/-- The paths of the source files below a root, in ascending order of their parts. -/
def sources (d : Disk) (s : ScanSettings) (root : String) (pattern : PackagePattern) :
    Except Failure (List String) :=
  match d.parts root with
  | .error _ => .error (.input (.scanRootMissing root))
  | .ok parts =>
    if (d.tree.at? parts).any (·.isDirectory) then
      .ok ((d.sourceParts s root pattern parts).map fun below =>
        Path.join root ("/".intercalate below))
    else .error (.input (.scanRootNotDirectory root))

end Disk

end Cartograph
