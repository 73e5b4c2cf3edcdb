import Cartograph.Diagram
import Cartograph.Java.Source
import Cartograph.Scan

/-!
# The sources of classes

The file of a class is the one that is recorded for it, if it is still there; else the one where the
class is kept by convention; else one of its name that declares the class. The sources of a diagram
are exported as one text with a heading for each class.
-/

namespace Cartograph

open Text Java

/-- The file of a class: its path below the root of its project, and its path. -/
structure LocatedSource where
  relative : String
  path : String
deriving DecidableEq, Inhabited

/-- The file declares a top-level type with the qualified name; in the default package the simple
name will do. -/
def Java.SourceUnit.declares (u : SourceUnit) (fqn : String) : Bool :=
  let package := u.package.getD ""
  u.types.any fun d => classKey package d.name == fqn || (package == "" && d.name == fqn)

namespace Disk

/-- The file at the path declares the class, with or without syntax errors. -/
def declares (d : Disk) (recovery : Recovery) (path fqn : String) : Bool :=
  match d.readText path with
  | .error _ => false
  | .ok source => (SourceUnit.read recovery path source).declares fqn

/-- The first source file below the root that has the name of the class and declares it. -/
def search? (d : Disk) (recovery : Recovery) (s : ScanSettings) (root fqn : String) :
    Option LocatedSource :=
  let name := simpleName fqn ++ "." ++ s.extension
  let files := (d.sources s root .all).toOption.getD []
  let isSource (path : String) : Bool :=
    Path.fileName? path == some name && d.declares recovery path fqn
  (files.find? isSource).map fun path =>
    ⟨replaceChar '\\' '/' ((Path.relativeTo? root path).getD path), path⟩

/-- The file of a class below a root, given the path recorded for it. -/
def locate? (d : Disk) (recovery : Recovery) (s : ScanSettings) (root fqn : String)
    (recorded : Option String) : Option LocatedSource :=
  let candidates := recorded.toList ++ ["main", "test"].map (conventionalPath fqn)
  match candidates.find? fun relative => d.isFile (Path.join root relative) with
  | some relative => some ⟨relative, Path.join root relative⟩
  | none => d.search? recovery s root fqn

/-- The content of an exported file, with a line end and an empty line after it. -/
def exported (d : Disk) (path : String) : String :=
  match d.readText path with
  | .error fault => "// Error reading file: " ++ fault.message ++ "\n\n"
  | .ok content => content ++ (if content.endsWith "\n" then "\n" else "\n\n")

/-- The section of a class in an export. -/
def exportSection (d : Disk) (recovery : Recovery) (s : ScanSettings)
    (root fqn recorded : String) : String :=
  let heading (shown : String) : String := "===== FILE: " ++ shown ++ " =====\n"
  match d.locate? recovery s root fqn (some recorded) with
  | some found => heading found.relative ++ d.exported found.path
  | none => heading recorded ++ "// File not found\n\n"

/-- The sources of classes with their recorded paths. -/
def exportSources (d : Disk) (recovery : Recovery) (s : ScanSettings) (root : String)
    (paths : List (String × String)) : String :=
  String.join (paths.map fun (fqn, recorded) => d.exportSection recovery s root fqn recorded)

end Disk

end Cartograph
