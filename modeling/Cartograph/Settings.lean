import Cartograph.FileTree
import Cartograph.Toml.Document

/-!
# Settings

What can be set in the settings file. Whatever the file leaves out has its default, keys that mean
nothing are passed over, and a key that means something stands in its table once. A section can also
be written as an array of its values in order.
-/

namespace Cartograph

open Toml

/-- How source files are found. -/
structure ScanSettings where
  /-- The extension of source files, without the dot. -/
  extension : String := "java"
  /-- The names of directories and files that are passed over. -/
  excluded : List String :=
    ["target", "build", "out", "bin", ".git", ".svn", ".hg", ".idea", ".gradle", "node_modules"]
  respectGitignore : Bool := false
  /-- Whether links are followed. File trees hold no links, so every scan goes the same way. -/
  followLinks : Bool := false
deriving DecidableEq, Inhabited

/-- How source files are read. -/
structure AnalysisSettings where
  /-- Whether files are read side by side; what is found is the same. -/
  parallel : Bool := true
  /-- Source files with syntax errors are kept instead of left out. -/
  tolerateSyntaxErrors : Bool := false
deriving DecidableEq, Inhabited

/-- How diagrams are drawn. -/
structure DiagramSettings where
  /-- How many steps from its class a diagram reaches. -/
  maxDepth : Nat := 10
deriving DecidableEq, Inhabited

/-- Where the store is kept. -/
structure StoreSettings where
  snapshotPath : String := ".atlas/store.bin"
deriving DecidableEq, Inhabited

/-- All settings. -/
structure Settings where
  scan : ScanSettings := {}
  analysis : AnalysisSettings := {}
  diagram : DiagramSettings := {}
  store : StoreSettings := {}
deriving DecidableEq, Inhabited

namespace Settings

/-! ### Values -/

def text? : Value → Option String
  | .text s => some s
  | _ => none

def flag? : Value → Option Bool
  | .boolean b => some b
  | _ => none

def count? : Value → Option Nat
  | .integer (.ofNat n) => some n
  | _ => none

def texts? : Value → Option (List String)
  | .array items => items.mapM text?
  | _ => none

/-- The entries with the names, unless one of them stands there twice. -/
def known? (names : List String) (entries : List (String × Value)) :
    Option (List (String × Value)) :=
  let found := entries.filter fun e => names.contains e.1
  if (found.map (·.1)).Nodup then some found else none

/-- A section is a table, or an array with the first values in the order of the names. -/
def section? (names : List String) : Value → Option (List (String × Value))
  | .table _ entries => known? names entries
  | .array items => if items.length ≤ names.length then some (names.zip items) else none
  | .date => some []
  | _ => none

/-- The value with the name, or the default if there is none; `none` if it is of the wrong kind. -/
def read? {α : Type} (entries : List (String × Value)) (name : String) (kind : Value → Option α)
    (default : α) : Option α :=
  match entries.lookup name with
  | none => some default
  | some v => kind v

/-! ### Sections -/

/-- The settings for finding source files. -/
def scan? (v : Value) : Option ScanSettings := do
  let entries ← section? ["extension", "exclude_dirs", "respect_gitignore", "follow_links"] v
  let base : ScanSettings := {}
  let extension ← read? entries "extension" text? base.extension
  let excluded ← read? entries "exclude_dirs" texts? base.excluded
  let respectGitignore ← read? entries "respect_gitignore" flag? base.respectGitignore
  let followLinks ← read? entries "follow_links" flag? base.followLinks
  some { extension, excluded, respectGitignore, followLinks }

/-- The settings for reading source files. -/
def analysis? (v : Value) : Option AnalysisSettings := do
  let entries ← section? ["parallel", "tolerate_syntax_errors"] v
  let base : AnalysisSettings := {}
  let parallel ← read? entries "parallel" flag? base.parallel
  let tolerateSyntaxErrors ← read? entries "tolerate_syntax_errors" flag? base.tolerateSyntaxErrors
  some { parallel, tolerateSyntaxErrors }

def diagram? (v : Value) : Option DiagramSettings := do
  let entries ← section? ["max_depth"] v
  let maxDepth ← read? entries "max_depth" count? ({} : DiagramSettings).maxDepth
  some { maxDepth }

def store? (v : Value) : Option StoreSettings := do
  let entries ← section? ["snapshot_path"] v
  let snapshotPath ← read? entries "snapshot_path" text? ({} : StoreSettings).snapshotPath
  some { snapshotPath }

def ofText? (source : String) : Option Settings := do
  let document ← document? source
  let entries ← known? ["scan", "analysis", "diagram", "store"] document
  let scan ← read? entries "scan" scan? {}
  let analysis ← read? entries "analysis" analysis? {}
  let diagram ← read? entries "diagram" diagram? {}
  let store ← read? entries "store" store? {}
  some { scan, analysis, diagram, store }

/-- The settings in a file; without the file all settings have their defaults. -/
def load (d : Disk) (path : String) : Except Failure Settings :=
  match d.readText path with
  | .error .notFound => .ok {}
  | .error fault => .error (.io fault)
  | .ok source =>
    match ofText? source with
    | some settings => .ok settings
    | none => .error (.config "the settings file is malformed")

def snapshotPath (s : Settings) (base : String) : String := Path.join base s.store.snapshotPath

end Settings

end Cartograph
