import Cartograph.CommandLine
import Cartograph.Results

/-!
# The program

What the program does with a command: the files it reads are on a disk, and it answers with what it
prints and what it writes. What it makes of files with syntax errors is up to a recovery.
-/

namespace Cartograph

open Text

/-- A file that is written, possibly with the directories above it. -/
structure FileWrite where
  path : String
  content : ByteArray
  makesDirectories : Bool := false

def FileWrite.apply (w : FileWrite) (d : Disk) : Except IoFault Disk :=
  if w.makesDirectories then d.writeDeep w.path w.content else d.write w.path w.content

/-- How a command ends: its exit code, what it prints, what it writes, and the identifiers that are
left. -/
structure Outcome where
  code : Nat := 0
  output : String := ""
  errors : String := ""
  writes : List FileWrite := []
  ids : Supply

namespace Program

/-- How the program is used. -/
def usage : String :=
  lines ["Usage: atlas [OPTIONS] COMMAND", "",
    "  analyze ROOT [-p PATTERN] [--json]      analyse a project and store what is found",
    "  endpoints ROOT [-p PATTERN] [--json]    analyse a project and list its endpoints",
    "  diagram ENDPOINT [-p PROJECT] [--json] [-e FILE]",
    "                                          draw the class diagram of an endpoint",
    "  kinds [--json]                          list the kinds of dependency", "",
    "  -c, --config FILE    settings (atlas.toml)",
    "  -s, --store FILE     store (from the settings)",
    "  -v, --verbose        tell more"]

/-- The result with what was being done put before the causes of a failure. -/
def doing {α : Type} (what : String) (r : Except Failure α) : Except (List String) α :=
  r.mapError fun failure => what :: failure.causes

def causes {α : Type} (r : Except Failure α) : Except (List String) α := r.mapError (·.causes)

/-- The write, if it can be done. -/
def checked (w : FileWrite) (d : Disk) : Except IoFault FileWrite := (w.apply d).map fun _ => w

def storePath (i : Invocation) (s : Settings) (d : Disk) : String :=
  i.store.getD (s.snapshotPath d.directory)

def settings (i : Invocation) (d : Disk) : Except (List String) Settings :=
  doing ("failed to load config " ++ i.settings) (Settings.load d i.settings)

def workspace (i : Invocation) (s : Settings) (d : Disk) (recovery : Java.Recovery := .nothing) :
    Except (List String) Workspace :=
  let path := storePath i s d
  doing ("failed to open store " ++ path) (Workspace.load s d path recovery)

/-- The write that saves the workspace. -/
def save (i : Invocation) (w : Workspace) (d : Disk) : Except (List String) FileWrite :=
  causes ((checked ⟨storePath i w.settings d, w.snapshot, true⟩ d).mapError .io)

/-- Analyses a root. -/
def analyze (i : Invocation) (s : Settings) (d : Disk) (ids : Supply) (root pattern : String)
    (json : Bool) (recovery : Java.Recovery) : Except (List String) Outcome := do
  let w ← workspace i s d recovery
  let (w, report, ids) ← doing ("analysis of " ++ root ++ " failed") (w.analyze d ids root pattern)
  let saved ← save i w d
  let output := if json then report.json.render ++ "\n" else report.text
  return { output, writes := [saved], ids }

def endpoints (i : Invocation) (s : Settings) (d : Disk) (ids : Supply) (root pattern : String)
    (json : Bool) (recovery : Java.Recovery) : Except (List String) Outcome := do
  let w ← workspace i s d recovery
  let (w, found, ids) ← causes (w.extractEndpoints d ids root pattern)
  let saved ← save i w d
  let output :=
    if json then (JsonValue.array (found.map (·.json))).render ++ "\n" else endpointsText found
  return { output, writes := [saved], ids }

/-- Draws a diagram and possibly exports its sources. -/
def diagram (i : Invocation) (s : Settings) (d : Disk) (ids : Supply) (endpoint : Uuid)
    (project : Option Uuid) (json : Bool) (target : Option String) (recovery : Java.Recovery) :
    Except (List String) Outcome := do
  let w ← workspace i s d recovery
  let project ← match project with
    | some id => pure id
    | none => causes ((w.store.findEndpoint endpoint).map (·.1.id))
  let drawn ← causes (w.diagram endpoint project)
  let output := if json then drawn.json.render ++ "\n" else drawn.text
  match target with
  | none => return { output, ids }
  | some path =>
    let content ← causes (w.exportSources d project drawn)
    let written ← (checked ⟨path, content.toUTF8, false⟩ d).mapError fun fault =>
      ["failed to write " ++ path, fault.message]
    let note := "✓ Wrote " ++ Nat.repr drawn.paths.length ++ " source files to " ++ path ++ "\n"
    return { output, errors := note, writes := [written], ids }

/-- Lists the kinds of dependency. -/
def kinds (ids : Supply) (json : Bool) : Outcome :=
  { output :=
      if json then (JsonValue.array (Kind.all.map (·.json))).render ++ "\n"
      else lines (Kind.all.map (·.line))
    ids }

def invoke (i : Invocation) (d : Disk) (ids : Supply) (recovery : Java.Recovery) :
    Except (List String) Outcome := do
  let s ← settings i d
  match i.command with
  | .analyze root pattern json => analyze i s d ids root pattern json recovery
  | .endpoints root pattern json => endpoints i s d ids root pattern json recovery
  | .diagram endpoint project json target =>
    diagram i s d ids endpoint project json target recovery
  | .kinds json => return kinds ids json

/-- The files that an invocation reads apart from sources. -/
def filesRead (i : Invocation) (d : Disk) : List String :=
  match settings i d with
  | .ok s => [i.settings, storePath i s d]
  | .error _ => [i.settings]

/-- The roots of the trees whose sources an invocation reads. -/
def rootsRead (i : Invocation) (d : Disk) : List String :=
  match i.command with
  | .analyze root _ _ => [root]
  | .endpoints root _ _ => [root]
  | .diagram _ _ _ (some _) =>
    match (settings i d).bind fun s => workspace i s d with
    | .ok w => w.store.projects.map (·.root)
    | .error _ => []
  | _ => []

def run (args : List String) (d : Disk) (ids : Supply) (recovery : Java.Recovery := .nothing) :
    Outcome :=
  match Request.read? args with
  | none => { code := 2, errors := usage, ids }
  | some .help => { output := usage, ids }
  | some (.run i) =>
    match invoke i d ids recovery with
    | .ok outcome => outcome
    | .error causes => { code := 1, errors := "Error: " ++ ": ".intercalate causes ++ "\n", ids }

end Program

end Cartograph
