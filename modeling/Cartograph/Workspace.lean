import Cartograph.Analysis
import Cartograph.Snapshot
import Cartograph.Sources

/-!
# Workspaces

Settings, and a store of the projects that were analysed under them. Everything that can be asked of
a project is asked of a workspace. What is recovered of files with syntax errors is given to it.
-/

namespace Cartograph

open Text

/-- Settings and a store of projects. -/
structure Workspace where
  settings : Settings := {}
  store : Store := {}
  recovery : Java.Recovery := .nothing
deriving Inhabited

/-- An endpoint as it is listed. -/
structure EndpointSummary where
  id : Uuid
  project : Uuid
  classId : ClassId
  classFqn : String
  simpleName : String
  uri : String
  verb : Verb
deriving DecidableEq, Inhabited

/-- An endpoint of a project as it is listed. -/
def ProjectData.summarize (p : ProjectData) (e : Endpoint) : EndpointSummary :=
  let c := p.registry.class? e.classId
  { id := e.id
    project := p.id
    classId := e.classId
    classFqn := (c.map (·.fqn)).getD ""
    simpleName := (c.map (·.simpleName)).getD ""
    uri := e.uri
    verb := e.verb }

namespace Workspace

/-! ### Analysis -/

/-- Analyses a root and stores what is found out; the identity of a stored project with this root is
kept. A run that fails changes nothing. -/
def analyze (w : Workspace) (d : Disk) (ids : Supply) (root pattern : String)
    (cancelled : Bool := false) :
    Except Failure (Workspace × Report × Supply) := do
  let canonical ← d.projectRoot root
  let request : AnalysisRequest :=
    { root := canonical, pattern, cancelled, recovery := w.recovery
      previous := w.store.projectAt? canonical }
  let (data, report, ids) ← w.settings.analyze d ids request
  return ({ w with store := w.store.replace data }, report, ids)

def endpoints (w : Workspace) (project : Uuid) : Except Failure (List EndpointSummary) :=
  (w.store.project project).map fun p => p.endpoints.map p.summarize

def extractEndpoints (w : Workspace) (d : Disk) (ids : Supply) (root pattern : String) :
    Except Failure (Workspace × List EndpointSummary × Supply) := do
  let (w, report, ids) ← w.analyze d ids root pattern
  let endpoints ← w.endpoints report.project
  return (w, endpoints, ids)

/-! ### Diagrams and sources -/

def diagram (w : Workspace) (endpoint project : Uuid) : Except Failure Diagram :=
  match w.store.project project with
  | .error failure => .error failure
  | .ok p =>
    match p.endpoint? endpoint with
    | none => .error (.endpointNotFound endpoint)
    | some e => Diagram.ofEndpoint p w.settings.diagram.maxDepth e

def locate (w : Workspace) (d : Disk) (project : Uuid) (fqn : String) :
    Except Failure LocatedSource :=
  match w.store.project project with
  | .error failure => .error failure
  | .ok p =>
    let recorded := ((p.registry.lookup? fqn).bind p.registry.class?).bind (·.sourcePath)
    let recorded := recorded.map (replaceChar '\\' '/')
    match d.locate? w.recovery w.settings.scan p.root fqn recorded with
    | some found => .ok found
    | none => .error (.classNotFound fqn)

def exportSources (w : Workspace) (d : Disk) (project : Uuid) (diagram : Diagram) :
    Except Failure String :=
  (w.store.project project).map fun p =>
    d.exportSources w.recovery w.settings.scan p.root diagram.paths

/-! ### Snapshots -/

/-- The workspace with the store in a snapshot file; without the file the store is empty. -/
def load (settings : Settings) (d : Disk) (path : String)
    (recovery : Java.Recovery := .nothing) : Except Failure Workspace :=
  if d.exists? path then
    match d.read path with
    | .error fault => .error (.io fault)
    | .ok content =>
      (Snapshot.decode content.toList).map fun store => { settings, store, recovery }
  else .ok { settings, recovery }

def snapshot (w : Workspace) : ByteArray := ⟨(Snapshot.encode w.store).toArray⟩

end Workspace

end Cartograph
