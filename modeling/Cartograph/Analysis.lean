import Cartograph.Classification
import Cartograph.Java.Source
import Cartograph.Project
import Cartograph.Scan

/-!
# Analysis

A run over a root reads its source files, registers their classes, classifies the dependencies of
each class and collects the endpoints. A file that cannot be read, or that has syntax errors which
are not tolerated, is left out and reported; nothing else changes because of it.
-/

namespace Cartograph

open Java

/-! ### Reading -/

/-- A source file that was left out, and why. -/
structure SkippedFile where
  path : String
  reason : String
deriving DecidableEq, Inhabited

/-- Reads a source file. If syntax errors are tolerated, a file that has some counts with what is
recovered of it. -/
def readSource (recovery : Recovery) (tolerates : Bool) (path : String)
    (content : Except IoFault ByteArray) : Except SkippedFile SourceUnit :=
  match content with
  | .error fault => .error ⟨path, "unreadable: " ++ fault.message⟩
  | .ok bytes =>
    match Utf8.decode bytes.toList with
    | .error fault => .error ⟨path, "not valid UTF-8: " ++ fault.message⟩
    | .ok source =>
      let unit := SourceUnit.read recovery path source
      if unit.hasSyntaxErrors && !tolerates then .error ⟨path, "syntax errors in source"⟩
      else .ok unit

/-- The source files that can be read, and those that are left out, each in order. -/
def readSources (d : Disk) (recovery : Recovery) (tolerates : Bool) :
    List String → List SourceUnit × List SkippedFile
  | [] => ([], [])
  | path :: paths =>
    let (units, skipped) := readSources d recovery tolerates paths
    match readSource recovery tolerates path (d.read path) with
    | .ok unit => (unit :: units, skipped)
    | .error file => (units, file :: skipped)

/-! ### Assembling -/

/-- The edges that the findings about a class are, under a batch. -/
def ClassFindings.edges (f : ClassFindings) (r : Registry) (batch : Uuid) : List Edge :=
  f.findings.map fun finding =>
    { source := f.classId
      sourceFqn := ((r.class? f.classId).map (·.fqn)).getD ""
      target := finding.target
      targetClass := r.resolveTarget? finding.target
      kind := finding.kind
      batch }

/-- The mappings as endpoints with new identifiers, and the supply without these. -/
def endpointsOf (ids : Supply) : List Mapping → List Endpoint × Supply
  | [] => ([], ids)
  | m :: ms =>
    let (id, ids) := ids.next
    let (endpoints, ids) := endpointsOf ids ms
    (⟨id, m.classId, m.uri, m.verb⟩ :: endpoints, ids)

/-- What is found out about the source files below a root, and the supply without the identifiers
that are used. -/
def ProjectData.ofUnits (id : Uuid) (root : String) (batch : Uuid) (lexicon : Option Lexicon)
    (ids : Supply) (units : List SourceUnit) : ProjectData × Supply :=
  let registry := Registry.ofUnits root units
  let findings := units.flatMap (Resolver.classifyUnit { registry, lexicon })
  let (endpoints, ids) := endpointsOf ids (units.flatMap (·.mappings registry))
  ({ id, root, registry, batch, endpoints
     members := findings.flatMap (·.members)
     edges := findings.flatMap fun f => f.edges registry batch }, ids)

/-! ### Runs -/

/-- What a run tells about itself. -/
structure Report where
  project : Uuid
  root : String
  batch : Uuid
  filesScanned : Nat
  skipped : List SkippedFile
  classes : Nat
  edges : Nat
  unresolvedTargets : Nat
  endpoints : Nat
  packages : List PackageSummary
deriving DecidableEq, Inhabited

/-- How many source files were read. -/
def Report.filesParsed (r : Report) : Nat := r.filesScanned - r.skipped.length

/-- What a run over so many files that gave the data tells about itself. -/
def Report.of (p : ProjectData) (filesScanned : Nat) (skipped : List SkippedFile) : Report where
  project := p.id
  root := p.root
  batch := p.batch
  filesScanned
  skipped
  classes := p.registry.classes.length
  edges := p.edges.length
  unresolvedTargets := p.unresolvedTargets
  endpoints := p.endpoints.length
  packages := p.summaries

/-- The root of a project in its shortest form. -/
def Disk.projectRoot (d : Disk) (root : String) : Except Failure String :=
  if d.isDirectory root then
    match d.canonical root with
    | .ok path => .ok path
    | .error fault => .error (.io fault)
  else .error (.input (.badRoot root))

/-- What a run is asked for. -/
structure AnalysisRequest where
  root : String
  pattern : String := "**"
  /-- The run was called off before it began. -/
  cancelled : Bool := false
  /-- A resolver of names that is asked before the registry. -/
  lexicon : Option Lexicon := none
  /-- What is made of files with syntax errors. -/
  recovery : Recovery := .nothing
  /-- A project whose identity is kept if it has the same root. -/
  previous : Option ProjectData := none

/-- The identity of the project with the root: that of the previous one if it has the same root,
else a new one. -/
def AnalysisRequest.identity (q : AnalysisRequest) (root : String) (ids : Supply) : Uuid × Supply :=
  match q.previous with
  | some p => if Path.same p.root root then (p.id, ids) else ids.next
  | none => ids.next

/-- Runs the analysis: the data it gives, what it tells about itself, and the supply without the
identifiers that it used. -/
def Settings.analyze (s : Settings) (d : Disk) (ids : Supply) (q : AnalysisRequest) :
    Except Failure (ProjectData × Report × Supply) := do
  let root ← d.projectRoot q.root
  let files ← d.sources s.scan root (.ofText q.pattern)
  if files.isEmpty then throw (.input (.noSources s.scan.extension root))
  if q.cancelled then throw .cancelled
  let (units, skipped) := readSources d q.recovery s.analysis.tolerateSyntaxErrors files
  let (batch, ids) := ids.next
  let (id, ids) := q.identity root ids
  let (data, ids) := ProjectData.ofUnits id root batch q.lexicon ids units
  return (data, .of data files.length skipped, ids)

end Cartograph
