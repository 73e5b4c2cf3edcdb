import Cartograph.Finding
import Cartograph.Mapping
import Cartograph.Member
import Cartograph.Places

/-!
# Projects

What one run of the analysis finds out about a source tree: the registry, the members of the
classes, the dependencies between them and the endpoints.
-/

namespace Cartograph

open Text

/-- A dependency of a registered class; its target may or may not be a registered class too. -/
structure Edge where
  source : ClassId
  sourceFqn : String
  target : String
  targetClass : Option ClassId
  kind : Kind
  batch : Uuid
deriving DecidableEq, Inhabited

/-- A request that a class answers, with an identifier. -/
structure Endpoint where
  id : Uuid
  classId : ClassId
  uri : String
  verb : Verb
deriving DecidableEq, Inhabited

/-- Where the edges and the members of the classes stand in their lists. -/
structure ProjectIndex where
  bySource : Places
  byTarget : Places
  byMember : Places
deriving DecidableEq, Inhabited

def ProjectIndex.of (edges : List Edge) (members : List Member) : ProjectIndex where
  bySource := .of (some ·.source) edges
  byTarget := .of (·.targetClass) edges
  byMember := .of (some ·.classId) members

/-- A source tree and what one run has found out about it, with the index of its lists. -/
structure ProjectData where
  id : Uuid
  root : String
  registry : Registry
  members : List Member
  edges : List Edge
  endpoints : List Endpoint
  batch : Uuid
  index : ProjectIndex := .of edges members
  index_eq : index = .of edges members := by rfl
deriving DecidableEq

instance : Inhabited ProjectData :=
  ⟨{ id := default, root := "", registry := default, members := [], edges := [], endpoints := []
     batch := default }⟩

/-- The sum of a package. -/
structure PackageSummary where
  package : String
  classCount : Nat
  /-- The simple names of the classes, ascending and without repeats. -/
  classes : List String
  /-- The codes of the kinds that occur, ascending, with the number of edges from the package. -/
  kindCounts : List (String × Nat)
deriving DecidableEq, Inhabited

namespace ProjectData

def edgesFrom (p : ProjectData) (id : ClassId) : List Edge := p.index.bySource.entriesOf p.edges id

def edgesTo (p : ProjectData) (id : ClassId) : List Edge := p.index.byTarget.entriesOf p.edges id

def edgesInBatch (p : ProjectData) (batch : Uuid) : List Edge := p.edges.filter (·.batch == batch)

def membersOf (p : ProjectData) (id : ClassId) : List Member :=
  p.index.byMember.entriesOf p.members id

def hasMembers (p : ProjectData) (id : ClassId) : Bool := p.index.byMember.contains id

def endpoint? (p : ProjectData) (id : Uuid) : Option Endpoint := p.endpoints.find? (·.id == id)

/-- The number of edges whose targets are not registered classes. -/
def unresolvedTargets (p : ProjectData) : Nat := p.edges.countP (·.targetClass.isNone)

/-! ### Summaries -/

def classesIn (p : ProjectData) (package : String) : List ClassId :=
  (List.range p.registry.classes.length).filter fun id =>
    p.registry.packageNameOf? id == some package

/-- The texts in ascending order without repeats. -/
def distinct (texts : List String) : List String := fresh [] (texts.mergeSort (· ≤ ·))

/-- The sum of a package. -/
def summary (p : ProjectData) (package : String) : PackageSummary :=
  let ids := p.classesIn package
  let edges := ids.flatMap p.edgesFrom
  { package
    classCount := ids.length
    classes := distinct (ids.filterMap fun id => (p.registry.class? id).map (·.simpleName))
    kindCounts := Kind.all.filterMap fun k =>
      let count := edges.countP (·.kind == k)
      if count = 0 then none else some (k.code, count) }

/-- The sums of the packages that have classes, in ascending order of their names. -/
def summaries (p : ProjectData) : List PackageSummary :=
  let packages := (List.range p.registry.classes.length).filterMap p.registry.packageNameOf?
  (distinct packages).map p.summary

end ProjectData

end Cartograph
