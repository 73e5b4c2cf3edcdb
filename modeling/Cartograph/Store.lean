import Cartograph.Project

/-!
# The store of projects

The projects that have been analysed, in the order in which they first came. A project is known by
its identifier: new data of a project take the place of the old.
-/

namespace Cartograph

/-- The projects that have been analysed. -/
structure Store where
  projects : List ProjectData := []
deriving DecidableEq, Inhabited

namespace Store

def project (s : Store) (id : Uuid) : Except Failure ProjectData :=
  match s.projects.find? (·.id == id) with
  | some p => .ok p
  | none => .error (.projectNotFound id)

def projectAt? (s : Store) (root : String) : Option ProjectData :=
  s.projects.find? fun p => Path.same p.root root

/-- The projects with the data in the place of the first that has its identifier,
else at the end. -/
def replaceIn (data : ProjectData) : List ProjectData → List ProjectData
  | [] => [data]
  | p :: ps => if p.id = data.id then data :: ps else p :: replaceIn data ps

/-- The store with the data of a project, which replace what was known of it. -/
def replace (s : Store) (data : ProjectData) : Store := ⟨replaceIn data s.projects⟩

/-- The project with the identifier, and the store without it. -/
def remove (s : Store) (id : Uuid) : Except Failure (ProjectData × Store) :=
  match s.projects.find? (·.id == id) with
  | some p => .ok (p, ⟨s.projects.eraseP (·.id == id)⟩)
  | none => .error (.projectNotFound id)

def findEndpoint (s : Store) (id : Uuid) : Except Failure (ProjectData × Endpoint) :=
  match s.projects.findSome? fun p => (p.endpoint? id).map fun e => (p, e) with
  | some found => .ok found
  | none => .error (.endpointNotFound id)

end Store

end Cartograph
