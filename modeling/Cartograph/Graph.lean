import Cartograph.Project

/-!
# The graph of classes

One node for each registered class, and one link for each pair of registered classes with an edge
between them. A link carries the kinds of those edges without repeats. Links and kinds stand in the
order in which they first occur.
-/

namespace Cartograph

open Text

/-- A link with the kinds of the edges that it stands for. -/
structure Link where
  source : ClassId
  target : ClassId
  kinds : List Kind
deriving DecidableEq, Inhabited

/-- The ways in which links can be followed. -/
inductive Direction
  | outgoing
  | incoming
deriving DecidableEq

/-- Where a link begins if it is followed in a direction. -/
def Link.near (l : Link) : Direction → ClassId
  | .outgoing => l.source
  | .incoming => l.target

/-- Where a link ends if it is followed in a direction. -/
def Link.far (l : Link) : Direction → ClassId
  | .outgoing => l.target
  | .incoming => l.source

/-- The graph of the classes of a project. -/
structure Graph where
  size : Nat
  links : List Link
deriving DecidableEq, Inhabited

namespace Graph

/-- The links with one more edge. -/
def addLink (source target : ClassId) (kind : Kind) : List Link → List Link
  | [] => [⟨source, target, [kind]⟩]
  | l :: ls =>
    if l.source = source ∧ l.target = target then
      (if kind ∈ l.kinds then l else { l with kinds := l.kinds ++ [kind] }) :: ls
    else l :: addLink source target kind ls

/-- The links with one more edge, if both its ends are registered. -/
def addEdge (size : Nat) (links : List Link) (e : Edge) : List Link :=
  match e.targetClass with
  | some target =>
    if e.source < size ∧ target < size then addLink e.source target e.kind links else links
  | none => links

def ofProject (p : ProjectData) : Graph :=
  let size := p.registry.classes.length
  ⟨size, p.edges.foldl (addEdge size) []⟩

def node? (g : Graph) (id : ClassId) : Option Nat := if id < g.size then some id else none

/-- The classes to which the links of a class lead in a direction, with the kinds of the links. -/
def linked (g : Graph) (direction : Direction) (id : ClassId) : List (ClassId × List Kind) :=
  (g.links.filter (·.near direction == id)).map fun l => (l.far direction, l.kinds)

def dependencies (g : Graph) (id : ClassId) : List (ClassId × List Kind) := g.linked .outgoing id

def dependents (g : Graph) (id : ClassId) : List (ClassId × List Kind) := g.linked .incoming id

def kindsBetween? (g : Graph) (source target : ClassId) : Option (List Kind) :=
  (g.links.find? fun l => l.source == source && l.target == target).map (·.kinds)

end Graph

end Cartograph
