import Cartograph.Label
import Cartograph.Reach
import Cartograph.SourceLayout

/-!
# Class diagrams

The diagram of an endpoint shows the classes that can be reached from its class, their members and
the dependencies between them.
-/

namespace Cartograph

open Text Java

/-- A class of a diagram. -/
structure ClassInfo where
  id : ClassId
  fqn : String
  simpleName : String
deriving DecidableEq, Inhabited

/-- A diagram with the data that it shows; the tables are in ascending order of their keys. -/
structure Diagram where
  text : String
  classes : List ClassInfo
  members : List (String × List MemberInfo)
  /-- For each class its targets with the labels of the kinds. -/
  dependencies : List (String × List (String × List String))
  paths : List (String × String)
deriving DecidableEq, Inhabited

namespace Diagram

/-- The entries in ascending order of their keys. -/
def byKey {α : Type} (entries : List (String × α)) : List (String × α) :=
  entries.mergeSort fun a b => a.1 ≤ b.1

/-- The name and kind of a member that stands for an injected or used class. -/
def inferredName (kind : Kind) (simple : String) : String × MemberKind :=
  if kind = .constructorInjection then (simple, .constructor)
  else if kind = .setterInjection then ("set" ++ simple, .method)
  else (lowerFirst simple, .field)

/-- The members inferred from edges, for targets not met before. -/
def inferred (p : ProjectData) (id : ClassId) (selected : List ClassId) :
    List ClassId → List Edge → List MemberInfo
  | _, [] => []
  | met, e :: es =>
    match e.targetClass with
    | none => inferred p id selected met es
    | some target =>
      if target = id ∨ target ∉ selected ∨ target ∈ met then inferred p id selected met es
      else
        match p.registry.class? target with
        | none => inferred p id selected (target :: met) es
        | some c =>
          let (name, kind) := inferredName e.kind c.simpleName
          ⟨name, some c.fqn, .privateAccess, kind⟩ :: inferred p id selected (target :: met) es

/-- The members of a class: those captured, without repeats, or else those inferred from edges. -/
def membersOf (p : ProjectData) (selected : List ClassId) (id : ClassId) : List MemberInfo :=
  if p.hasMembers id then
    fresh [] ((p.membersOf id).map fun m => ⟨m.name, m.typeName, m.visibility, m.kind⟩)
  else inferred p id selected [] (p.edgesFrom id)

/-- The targets of a class among the selected ones, with the labels of the kinds. -/
def targetsOf (p : ProjectData) (g : Graph) (selected : List ClassId) (id : ClassId) :
    List (ClassRecord × List String) :=
  (g.dependencies id).filterMap fun (target, kinds) =>
    if target ∈ selected then
      (p.registry.class? target).map fun c => (c, kinds.map Kind.label)
    else none

/-- Some selected class implements the class. -/
def isImplemented (g : Graph) (selected : List ClassId) (id : ClassId) : Bool :=
  (g.dependents id).any fun (source, kinds) =>
    selected.contains source && kinds.contains .implementing

/-- The path of the file of a class, recorded or by convention. -/
def pathOf (c : ClassRecord) : String :=
  match c.sourcePath with
  | some path => replaceChar '\\' '/' path
  | none => conventionalPath c.fqn "main"

def blockLines (e : Endpoint) (implemented : Bool) (members : List MemberInfo) (c : ClassInfo) :
    List String :=
  ["    class " ++ sanitizeName c.simpleName ++ " \x7b"] ++
    (if c.id = e.classId then
      ["        <<\"" ++ escapeLabel (e.uri ++ "(" ++ e.verb.name ++ ")") ++ "\">>"]
    else []) ++
    (if implemented then ["        <<interface>>"] else []) ++
    (fresh [] (members.map MemberInfo.render)).map ("        " ++ ·) ++
    ["    \x7d"]

def arrowLines (c : ClassInfo) (targets : List (ClassRecord × List String)) : List String :=
  targets.map fun (target, labels) =>
    let arrow := "    " ++ sanitizeName c.simpleName ++ " --> " ++ sanitizeName target.simpleName
    if labels.isEmpty then arrow else arrow ++ " : " ++ escapeLabel (",<br>".intercalate labels)

/-- The classes with the given places. -/
def infos (p : ProjectData) (ids : List ClassId) : List ClassInfo :=
  ids.filterMap fun id => (p.registry.class? id).map fun c => ⟨id, c.fqn, c.simpleName⟩

/-- The diagram of an endpoint, whose class is known to be registered. -/
def build (p : ProjectData) (depth : Nat) (e : Endpoint) : Diagram :=
  let g := Graph.ofProject p
  let selected := g.reachable p.registry e.classId depth
  let classes := infos p selected
  let members (c : ClassInfo) := membersOf p selected c.id
  let targets (c : ClassInfo) := targetsOf p g selected c.id
  let lines := ["classDiagram"] ++
    classes.flatMap (fun c => blockLines e (isImplemented g selected c.id) (members c) c) ++
    classes.flatMap fun c => arrowLines c (targets c)
  { text := String.join (lines.map (· ++ "\n"))
    classes
    members := byKey (classes.map fun c => (c.fqn, members c))
    dependencies := byKey (classes.map fun c =>
      (c.fqn, byKey ((targets c).map fun (t, labels) => (t.fqn, labels))))
    paths := byKey (selected.filterMap fun id =>
      (p.registry.class? id).map fun c => (c.fqn, pathOf c)) }

/-- The diagram of an endpoint, as deep as given. -/
def ofEndpoint (p : ProjectData) (depth : Nat) (e : Endpoint) : Except Failure Diagram :=
  match p.registry.class? e.classId with
  | some _ => .ok (build p depth e)
  | none =>
    .error (.classNotFound ("class #" ++ Nat.repr e.classId ++ " of endpoint " ++ e.id.render))

end Diagram

end Cartograph
