import Cartograph.Java.Grammar.Expression
import Cartograph.Proofs.Java.Preorder

/-!
# Collecting facts from syntax trees

The rules of the grammar find the facts of an expression while they read it. The same facts are
found by a walk over its syntax tree: the walk keeps a stack of nodes, notes what the kind of each
node tells, and passes over a field access that is the object of a call or of a further access. The
view of a chain of names comes from a loop down the objects.

An operand of the grammar stands for a node if it has its view and its facts. Names, field accesses,
calls and everything that tells nothing of its own stand for their nodes if their parts do, so what
the grammar finds is what the walk finds. How types are read from nodes is left open.
-/

namespace Cartograph.Java

open Text

/-- The kinds of nodes that are told apart. -/
inductive NodeKind
  | this
  | super
  | identifier
  | textLiteral
  | invocation
  | fieldAccess
  | scopedIdentifier
  | creation
  | localVariables
  | catchParameter
  | catchType
  | other
deriving DecidableEq

/-- What a node is to the node above it. -/
inductive Role
  | object
  | name
  | field
  | scope
  | arguments
  | type
  | declarator
  | other
deriving DecidableEq

/-- A node of a syntax tree with its source text. -/
inductive SyntaxNode
  | node (kind : NodeKind) (source : String) (children : List (Role × SyntaxNode))

namespace SyntaxNode

def kind : SyntaxNode → NodeKind
  | .node kind _ _ => kind

def source : SyntaxNode → String
  | .node _ source _ => source

def children : SyntaxNode → List (Role × SyntaxNode)
  | .node _ _ children => children

/-- The first child in the role. -/
def child? (n : SyntaxNode) (role : Role) : Option SyntaxNode := n.children.lookup role

/-! ### Chains of names -/

lemma sizeOf_lt_of_child? {n child : SyntaxNode} {role : Role} (h : n.child? role = some child) :
    sizeOf child < sizeOf n := by
  cases n with
  | node kind source children =>
    obtain ⟨before, after, hsplit, -⟩ := List.lookup_eq_some_iff.mp h
    have hmem : (role, child) ∈ children := by
      rw [show children = before ++ (role, child) :: after from hsplit]
      exact List.mem_append_right _ List.mem_cons_self
    have hlt := List.sizeOf_lt_of_mem hmem
    simp only [Prod.mk.sizeOf_spec, node.sizeOf_spec] at hlt ⊢
    omega

/-- The name behind a dot and the node before the dot, which are the children in two roles. -/
def dotted? (n : SyntaxNode) (last first : Role) : Option (String × SyntaxNode) :=
  (n.child? last).bind fun name => (n.child? first).map fun object => (name.source, object)

/-- The last name of a chain, and what it is selected from. -/
def selected? (n : SyntaxNode) : Option (String × SyntaxNode) :=
  match n.kind with
  | .fieldAccess => n.dotted? .field .object
  | .scopedIdentifier => n.dotted? .name .scope
  | _ => none

variable {n object : SyntaxNode} {name : String}

lemma sizeOf_lt_of_dotted? {last first : Role} (h : n.dotted? last first = some (name, object)) :
    sizeOf object < sizeOf n := by
  obtain ⟨_, _, hfirst⟩ := Option.bind_eq_some_iff.mp h
  obtain ⟨child, hchild, heq⟩ := Option.map_eq_some_iff.mp hfirst
  obtain rfl := congrArg Prod.snd heq
  exact sizeOf_lt_of_child? hchild

lemma sizeOf_lt_of_selected? (h : n.selected? = some (name, object)) :
    sizeOf object < sizeOf n := by
  unfold selected? at h
  split at h
  · exact sizeOf_lt_of_dotted? h
  · exact sizeOf_lt_of_dotted? h
  · cases h

/-- The loop down the objects, with the names after the node; there is no result if it ends at
something that is neither a name nor `this`. -/
def selectorFrom? (names : List String) (n : SyntaxNode) : Option Expr :=
  match n.kind with
  | .identifier => some (.selector false (n.source :: names))
  | .this => some (.selector true names)
  | _ =>
    match _h : n.selected? with
    | some (name, object) => selectorFrom? (name :: names) object
    | none => none
termination_by sizeOf n
decreasing_by exact sizeOf_lt_of_selected? _h

/-- The expression that the node is as a scope or an argument. -/
def view (n : SyntaxNode) : Expr :=
  match n.kind with
  | .this => .this
  | .super => .super
  | .identifier => .name n.source
  | .textLiteral => .text (Token.unquote n.source)
  | .invocation => .call (((n.child? .name).map source).getD "") n.source
  | .fieldAccess | .scopedIdentifier => (n.selectorFrom? []).getD (.other n.source)
  | _ => .other n.source

def args (n : SyntaxNode) : List Expr :=
  match n.child? .arguments with
  | some list => list.children.map fun child => child.2.view
  | none => []

def call? (n : SyntaxNode) : Option Call :=
  (n.child? .name).map fun name => ⟨(n.child? .object).map view, name.source, n.args⟩

def access? (n : SyntaxNode) : Option Access :=
  (n.dotted? .field .object).map fun (field, object) => ⟨object.view, field⟩

lemma selectorFrom?_of_selected? (h : n.selected? = some (name, object)) (names : List String) :
    n.selectorFrom? names = object.selectorFrom? (name :: names) := by
  rw [selectorFrom?]
  split
  · simp_all [selected?]
  · simp_all [selected?]
  · split <;> simp_all

lemma selectorFrom?_eq_none {names : List String} (h : n.selected? = none)
    (hname : n.kind ≠ .identifier) (hthis : n.kind ≠ .this) : n.selectorFrom? names = none := by
  rw [selectorFrom?]
  split
  · contradiction
  · contradiction
  · split <;> simp_all

lemma view_of_selected? (h : n.selected? = some (name, object)) :
    n.view = (n.selectorFrom? []).getD (.other n.source) := by
  unfold selected? at h
  unfold view
  split at h <;> simp_all

/-- The loop adds the names after the node to the view of the node. -/
lemma selectorFrom?_eq (n : SyntaxNode) (names : List String) :
    n.selectorFrom? names = match n.view with
      | .selector rooted segments => some (.selector rooted (segments ++ names))
      | .this => some (.selector true names)
      | _ => none := by
  cases hselected : n.selected? with
  | none =>
    by_cases hname : n.kind = .identifier
    · simp [selectorFrom?, view, hname, Expr.name]
    · by_cases hthis : n.kind = .this
      · simp [selectorFrom?, view, hthis]
      · rw [selectorFrom?_eq_none hselected hname hthis]
        cases hkind : n.kind <;> simp_all [view, selectorFrom?_eq_none]
  | some selected =>
    obtain ⟨name, object⟩ := selected
    rw [view_of_selected? hselected, selectorFrom?_of_selected? hselected,
      selectorFrom?_of_selected? hselected, selectorFrom?_eq object (name :: names),
      selectorFrom?_eq object [name]]
    cases object.view <;> simp
termination_by sizeOf n
decreasing_by all_goals exact sizeOf_lt_of_selected? hselected

end SyntaxNode

/-! ### The walk -/

/-- How types are read from the nodes of types, and from those of lists of types. -/
structure TypeReader where
  type : SyntaxNode → WrittenType
  types : SyntaxNode → List WrittenType

/-- A node where it stands: with the kind of the node above it and its role there. -/
structure Occurrence where
  above : Option (NodeKind × Role)
  node : SyntaxNode

namespace Occurrence

def children (p : Occurrence) : List Occurrence :=
  p.node.children.map fun child => ⟨some (p.node.kind, child.1), child.2⟩

/-- Whether the node is the object of a call or of an access. -/
def isObject (p : Occurrence) : Bool :=
  p.above == some (.invocation, .object) || p.above == some (.fieldAccess, .object)

/-- The facts that the node itself tells. -/
def ownFacts (reader : TypeReader) (p : Occurrence) : List Fact :=
  match p.node.kind with
  | .invocation => (p.node.call?.map Fact.call).toList
  | .creation =>
    ((p.node.child? .type).map fun t => .creation ⟨reader.type t, p.node.args⟩).toList
  | .fieldAccess => if p.isObject then [] else (p.node.access?.map Fact.access).toList
  | .localVariables =>
    match p.node.child? .type with
    | some t =>
      if (reader.type t).className? = some "var" then []
      else
        let declarators := p.node.children.filter (·.1 == .declarator)
        let names := declarators.filterMap fun d => (d.2.child? .name).map (·.source)
        [.localVar ⟨reader.type t, names⟩]
    | none => []
  | .catchParameter =>
    match p.node.children.find? (·.2.kind == .catchType) with
    | some caught => (reader.types caught.2).map Fact.caught
    | none => []
  | _ => []

end Occurrence

mutual

/-- The node and all nodes below it, each where it stands, outer before inner, left to right. -/
def SyntaxNode.occurrences (above : Option (NodeKind × Role)) : SyntaxNode → List Occurrence
  | .node kind source children =>
    ⟨above, .node kind source children⟩ :: SyntaxNode.occurrencesIn kind children

/-- The children of a node of the kind and all nodes below them. -/
def SyntaxNode.occurrencesIn (kind : NodeKind) : List (Role × SyntaxNode) → List Occurrence
  | [] => []
  | (role, n) :: children => n.occurrences (some (kind, role)) ++ occurrencesIn kind children

end

namespace Occurrence

variable {reader : TypeReader}

/-- The node and all nodes below it. -/
def occurrences (p : Occurrence) : List Occurrence := p.node.occurrences p.above

lemma occurrencesIn_eq_flatMap (kind : NodeKind) (children : List (Role × SyntaxNode)) :
    SyntaxNode.occurrencesIn kind children =
      (children.map fun child => ⟨some (kind, child.1), child.2⟩).flatMap occurrences := by
  induction children with
  | nil => rfl
  | cons child children ih =>
    rw [SyntaxNode.occurrencesIn, ih, List.map_cons, List.flatMap_cons]
    rfl

lemma occurrences_eq (p : Occurrence) : p.occurrences = p :: p.children.flatMap occurrences := by
  obtain ⟨above, kind, source, children⟩ := p
  rw [occurrences, SyntaxNode.occurrences, occurrencesIn_eq_flatMap]
  rfl

/-- The walk ends from every node, and has then visited it and all below it. -/
lemma ends_iff (p : Occurrence) {visited : List Occurrence} :
    (Walk.start [p]).Ends children visited ↔ visited = p.occurrences := by
  have hends : (Walk.start [p]).Ends children visited ↔ visited = [p].flatMap occurrences :=
    Walk.ends_iff occurrences_eq [p]
  rw [hends, List.flatMap_singleton]

/-- The facts that a walk from the node finds. -/
def collect (reader : TypeReader) (p : Occurrence) : List Fact :=
  p.occurrences.flatMap (ownFacts reader)

lemma collect_node (above : Option (NodeKind × Role)) (kind : NodeKind) (source : String)
    (children : List (Role × SyntaxNode)) :
    collect reader ⟨above, .node kind source children⟩ =
      ownFacts reader ⟨above, .node kind source children⟩ ++
        children.flatMap fun child => collect reader ⟨some (kind, child.1), child.2⟩ := by
  rw [collect, occurrences_eq, List.flatMap_cons, List.flatMap_assoc, Occurrence.children,
    List.flatMap_map]
  rfl

end Occurrence

/-! ### Operands as nodes -/

/-- The operand has the view of the node, and its facts are those that a walk finds from the node:
without the access that the node itself makes where it is the object of a call or an access. -/
structure StandsFor (reader : TypeReader) (o : Rule.Operand) (n : SyntaxNode) : Prop where
  view : n.view = o.view
  collect : ∀ above, Occurrence.collect reader ⟨above, n⟩ =
    if Occurrence.isObject ⟨above, n⟩ then o.inner else o.facts

namespace SyntaxNode

def ofName (name : String) : SyntaxNode := .node .identifier name []

/-- A field of what the node is. -/
def fieldOf (n : SyntaxNode) (name text : String) : SyntaxNode :=
  .node .fieldAccess text [(.object, n), (.field, .ofName name)]

/-- A node that tells nothing of its own. -/
def group (text : String) (nodes : List SyntaxNode) : SyntaxNode :=
  .node .other text (nodes.map fun n => (.other, n))

/-- A call on what the node is, or on nothing. -/
def callOn (scope : Option SyntaxNode) (name text : String) (arguments : SyntaxNode) :
    SyntaxNode :=
  .node .invocation text
    (scope.toList.map (fun n => (.object, n)) ++ [(.name, .ofName name), (.arguments, arguments)])

end SyntaxNode

section

variable {reader : TypeReader} {o : Rule.Operand} {n : SyntaxNode}
variable {operands : List Rule.Operand} {nodes : List SyntaxNode}

lemma StandsFor.collect_object (h : StandsFor reader o n) {kind : NodeKind}
    (hkind : kind = .invocation ∨ kind = .fieldAccess) :
    Occurrence.collect reader ⟨some (kind, .object), n⟩ = o.inner := by
  rw [h.collect, if_pos]
  rcases hkind with rfl | rfl <;> rfl

/-- Where no node is an object, the facts of the nodes are all facts of the operands. -/
lemma flatMap_collect (h : List.Forall₂ (StandsFor reader) operands nodes) (kind : NodeKind)
    {role : Role} (hrole : role ≠ .object) :
    nodes.flatMap (fun n => Occurrence.collect reader ⟨some (kind, role), n⟩) =
      operands.flatMap Rule.Operand.facts := by
  induction h with
  | nil => rfl
  | cons hfirst _ ih =>
    rw [List.flatMap_cons, List.flatMap_cons, ih, hfirst.collect,
      if_neg (by simp [Occurrence.isObject, hrole])]

lemma standsFor_of_access_nil (haccess : o.access = []) (hview : n.view = o.view)
    (hcollect : ∀ above, Occurrence.collect reader ⟨above, n⟩ = o.inner) :
    StandsFor reader o n := by
  refine ⟨hview, fun above => ?_⟩
  rw [hcollect, Rule.Operand.facts, haccess, List.nil_append, ite_self]

lemma standsFor_this (source : String) :
    StandsFor reader { view := .this } (.node .this source []) :=
  standsFor_of_access_nil rfl rfl fun _ => Occurrence.collect_node ..

lemma collect_ofName (above : Option (NodeKind × Role)) (name : String) :
    Occurrence.collect reader ⟨above, .ofName name⟩ = [] := Occurrence.collect_node ..

lemma standsFor_name (name : String) :
    StandsFor reader { view := .name name, isTarget := true } (.ofName name) :=
  standsFor_of_access_nil rfl rfl fun above => collect_ofName above name

lemma collect_group (h : List.Forall₂ (StandsFor reader) operands nodes)
    (above : Option (NodeKind × Role)) (text : String) :
    Occurrence.collect reader ⟨above, .group text nodes⟩ = operands.flatMap Rule.Operand.facts := by
  rw [SyntaxNode.group, Occurrence.collect_node, List.flatMap_map, flatMap_collect h _ (by decide)]
  rfl

/-- What tells nothing of its own has the facts of its parts. -/
lemma standsFor_group (h : List.Forall₂ (StandsFor reader) operands nodes) (text : String) :
    StandsFor reader { view := .other text, inner := operands.flatMap Rule.Operand.facts }
      (.group text nodes) :=
  standsFor_of_access_nil rfl rfl fun above => collect_group h above text

/-- The view of a field goes on from the view of its object, and the access is not counted where
the field is an object itself. -/
lemma StandsFor.field (h : StandsFor reader o n) (name text : String) :
    StandsFor reader (o.field name text) (n.fieldOf name text) := by
  have hselected : (n.fieldOf name text).selected? = some (name, n) := rfl
  refine ⟨?_, fun above => ?_⟩
  · rw [SyntaxNode.view_of_selected? hselected, SyntaxNode.selectorFrom?_of_selected? hselected,
      SyntaxNode.selectorFrom?_eq, h.view, Rule.Operand.field]
    cases o.view <;> rfl
  · have hown : Occurrence.ownFacts reader ⟨above, n.fieldOf name text⟩ =
        if Occurrence.isObject ⟨above, n.fieldOf name text⟩ then []
        else [.access ⟨o.view, name⟩] := by
      rw [← h.view]
      rfl
    rw [SyntaxNode.fieldOf] at hown ⊢
    rw [Occurrence.collect_node, hown, List.flatMap_cons, List.flatMap_cons, List.flatMap_nil,
      h.collect_object (.inr rfl), collect_ofName, List.append_nil, List.append_nil]
    split <;> rfl

lemma call?_callOn (object : Option SyntaxNode) (name text list : String)
    (nodes : List SyntaxNode) :
    (SyntaxNode.callOn object name text (.group list nodes)).call? =
      some ⟨object.map (·.view), name, nodes.map (·.view)⟩ := by
  have hargs : ((SyntaxNode.group list nodes).children.map fun child => child.2.view) =
      nodes.map (·.view) := List.map_map
  rw [← hargs]
  cases object <;> rfl

lemma map_view_eq (h : List.Forall₂ (StandsFor reader) operands nodes) :
    nodes.map (·.view) = operands.map (·.view) := by
  induction h with
  | nil => rfl
  | cons hfirst _ ih => rw [List.map_cons, List.map_cons, hfirst.view, ih]

/-- A call tells of itself before the facts of its scope and of its arguments. -/
lemma standsFor_call {scope : Option Rule.Operand} {object : Option SyntaxNode}
    (hscope : Option.Rel (StandsFor reader) scope object)
    (h : List.Forall₂ (StandsFor reader) operands nodes) (name text list : String) :
    StandsFor reader
      (.call scope name text (operands.map (·.view)) (operands.flatMap Rule.Operand.facts))
      (.callOn object name text (.group list nodes)) := by
  have hview : object.map (·.view) = scope.map (·.view) := by
    cases hscope with
    | none => rfl
    | some hobject => exact congrArg some hobject.view
  have hinner : (object.toList.flatMap fun n =>
      Occurrence.collect reader ⟨some (.invocation, .object), n⟩) = scope.elim [] (·.inner) := by
    cases hscope with
    | none => rfl
    | some hobject => exact (List.append_nil _).trans (hobject.collect_object (.inl rfl))
  refine standsFor_of_access_nil rfl ?_ fun above => ?_
  · cases object <;> rfl
  · have hown : Occurrence.ownFacts reader ⟨above, .callOn object name text (.group list nodes)⟩ =
        [.call ⟨scope.map (·.view), name, operands.map (·.view)⟩] := by
      rw [← hview, ← map_view_eq h]
      exact congrArg (fun call => (call.map Fact.call).toList)
        (call?_callOn object name text list nodes)
    rw [SyntaxNode.callOn] at hown ⊢
    rw [Occurrence.collect_node, hown, List.flatMap_append, List.flatMap_map, hinner,
      List.flatMap_cons, List.flatMap_cons, List.flatMap_nil, collect_ofName, collect_group h,
      List.append_nil]
    rfl

end

end Cartograph.Java
