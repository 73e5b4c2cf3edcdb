import Cartograph.Java.Type

/-!
# Facts about code

What is kept of executable code: method calls, object creations, field accesses, local variables and
caught exceptions, each in source order. Scopes and arguments are seen through `Expr`, which keeps
names and texts and takes everything else as source text.
-/

namespace Cartograph.Java

open Text

/-- An expression in the place of a scope or an argument. -/
inductive Expr
  | this
  | super
  /-- A chain of identifiers; `rooted` when it starts at `this`. -/
  | selector (rooted : Bool) (segments : List String)
  | text (s : String)
  /-- The result of a call, with the whole source text of the call. -/
  | call (name source : String)
  | other (source : String)
deriving DecidableEq, Inhabited

namespace Expr

/-- A single identifier. -/
def name (name : String) : Expr := .selector false [name]

/-- The expression as text; a text literal without its quotes. -/
def render : Expr → String
  | .this => "this"
  | .super => "super"
  | .selector rooted segments =>
    if rooted then "this." ++ ".".intercalate segments else ".".intercalate segments
  | .text s => s
  | .call _ source => source
  | .other source => source

def text? : Expr → Option String
  | .text s => some s
  | _ => none

end Expr

/-- A method call. -/
structure Call where
  scope : Option Expr
  name : String
  args : List Expr
deriving Inhabited

/-- An object creation. -/
structure Creation where
  type : WrittenType
  args : List Expr
deriving Inhabited

/-- A field access that is not itself the scope of a call or of another access. -/
structure Access where
  scope : Expr
  field : String
deriving Inhabited

/-- A declaration of local variables. -/
structure LocalVar where
  type : WrittenType
  names : List String
deriving Inhabited

/-- The first text literal among the arguments. -/
def firstText? (args : List Expr) : Option String :=
  args.findSome? Expr.text?

def Call.scopeText? (c : Call) : Option String := c.scope.map Expr.render

/-- One fact about code. -/
inductive Fact
  | call (c : Call)
  | creation (c : Creation)
  | access (a : Access)
  | localVar (v : LocalVar)
  | caught (type : WrittenType)
deriving Inhabited

/-- The facts of a piece of code by kind, each kind in source order. -/
structure Body where
  calls : List Call := []
  creations : List Creation := []
  accesses : List Access := []
  locals : List LocalVar := []
  catches : List WrittenType := []
deriving Inhabited

namespace Body

/-- Facts in source order, sorted by kind. -/
def ofFacts (facts : List Fact) : Body where
  calls := facts.filterMap fun | .call c => some c | _ => none
  creations := facts.filterMap fun | .creation c => some c | _ => none
  accesses := facts.filterMap fun | .access a => some a | _ => none
  locals := facts.filterMap fun | .localVar v => some v | _ => none
  catches := facts.filterMap fun | .caught t => some t | _ => none

/-- Whether there is no fact of any kind. -/
def isEmpty (b : Body) : Bool :=
  b.calls.isEmpty && b.creations.isEmpty && b.accesses.isEmpty && b.locals.isEmpty &&
    b.catches.isEmpty

end Body

end Cartograph.Java
