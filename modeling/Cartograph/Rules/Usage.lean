import Cartograph.ClassView
import Cartograph.Rules.Tables

/-!
# Uses of calls and variables

The rule tables run over every declared variable and every call of the class.
-/

namespace Cartograph.Rules

open Text Java

/-- The last segment of the class name of a type, or the whole type as written. -/
def writtenName (t : WrittenType) : String :=
  match t.element.className? with
  | some name => Text.simpleName name
  | none => t.render

/-- What the table finds in the variables that a declaration declares. -/
def declaredVariables (d : Decl) : List Finding :=
  d.fields.flatMap (fun f => f.names.flatMap fun name =>
    onVariable variableRules ⟨.field, f.type.render, name⟩) ++
  (d.methods.flatMap (·.params) ++ d.constructors.flatMap (·.params)).flatMap fun p =>
    onVariable variableRules ⟨.parameter, p.type.render, p.name⟩

/-- The type of the variable that is the scope of a call, as written. -/
def scopeType? (vs : Variables) (call : Call) : Option String :=
  match call.scope with
  | some (.selector rooted [name]) =>
    (if rooted then vs.field? name else vs.lookup? name).map writtenName
  | _ => none

/-- What the table finds in the calls of a piece of code. -/
def calls (body : Body) (vs : Variables) : List Finding :=
  body.calls.flatMap fun call => onCall callRules ⟨call, scopeType? vs call⟩

/-- Uses of calls and variables. -/
def usage (v : ClassView) : List Finding :=
  v.declarations.flatMap fun d =>
    declaredVariables d ++ (d.bodies v.decl).flatMap fun (body, vs) => calls body vs

end Cartograph.Rules
