import Cartograph.ClassView
import Cartograph.Finding
import Cartograph.Rules.Names

/-!
# Type structure

Dependencies that the types of a class show: what it extends and implements, the types of its
signatures, fields and local variables, and the receivers of the calls in its code.
-/

namespace Cartograph.Rules

open Text Java

/-- Every class type nested in the type arguments. -/
def generics (v : ClassView) (kind : Kind) (t : WrittenType) : List Finding :=
  t.nestedArguments.flatMap fun a => emitType (v.resolveType? a.element) kind

/-- A type in a given place, with the types nested in its arguments. -/
def mentionedType (v : ClassView) (kind : Kind) (t : WrittenType) : List Finding :=
  emitType (v.resolveType? t.element) kind ++ generics v .genericArgument t

/-- The bounds of the type parameters of a declaration and of its methods. -/
def bounds (v : ClassView) (d : Decl) : List Finding :=
  (d.typeParams ++ d.methods.flatMap (·.typeParams)).flatMap fun p =>
    p.bounds.flatMap fun t =>
      emitType (v.resolveType? t) .typeParameterBound ++ generics v .genericArgument t

def exceptions (v : ClassView) (types : List WrittenType) : List Finding :=
  types.flatMap fun t => emitType (v.resolveType? t) .exceptionType

def parameters (v : ClassView) (params : List Param) : List Finding :=
  params.flatMap fun p => mentionedType v .parameterType p.type

def signatures (v : ClassView) (d : Decl) : List Finding :=
  d.methods.flatMap (fun m =>
    exceptions v m.throws ++ mentionedType v .returnType m.returns ++ parameters v m.params) ++
  d.constructors.flatMap fun c => exceptions v c.throws ++ parameters v c.params

/-- The type of a field: an array counts by its elements, a collection with its elements. -/
def fieldType (v : ClassView) (t : WrittenType) : List Finding :=
  if t.isArray then emitType (v.resolveType? t.element) .arrayElement
  else
    let isCollection := match t.className? with
      | some name => collectionTypes.contains (Text.simpleName name)
      | none => false
    emitType (v.resolveType? t) .composition ++
      generics v (if isCollection then .collectionElement else .genericArgument) t

def fields (v : ClassView) (d : Decl) : List Finding :=
  d.fields.flatMap (fun f => fieldType v f.type) ++ d.components.flatMap fun c => fieldType v c.type

/-- A resolved type, unless it is the class itself. -/
def emitOther (v : ClassView) (resolved : Option String) (kind : Kind) : List Finding :=
  emitType (resolved.filter fun name => !v.isSelf name) kind

/-- A call: on a variable it goes to the type of the variable, on a type it is a static call. The
type behind a longer chain from a variable is not known. -/
def invocation (v : ClassView) (vs : Variables) (call : Call) : List Finding :=
  match call.scope with
  | some (.selector rooted (head :: rest)) =>
    match if rooted then vs.field? head else vs.lookup? head with
    | some t => if rest.isEmpty then emitOther v (v.resolveType? t.element) .methodCall else []
    | none => if rooted then [] else emitOther v (v.resolvePath? (head :: rest)) .staticCall
  | _ => []

/-- An access to an upper-case field of a type. -/
def constantAccess (v : ClassView) (vs : Variables) (access : Access) : List Finding :=
  match access.scope with
  | .selector false segments =>
    let onVariable := segments.head?.any fun head => (vs.lookup? head).isSome
    if startsUpper access.field && !onVariable then
      emitOther v (v.resolvePath? segments) .constantReference
    else []
  | _ => []

def code (v : ClassView) (body : Body) (vs : Variables) : List Finding :=
  body.locals.flatMap (fun l => mentionedType v .localVariable l.type) ++
    body.creations.flatMap (fun c => emitType (v.resolveType? c.type.element) .objectCreation) ++
    exceptions v body.catches ++
    body.calls.flatMap (invocation v vs) ++
    body.accesses.flatMap (constantAccess v vs)

def typeStructure (v : ClassView) : List Finding :=
  v.decl.superTypes.flatMap (fun t => emitType (v.resolveType? t) .extending) ++
    v.decl.interfaces.flatMap (fun t => emitType (v.resolveType? t) .implementing) ++
    v.declarations.flatMap fun d =>
      bounds v d ++ signatures v d ++ fields v d ++
        (d.bodies v.decl).flatMap fun (body, vs) => code v body vs

end Cartograph.Rules
