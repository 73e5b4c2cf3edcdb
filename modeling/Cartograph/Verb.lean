import Cartograph.Failure
import Cartograph.Text.Blank
import Cartograph.Text.Dotted
import Cartograph.Text.Letter

/-!
# HTTP verbs
-/

namespace Cartograph

open Text

/-- The verb of a request. -/
inductive Verb
  | get
  | post
  | put
  | delete
  | patch
  | head
  | options
  | trace
deriving DecidableEq, Inhabited

namespace Verb

/-- Every verb, in the order of the numbers. -/
def all : List Verb := [.get, .post, .put, .delete, .patch, .head, .options, .trace]

/-- The verb as it stands in a request. -/
def name : Verb → String
  | .get => "GET"
  | .post => "POST"
  | .put => "PUT"
  | .delete => "DELETE"
  | .patch => "PATCH"
  | .head => "HEAD"
  | .options => "OPTIONS"
  | .trace => "TRACE"

/-- The number of the verb, counted from one. -/
def number (v : Verb) : Nat := all.findIdx (· == v) + 1

/-- Reads a verb in any case, alone or as the last segment of a dotted name. -/
def ofName (name : String) : Except Failure Verb :=
  let written := asciiLower (trim (simpleName name))
  match all.find? fun v => asciiLower v.name == written with
  | some v => .ok v
  | none => .error (.input (.unknownVerb name))

end Verb

end Cartograph
