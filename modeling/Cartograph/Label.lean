import Cartograph.Member

/-!
# Names and labels in diagrams

Texts that come from sources are brought into a form that cannot break a diagram: names have only
letters, digits and single underscores, and labels stay on their line.
-/

namespace Cartograph

open Text Java

/-- A character that a name may contain. -/
def isNameChar (c : Char) : Bool := c.isAlphanum || c == '_'

/-- The characters without underscores at both ends. -/
def trimUnderscores (cs : List Char) : List Char :=
  ((cs.dropWhile (· == '_')).reverse.dropWhile (· == '_')).reverse

/-- The name with an underscore for each run of other characters, and none at its ends. -/
def sanitizeName (name : String) : String :=
  let cs := name.toList.map fun c => if isNameChar c then c else '_'
  let trimmed := trimUnderscores (squeeze '_' false cs)
  if trimmed.isEmpty then "Unknown" else String.ofList trimmed

/-- The label on one line, with its bars escaped and without blanks at its ends. -/
def escapeLabel (label : String) : String :=
  trim (String.ofList (label.toList.flatMap fun c =>
    if c = '|' then ['\\', '|'] else if c = '\n' ∨ c = '\r' then [' '] else [c]))

/-- A member as it is shown. -/
structure MemberInfo where
  name : String
  typeName : Option String
  visibility : Visibility
  kind : MemberKind
deriving DecidableEq, Inhabited

def visibilitySign : Visibility → String
  | .publicAccess => "+"
  | .protectedAccess => "#"
  | .privateAccess => "-"
  | .packageAccess => "~"

def MemberInfo.render (m : MemberInfo) : String :=
  let call := if m.kind = .field then "" else "()"
  let type := match m.typeName with
    | some t => if t = "" then "" else " : " ++ sanitizeName (simpleName t)
    | none => ""
  visibilitySign m.visibility ++ sanitizeName m.name ++ call ++ type

end Cartograph
