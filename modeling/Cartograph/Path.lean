import Cartograph.Text.Dotted

/-!
# Paths

Paths are texts with `/` between their parts. Repeated separators and `.` parts do not count when
paths are compared, and joining an absolute path replaces what stands before it.
-/

namespace Cartograph.Path

open Text

/-- The part does not count when paths are compared. -/
def isFiller (part : String) : Bool := part == "" || part == "."

/-- The path begins at the root. -/
def isAbsolute (path : String) : Bool := path.startsWith "/"

/-- The parts that count, the root as `/`; a `.` counts only at the beginning of a relative path. -/
def components (path : String) : List String :=
  match pieces '/' path with
  | [] => []
  | first :: rest =>
    let start := if isAbsolute path then ["/"] else if first == "" then [] else [first]
    start ++ rest.filter fun p => !isFiller p

/-- The parts come before the others, or are the same: the first part that differs decides, and a
beginning comes before the whole. -/
def inOrder : List String → List String → Bool
  | [], _ => true
  | _ :: _, [] => false
  | a :: as, b :: bs => decide (a < b) || a == b && inOrder as bs

/-- The two paths have the same parts. -/
def same (a b : String) : Bool := components a == components b

/-- The second path seen from the first. -/
def join (base path : String) : String :=
  if isAbsolute path || base.isEmpty then path
  else if base.endsWith "/" then base ++ path
  else base ++ "/" ++ path

/-- The parts after the given ones, fillers passed over. -/
def afterParts? : List String → List String → Option (List String)
  | [], parts => some parts
  | _ :: _, [] => none
  | r :: rs, p :: ps =>
    if isFiller p then afterParts? (r :: rs) ps
    else if p = r then afterParts? rs ps
    else none

/-- The parts without the fillers at their end. -/
def dropFillers (parts : List String) : List String :=
  (parts.reverse.dropWhile isFiller).reverse

/-- What remains of a path below a root; `none` when it does not lie below it. -/
def relativeTo? (root path : String) : Option String :=
  let parts := pieces '/' path
  match components root with
  | [] =>
    some ("/".intercalate
      (if isAbsolute path then "" :: dropFillers (parts.drop 1) else dropFillers parts))
  | first :: rest =>
    let below (rs ps : List String) : Option String :=
      (afterParts? rs ps).map fun ps => "/".intercalate (dropFillers (ps.dropWhile isFiller))
    if first = "/" then if isAbsolute path then below rest parts else none
    else if isAbsolute path then none
    else if first = "." then
      if parts.head? = some "." then below rest (parts.drop 1) else none
    else if parts.head? = some "." then none
    else below (first :: rest) parts

/-- The last part of a path, unless it leads upwards. -/
def fileName? (path : String) : Option String :=
  match (components path).getLast? with
  | some p => if p = "/" ∨ p = "." ∨ p = ".." then none else some p
  | none => none

/-- The path ends with the name of its file, without a separator or a `.` behind it. -/
def endsInName (path : String) : Bool := (pieces '/' path).getLast? == fileName? path

/-- What follows the last dot of a file name; a name that only begins with a dot has none. -/
def extension? (path : String) : Option String := do
  let name ← fileName? path
  let cs := name.toList
  if '.' ∈ cs.drop 1 then some (simpleName name) else none

/-- The path without its last part. -/
def parent? (path : String) : Option String :=
  match components path with
  | [] => none
  | ["/"] => none
  | cs =>
    let rest := cs.dropLast
    if rest.head? = some "/" then some ("/" ++ "/".intercalate (rest.drop 1))
    else some ("/".intercalate rest)

end Cartograph.Path
