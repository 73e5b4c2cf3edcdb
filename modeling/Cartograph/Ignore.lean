import Cartograph.FileTree
import Cartograph.Ignore.Glob
import Cartograph.Text.Blank

/-!
# Ignored files

Files in the directories say which files a walk passes over. A rule is a line with a wildcard; the
last rule of a file that applies decides, and a rule that begins with an exclamation mark takes back
an earlier one. Of several such files of one kind, the one in the nearest directory decides; of
several kinds, the kind named first in `RuleSet`.
-/

namespace Cartograph.Ignore

open Text

/-! ### Rules -/

/-- A rule. -/
structure Rule where
  glob : Glob
  /-- The rule keeps what it matches. -/
  keeps : Bool
  onlyDirectories : Bool

/-- What the rules say about a path. -/
inductive Verdict
  | ignored
  | kept
deriving DecidableEq

/-- A line without the mark that it keeps what it matches, and without the slash that ties it to the
directory of its file. -/
def marks (cs : List Char) : (Bool × Bool) × List Char :=
  match cs with
  | '\\' :: '!' :: rest => ((false, false), '!' :: rest)
  | '\\' :: '#' :: rest => ((false, false), '#' :: rest)
  | '!' :: '/' :: rest => ((true, true), rest)
  | '!' :: rest => ((true, false), rest)
  | '/' :: rest => ((false, true), rest)
  | _ => ((false, false), cs)

/-- A line without the slash at its end, and whether it has one. -/
def directoryMark (cs : List Char) : Bool × List Char :=
  match cs.reverse with
  | '/' :: '\\' :: rest => (true, rest.reverse)
  | '/' :: rest => (true, rest.reverse)
  | _ => (false, cs)

/-- The wildcard for whole paths that a line without marks means: without a slash it applies to
names in every directory. -/
def wholePath (isTied : Bool) (cs : List Char) : List Char :=
  let anywhere := !isTied && !cs.contains '/' && cs != ['*', '*']
  let cs := if anywhere then '*' :: '*' :: '/' :: cs else cs
  if ['/', '*', '*'].isSuffixOf cs then cs ++ ['/', '*'] else cs

/-- The rule in a line; comments and empty lines have none, nor have malformed wildcards. -/
def Rule.ofLine? (line : String) : Option Rule :=
  let cs := line.toList
  if cs.head? = some '#' then none
  else
    let cs := if ['\\', ' '].isSuffixOf cs then cs else trimEndChars cs
    if cs = [] then none
    else
      let ((keeps, isTied), cs) := marks cs
      let (onlyDirectories, cs) := directoryMark cs
      (Glob.ofChars? (wholePath isTied cs)).map fun glob => { glob, keeps, onlyDirectories }

def Rule.applies (r : Rule) (path : String) (isDirectory : Bool) : Bool :=
  (isDirectory || !r.onlyDirectories) && r.glob.accepts path

/-- What the rules say about a path: the last one that applies decides. -/
def verdict? (rules : List Rule) (path : String) (isDirectory : Bool) : Option Verdict :=
  (rules.reverse.find? fun r => r.applies path isDirectory).map fun r =>
    if r.keeps then .kept else .ignored

/-! ### Files of rules -/

def byteLines : List UInt8 → List (List UInt8)
  | [] => []
  | b :: bs =>
    if b = 10 then [] :: byteLines bs
    else
      match byteLines bs with
      | [] => [[b]]
      | l :: ls => (b :: l) :: ls

/-- The lines up to the first one that is not text. -/
def textLines : List (List UInt8) → List String
  | [] => []
  | l :: ls =>
    match Utf8.decode l with
    | .ok s => (beforeEnd? "\r" s).getD s :: textLines ls
    | .error _ => []

/-- The rules in the content of a file; a byte order mark before them does not count. -/
def rulesOf (content : ByteArray) : List Rule :=
  match textLines (byteLines content.toList) with
  | [] => []
  | l :: ls =>
    (String.ofList (l.toList.dropWhile (· == Char.ofNat 0xFEFF)) :: ls).filterMap Rule.ofLine?

/-- The rules in a file below a directory; without the file there are none. -/
def rulesAt (t : FileTree) (path : List String) : List Rule :=
  match t.at? path with
  | some (.file (.ok content)) => rulesOf content
  | _ => []

/-- The rules that a directory gives for what is below it. -/
structure RuleSet where
  /-- How many parts lead to the directory. -/
  depth : Nat
  /-- Rules for this analysis only. -/
  own : List Rule
  /-- Rules for all tools. -/
  general : List Rule
  /-- Rules for version control, and those kept with the repository. -/
  versioned : List Rule
  repository : List Rule
  /-- The directory is the top of a repository. -/
  isRepository : Bool

/-- The paths of the files of rules below a directory. -/
def ruleFiles : List (List String) :=
  [[".atlasignore"], [".ignore"], [".gitignore"], [".git", "info", "exclude"]]

/-- The rules that a directory gives; those for version control only if they are asked for. -/
def RuleSet.ofDirectory (withVersioned : Bool) (depth : Nat) (t : FileTree) : RuleSet where
  depth
  own := rulesAt t [".atlasignore"]
  general := rulesAt t [".ignore"]
  versioned := if withVersioned then rulesAt t [".gitignore"] else []
  repository := if withVersioned then rulesAt t [".git", "info", "exclude"] else []
  isRepository := (t.at? [".git"]).isSome

/-- The rule sets up to the first one of a repository; none if there is no repository. -/
def inRepository : List RuleSet → List RuleSet
  | [] => []
  | s :: sets =>
    if s.isRepository then [s]
    else
      match inRepository sets with
      | [] => []
      | found => s :: found

/-- Whether a path is passed over, given the rule sets of the directories above it, the nearest one
first. -/
def isIgnored (sets : List RuleSet) (path : List String) (isDirectory : Bool) : Bool :=
  let ask (sets : List RuleSet) (rules : RuleSet → List Rule) : Option Verdict :=
    sets.findSome? fun s => verdict? (rules s) ("/".intercalate (path.drop s.depth)) isDirectory
  let repository := inRepository sets
  let verdict := (ask sets (·.own)).or ((ask sets (·.general)).or
    ((ask repository (·.versioned)).or (ask repository (·.repository))))
  verdict == some .ignored

end Cartograph.Ignore
