import Cartograph.Failure
import Cartograph.Path
import Cartograph.Text.Utf8

/-!
# File trees

Directories and files, and the paths that lead to them. There are no links, so what lies below a
directory is always a tree. A `Disk` is such a tree with the directory in which relative paths begin.
-/

namespace Cartograph

open Text

/-- A file, whose content may be out of reach, or a directory with its entries. -/
inductive FileTree
  | file (content : Except IoFault ByteArray)
  | directory (entries : List (String × FileTree))

namespace FileTree

instance : Inhabited FileTree := ⟨.directory []⟩

def isDirectory : FileTree → Bool
  | .directory _ => true
  | .file _ => false

/-- The entries of a directory; a file has none. -/
def entries : FileTree → List (String × FileTree)
  | .directory es => es
  | .file _ => []

/-- What the parts lead to. -/
def at? (t : FileTree) : List String → Option FileTree
  | [] => some t
  | p :: ps => (t.entries.lookup p).bind fun child => child.at? ps

/-- The parts of what a path leads to. The parts still to follow are those of the path; `here` are
the parts that lead to where they start, the last one first. -/
def follow (t : FileTree) (here : List String) : List String → Except IoFault (List String)
  | [] => .ok here.reverse
  | p :: ps =>
    match t.at? here.reverse with
    | some (.directory es) =>
      if Path.isFiller p then t.follow here ps
      else if p = ".." then t.follow here.tail ps
      else if (es.lookup p).isSome then t.follow (p :: here) ps
      else .error .notFound
    | _ => .error .notDirectory

def setEntry (name : String) (child : FileTree) :
    List (String × FileTree) → List (String × FileTree)
  | [] => [(name, child)]
  | (n, t) :: es => if n = name then (n, child) :: es else (n, t) :: setEntry name child es

/-- The tree with something at the parts, and with directories above it. -/
def put (t : FileTree) : List String → FileTree → FileTree
  | [], node => node
  | p :: ps, node =>
    .directory (setEntry p (((t.entries.lookup p).getD default).put ps node) t.entries)

/-- The tree with the directories of a path, as far as there are none; as in `follow`, `here` are
the parts that lead to where the path starts. -/
def ensure (t : FileTree) (here : List String) : List String → Except IoFault FileTree
  | [] => if (t.at? here.reverse).any (·.isDirectory) then .ok t else .error .exists
  | p :: ps =>
    match t.at? here.reverse with
    | some (.directory es) =>
      if Path.isFiller p then t.ensure here ps
      else if p = ".." then t.ensure here.tail ps
      else if (es.lookup p).isSome then t.ensure (p :: here) ps
      else (t.put (p :: here).reverse (.directory [])).ensure (p :: here) ps
    | _ => .error .notDirectory

/-- The tree without what the parts lead to, if they lead to something below the top. -/
def remove? : List String → FileTree → Option FileTree
  | [], _ => none
  | _, .file _ => none
  | [p], .directory es =>
    if (es.lookup p).isSome then some (.directory (es.filter fun e => e.1 != p)) else none
  | p :: q :: ps, .directory es =>
    (es.lookup p).bind fun child =>
      (remove? (q :: ps) child).map fun t => .directory (setEntry p t es)

end FileTree

/-- A tree, and the directory in which relative paths begin. -/
structure Disk where
  tree : FileTree
  directory : String := "/"
deriving Inhabited

namespace Disk

/-- The path seen from the root of the tree. -/
def absolute (d : Disk) (path : String) : String := Path.join d.directory path

def parts (d : Disk) (path : String) : Except IoFault (List String) :=
  if path = "" then .error .notFound else d.tree.follow [] (pieces '/' (d.absolute path))

/-- What a path leads to. -/
def node? (d : Disk) (path : String) : Option FileTree :=
  (d.parts path).toOption.bind d.tree.at?

def exists? (d : Disk) (path : String) : Bool := (d.node? path).isSome

def isDirectory (d : Disk) (path : String) : Bool := (d.node? path).any (·.isDirectory)

def isFile (d : Disk) (path : String) : Bool := (d.node? path).any fun t => !t.isDirectory

/-- The shortest path from the root of the tree that leads where the path leads. -/
def canonical (d : Disk) (path : String) : Except IoFault String :=
  (d.parts path).map fun ps => "/" ++ "/".intercalate ps

def read (d : Disk) (path : String) : Except IoFault ByteArray :=
  match d.parts path with
  | .error fault => .error fault
  | .ok ps =>
    match d.tree.at? ps with
    | some (.file content) => content
    | some (.directory _) => .error .isDirectory
    | none => .error .notFound

def readText (d : Disk) (path : String) : Except IoFault String :=
  match d.read path with
  | .error fault => .error fault
  | .ok content =>
    match Utf8.decode content.toList with
    | .ok text => .ok text
    | .error _ => .error .notText

/-- The parts of a directory and the name below it that a path means. -/
def place (d : Disk) (path : String) : Except IoFault (List String) :=
  match Path.fileName? path with
  | none => .error .isDirectory
  | some name =>
    if !Path.endsInName path then .error .isDirectory
    else (d.parts ((Path.parent? (d.absolute path)).getD "/")).map (· ++ [name])

/-- The disk with a file written; the directory of the file must be there. -/
def write (d : Disk) (path : String) (content : ByteArray) : Except IoFault Disk :=
  match d.place path with
  | .error fault => .error fault
  | .ok ps =>
    if !(d.tree.at? ps.dropLast).any (·.isDirectory) then .error .notDirectory
    else if (d.tree.at? ps).any (·.isDirectory) then .error .isDirectory
    else .ok { d with tree := d.tree.put ps (.file (.ok content)) }

/-- The disk with a file written, and with the directories above it. -/
def writeDeep (d : Disk) (path : String) (content : ByteArray) : Except IoFault Disk :=
  match Path.parent? (d.absolute path) with
  | none => .error .isDirectory
  | some above =>
    match d.tree.ensure [] (pieces '/' above) with
    | .error fault => .error fault
    | .ok tree =>
      if !Path.endsInName path then .error .notDirectory else { d with tree }.write path content

end Disk

end Cartograph
