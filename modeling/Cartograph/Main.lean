import Cartograph.Program

/-!
# The executable

Loads the part of the file system that a command reads, runs the program on it, and prints and
writes what the program answers. Links are not followed.
-/

namespace Cartograph.Executable

/-- Why the system could not do something. -/
def faultOf : IO.Error → IoFault
  | .noFileOrDirectory .. => .notFound
  | .permissionDenied .. => .denied
  | .inappropriateType .. => .notDirectory
  | e => .other (toString e)

def loadFile (path : String) : IO FileTree := do
  try
    return .file (.ok (← IO.FS.readBinFile path))
  catch e => return .file (.error (faultOf e))

/-- What is at a path, with everything below it. -/
partial def loadTree (path : String) : IO FileTree := do
  let real ← IO.FS.realPath path
  if ← real.isDir then
    let mut entries := []
    for e in ← real.readDir do
      let info ← e.path.symlinkMetadata
      if info.type != .symlink then
        entries := (e.fileName, ← loadTree e.path.toString) :: entries
    return .directory entries
  else loadFile path

def partsOf (path : String) : List String := (Path.components path).filter (· != "/")

/-- The disk with something at an absolute path, unless there is something already. -/
def mount (d : Disk) (path : String) (node : FileTree) : Disk :=
  if (d.tree.at? (partsOf path)).isSome then d
  else { d with tree := d.tree.put (partsOf path) node }

/-- The shortest path to what is at a path, and whether that is a directory, if there
is something. -/
def find? (path : String) : IO (Option (String × Bool)) := do
  try
    let real ← IO.FS.realPath path
    return some (real.toString, ← real.isDir)
  catch _ => return none

/-- The disk with the directories that lead to a path, and the files of rules in them. -/
def loadAbove (d : Disk) (path : String) : IO Disk := do
  let mut d := d
  let mut above := "/"
  for part in (Text.pieces '/' (d.absolute path)).dropLast do
    above := Path.join above part
    if let some (real, true) ← find? above then
      d := mount d real (.directory [])
      for file in Ignore.ruleFiles do
        let place := Path.join real ("/".intercalate file)
        if let some (_, false) ← find? place then d := mount d place (← loadFile place)
  return d

/-- The disk with what is at a path, if there is something. -/
def loadPath (d : Disk) (path : String) (isWhole : Bool) : IO Disk := do
  let d ← loadAbove d path
  match ← find? (d.absolute path) with
  | none => return d
  | some (real, isDirectory) =>
    if isWhole then return { d with tree := d.tree.put (partsOf real) (← loadTree real) }
    else if isDirectory then return mount d real (.directory [])
    else return mount d real (← loadFile real)

/-- The part of the file system that an invocation reads. -/
def loadDisk (i : Invocation) : IO Disk := do
  let mut d : Disk := { tree := .directory [], directory := (← IO.currentDir).toString }
  d ← loadPath d "." false
  d ← loadPath d i.settings false
  for path in Program.filesRead i d do d ← loadPath d path false
  for root in Program.rootsRead i d do d ← loadPath d root true
  return d

/-- New identifiers that follow a random one. -/
def freshIds : IO Supply := do
  let seed := (← IO.getRandomBytes 16).toList.foldl (fun n b => n * 256 + b.toNat) 0
  return { draw := fun n => Uuid.ofNat (seed + n) }

end Cartograph.Executable

open Cartograph Cartograph.Executable

def main (args : List String) : IO UInt32 := do
  let disk ← match Request.read? args with
    | some (.run i) => loadDisk i
    | _ => pure { tree := .directory [] }
  let outcome := Program.run args disk (← freshIds)
  for w in outcome.writes do
    if w.makesDirectories then
      if let some above := Path.parent? (disk.absolute w.path) then IO.FS.createDirAll above
    IO.FS.writeBinFile w.path w.content
  IO.print outcome.output
  IO.eprint outcome.errors
  return outcome.code.toUInt32
