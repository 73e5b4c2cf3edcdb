import Cartograph.Uuid

/-!
# Failures

Why an operation gives no result. `Failure.message` is the text that is shown for it.
-/

namespace Cartograph

/-- Input that an operation cannot use. -/
inductive BadInput
  | badRoot (root : String)
  | scanRootMissing (root : String)
  | scanRootNotDirectory (root : String)
  | noSources (extension root : String)
  | unknownVerb (name : String)
  | snapshotVersion (version expected : Nat)
deriving DecidableEq, Inhabited

def BadInput.message : BadInput → String
  | .badRoot root => "project root is missing or not a directory: " ++ root
  | .scanRootMissing root => "project root does not exist: " ++ root
  | .scanRootNotDirectory root => "project root is not a directory: " ++ root
  | .noSources extension root => "no ." ++ extension ++ " source files found under " ++ root
  | .unknownVerb name => "unknown HTTP method: " ++ name
  | .snapshotVersion version expected =>
    "store snapshot version " ++ Nat.repr version ++ " is not supported (expected " ++
      Nat.repr expected ++ ")"

/-- Why a file cannot be read or written. -/
inductive IoFault
  | notFound
  | denied
  | exists
  | notDirectory
  | isDirectory
  /-- The bytes of the file are not text. -/
  | notText
  | other (reason : String)
deriving DecidableEq, Inhabited

/-- Why a file cannot be read or written, in words. -/
def IoFault.message : IoFault → String
  | .notFound => "No such file or directory (os error 2)"
  | .denied => "Permission denied (os error 13)"
  | .exists => "File exists (os error 17)"
  | .notDirectory => "Not a directory (os error 20)"
  | .isDirectory => "Is a directory (os error 21)"
  | .notText => "stream did not contain valid UTF-8"
  | .other reason => reason

/-- Why an operation gives no result. -/
inductive Failure
  | input (cause : BadInput)
  | unreadable (path reason : String)
  | unknownKind (code : String)
  | projectNotFound (id : Uuid)
  | endpointNotFound (id : Uuid)
  | classNotFound (name : String)
  | cancelled
  | io (cause : IoFault)
  | snapshot (reason : String)
  | config (reason : String)
deriving DecidableEq, Inhabited

namespace Failure

def message : Failure → String
  | .input cause => "Invalid input: " ++ cause.message
  | .unreadable path reason => "Failed to parse " ++ path ++ ": " ++ reason
  | .unknownKind code => "Unknown dependency kind code: " ++ code
  | .projectNotFound id => "Project not found: " ++ id.render
  | .endpointNotFound id => "Endpoint not found: " ++ id.render
  | .classNotFound name => "Class not found: " ++ name
  | .cancelled => "Analysis cancelled"
  | .io cause => "IO error: " ++ cause.message
  | .snapshot reason => "Snapshot error: " ++ reason
  | .config reason => "Config error: " ++ reason

/-- The failure in words, followed by its own cause where it has one. -/
def causes (f : Failure) : List String :=
  match f with
  | .io cause => [f.message, cause.message]
  | .snapshot reason => [f.message, reason]
  | .config reason => [f.message, reason]
  | _ => [f.message]

/-- Whether the failure concerns one file only and a run can go on without that file. -/
def isRecoverable : Failure → Bool
  | .unreadable _ _ => true
  | _ => false

end Failure

end Cartograph
