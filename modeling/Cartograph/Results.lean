import Cartograph.Text.JsonValue
import Cartograph.Workspace

/-!
# Results

How reports, endpoints, diagrams and the kinds of dependency are shown, as JSON and as text.
-/

namespace Cartograph

open Text

/-- The text with blanks after it up to a width. -/
def padEnd (width : Nat) (s : String) : String :=
  s ++ String.ofList (List.replicate (width - s.length) ' ')

/-- The lines, each with its end. -/
def lines (ls : List String) : String := String.join (ls.map (· ++ "\n"))

/-! ### Reports -/

def PackageSummary.json (s : PackageSummary) : JsonValue :=
  .object [("package", .text s.package), ("class_count", .number s.classCount),
    ("classes", .texts s.classes),
    ("kind_counts", .object (s.kindCounts.map fun (code, count) => (code, .number count)))]

namespace Report

def json (r : Report) : JsonValue :=
  .object [("project_id", .text r.project.render), ("root", .text r.root),
    ("batch_id", .text r.batch.render), ("files_scanned", .number r.filesScanned),
    ("files_parsed", .number r.filesParsed),
    ("parse_errors", .array (r.skipped.map fun f =>
      .object [("path", .text f.path), ("message", .text f.reason)])),
    ("classes", .number r.classes), ("edges", .number r.edges),
    ("unresolved_targets", .number r.unresolvedTargets), ("endpoints", .number r.endpoints),
    ("packages", .array (r.packages.map (·.json)))]

def packageLines (s : PackageSummary) : List String :=
  ["", s.package ++ " (" ++ Nat.repr s.classCount ++ " classes)",
    "  " ++ ", ".intercalate s.classes] ++
    s.kindCounts.map fun (code, count) =>
      let description := ((Kind.ofCode? code).map (·.description)).getD "?"
      "    " ++ code ++ " " ++ padEnd 40 description ++ " " ++ Nat.repr count

def text (r : Report) : String :=
  let files := Nat.repr r.filesScanned ++ " (" ++ Nat.repr r.skipped.length ++ " skipped)"
  let counts :=
    "  Files: " ++ files ++ "  Classes: " ++ Nat.repr r.classes ++ "  Edges: " ++
      Nat.repr r.edges ++ "  Endpoints: " ++ Nat.repr r.endpoints
  lines (["✓ Analysed " ++ r.root, "  Project: " ++ r.project.render, counts] ++
    r.skipped.map (fun f => "  ! " ++ f.path ++ ": " ++ f.reason) ++
    r.packages.flatMap packageLines)

end Report

/-! ### Endpoints -/

namespace EndpointSummary

def json (e : EndpointSummary) : JsonValue :=
  .object [("id", .text e.id.render), ("project_id", .text e.project.render),
    ("class_id", .number e.classId), ("class_fqn", .text e.classFqn),
    ("simple_name", .text e.simpleName), ("uri", .text e.uri), ("method_id", .number e.verb.number),
    ("method", .text e.verb.name)]

def line (e : EndpointSummary) : String :=
  "  " ++ e.id.render ++ "  " ++ padEnd 7 e.verb.name ++ " " ++ e.uri ++ "  [" ++ e.classFqn ++ "]"

end EndpointSummary

def endpointsText (es : List EndpointSummary) : String :=
  if es.isEmpty then "No endpoints found.\n"
  else lines (("Endpoints (" ++ Nat.repr es.length ++ "):") :: es.map (·.line))

/-! ### Diagrams and kinds -/

def MemberInfo.json (m : MemberInfo) : JsonValue :=
  .object [("name", .text m.name), ("type_name", .ofText? m.typeName),
    ("visibility", .text m.visibility.code), ("kind", .text m.kind.code)]

def Diagram.json (d : Diagram) : JsonValue :=
  .object [("diagram_text", .text d.text),
    ("classes", .array (d.classes.map fun c =>
      .object [("id", .number c.id), ("fqn", .text c.fqn), ("simple_name", .text c.simpleName)])),
    ("class_member_map", .object (d.members.map fun (fqn, ms) => (fqn, .array (ms.map (·.json))))),
    ("dependency_map", .object (d.dependencies.map fun (fqn, targets) =>
      (fqn, .object (targets.map fun (target, labels) => (target, .texts labels))))),
    ("class_file_paths", .object (d.paths.map fun (fqn, path) => (fqn, .text path)))]

def Kind.json (k : Kind) : JsonValue :=
  .object [("code", .text k.code), ("description", .text k.description),
    ("category", .text k.category.code)]

def Kind.line (k : Kind) : String := k.code ++ "  " ++ k.description

end Cartograph
