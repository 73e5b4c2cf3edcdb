import Cartograph.Snapshot.Codec
import Cartograph.Store

/-!
# Snapshots

A store as bytes: the version of the format in four bytes, the number of projects in eight, both
lowest byte first, and the projects. What follows the last project does not count.
-/

namespace Cartograph.Snapshot

open Java Codec

/-! ### Codecs of the parts -/

/-- Identifiers: a mark for their length, and their bytes. -/
def uuid : Codec Uuid where
  put u := 16 :: putFixed 16 u.toNat
  take
    | b :: bytes =>
      if b = 16 then (takeFixed 16 bytes).map fun (n, rest) => (Uuid.ofNat n, rest) else none
    | [] => none
  take_put u rest := by
    have hb := Nat.lt_of_lt_of_eq u.bits.isLt (by decide : _ = capacity 16)
    have h := takeFixed_putFixed 16 u.bits.toNat hb rest
    simp [Uuid.ofNat, Uuid.toNat, h]

/-- Kinds of dependency, by code. -/
def kind : Codec Kind := text.via Kind.code Kind.ofCode? fun k => by cases k <;> decide

/-- Verbs, by number. -/
def verb : Codec Verb := nat.via Verb.number (fun n => Verb.all[n - 1]?) fun v => by cases v <;> rfl

def declKind : Codec DeclKind :=
  let all : List DeclKind := [.classType, .interfaceType, .enumType, .recordType, .annotationType]
  nat.via (fun k => all.findIdx (· == k)) (fun n => all[n]?) fun k => by cases k <;> rfl

def visibility : Codec Visibility :=
  let all : List Visibility := [.publicAccess, .protectedAccess, .privateAccess, .packageAccess]
  nat.via (fun v => all.findIdx (· == v)) (fun n => all[n]?) fun v => by cases v <;> rfl

def memberKind : Codec MemberKind :=
  let all : List MemberKind := [.field, .method, .constructor]
  nat.via (fun k => all.findIdx (· == k)) (fun n => all[n]?) fun k => by cases k <;> rfl

def classRecord : Codec ClassRecord :=
  (text.pair (text.pair (nat.pair (declKind.pair text.option)))).via
    (fun c => (c.fqn, c.simpleName, c.package, c.kind, c.sourcePath))
    (fun (fqn, simple, package, kind, path) => some ⟨fqn, simple, package, kind, path⟩) fun _ => rfl

def registry : Codec Registry :=
  (text.list.pair classRecord.list).via (fun r => (r.packages, r.classes))
    (fun (packages, classes) => some ⟨packages, classes⟩) fun _ => rfl

def memberNote : Codec MemberNote :=
  (text.pair (text.pair text).list).via (fun n => (n.name, n.attributes))
    (fun (name, attributes) => some ⟨name, attributes⟩) fun _ => rfl

def member : Codec Member :=
  (nat.pair (text.pair (text.option.pair (visibility.pair (memberKind.pair memberNote.list))))).via
    (fun m => (m.classId, m.name, m.typeName, m.visibility, m.kind, m.notes))
    (fun (id, name, type, visibility, kind, notes) =>
      some ⟨id, name, type, visibility, kind, notes⟩)
    fun _ => rfl

def edge : Codec Edge :=
  (nat.pair (text.pair (text.pair (nat.option.pair (kind.pair uuid))))).via
    (fun e => (e.source, e.sourceFqn, e.target, e.targetClass, e.kind, e.batch))
    (fun (source, fqn, target, id, kind, batch) => some ⟨source, fqn, target, id, kind, batch⟩)
    fun _ => rfl

def endpoint : Codec Endpoint :=
  (uuid.pair (nat.pair (text.pair verb))).via (fun e => (e.id, e.classId, e.uri, e.verb))
    (fun (id, classId, uri, verb) => some ⟨id, classId, uri, verb⟩) fun _ => rfl

/-- Projects. The index is not written; it is made anew. -/
def project : Codec ProjectData :=
  (uuid.pair (text.pair (registry.pair (member.list.pair (edge.list.pair
    (endpoint.list.pair uuid)))))).via
    (fun p => (p.id, p.root, p.registry, p.members, p.edges, p.endpoints, p.batch))
    (fun (id, root, registry, members, edges, endpoints, batch) =>
      some { id, root, registry, members, edges, endpoints, batch })
    fun p => by
      obtain ⟨_, _, _, _, _, _, _, _, rfl⟩ := p
      rfl

/-! ### Whole stores -/

/-- The version of the format. -/
def version : Nat := 1

def encode (s : Store) : List UInt8 :=
  putFixed 4 version ++ putFixed 8 s.projects.length ++ s.projects.flatMap project.put

/-- A version and projects, from bytes. -/
def takeStore? (bytes : List UInt8) : Option (Nat × Store) :=
  (takeFixed 4 bytes).bind fun (found, rest) =>
    (takeFixed 8 rest).bind fun (count, rest) =>
      (takeMany project count rest).map fun (projects, _) => (found, ⟨projects⟩)

def decode (bytes : List UInt8) : Except Failure Store :=
  match takeStore? bytes with
  | none => .error (.snapshot "io error: ")
  | some (found, store) =>
    if found = version then .ok store else .error (.input (.snapshotVersion found version))

end Cartograph.Snapshot
