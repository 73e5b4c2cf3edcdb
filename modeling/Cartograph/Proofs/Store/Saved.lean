import Cartograph.Proofs.FileTree.Writing
import Cartograph.Proofs.Project.Places
import Cartograph.Proofs.Snapshot.RoundTrip
import Mathlib.Algebra.Group.Nat.Defs
import Mathlib.Data.List.Forall2

/-!
# Saved stores answer alike

A snapshot holds the lists of each project and no index, so a store that is read back from the file
to which it was written answers from indexes that are made anew. The main statement says that nobody
can tell: every question has the same answer before and after, and on both sides the answers about a
class are the parts of the lists that belong to it, in their order.
-/

namespace Cartograph

open Text

namespace ProjectData

/-- Two projects answer all questions about classes, batches, packages and names alike. -/
structure SameAnswers (p q : ProjectData) : Prop where
  edgesFrom : ∀ id, p.edgesFrom id = q.edgesFrom id
  edgesTo : ∀ id, p.edgesTo id = q.edgesTo id
  edgesInBatch : ∀ batch, p.edgesInBatch batch = q.edgesInBatch batch
  membersOf : ∀ id, p.membersOf id = q.membersOf id
  hasMembers : ∀ id, p.hasMembers id = q.hasMembers id
  summaries : p.summaries = q.summaries
  lookup? : ∀ key, p.registry.lookup? key = q.registry.lookup? key
  resolveTarget? : ∀ name, p.registry.resolveTarget? name = q.registry.resolveTarget? name
  findUnder? : ∀ simple package,
    p.registry.findUnder? simple package = q.registry.findUnder? simple package

/-- The answers about a class are what a search through the lists would find, in order. -/
structure AnswersBySearch (p : ProjectData) : Prop where
  edgesFrom : ∀ id, p.edgesFrom id = p.edges.filter (·.source = id)
  edgesTo : ∀ id, p.edgesTo id = p.edges.filter (·.targetClass = some id)
  membersOf : ∀ id, p.membersOf id = p.members.filter (·.classId = id)
  hasMembers : ∀ id, p.hasMembers id = true ↔ ∃ m ∈ p.members, m.classId = id

lemma answersBySearch (p : ProjectData) : p.AnswersBySearch where
  edgesFrom id := p.edgesFrom_eq_filter id
  edgesTo id := by simp only [edgesTo_eq_filter, beq_eq_decide]
  membersOf id := p.membersOf_eq_filter id
  hasMembers id := by simp [hasMembers_eq_any]

end ProjectData

/-- Two stores have the same projects in the same order and answer all questions alike. -/
structure Store.SameAnswers (s t : Store) : Prop where
  projects : s.projects = t.projects
  project : ∀ id, s.project id = t.project id
  projectAt? : ∀ root, s.projectAt? root = t.projectAt? root
  findEndpoint : ∀ id, s.findEndpoint id = t.findEndpoint id
  answers : List.Forall₂ ProjectData.SameAnswers s.projects t.projects

/-- A store is its projects, and a project its contents, since these determine the index. -/
lemma Store.sameAnswers_of_projects {s t : Store} (h : s.projects = t.projects) :
    s.SameAnswers t := by
  obtain rfl : s = t := by rw [← mk.injEq] at h; exact h
  refine ⟨rfl, fun _ => rfl, fun _ => rfl, fun _ => rfl, List.forall₂_same.mpr ?_⟩
  intro p _
  constructor <;> intros <;> rfl

/-- What can be read is there. -/
lemma Disk.exists?_of_read {d : Disk} {path : String} {content : ByteArray}
    (h : d.read path = .ok content) : d.exists? path = true := by
  unfold Disk.read at h
  split at h
  · cases h
  · rename_i parts hparts
    split at h
    · rename_i hfile
      simp [exists?, node?, hparts, Except.toOption, hfile]
    · cases h
    · cases h

/-- A store that was written to a path is read back from it. Where it is read, it can be opened, and
it then has the same projects and gives the same answers; before and after, the answers about a
class are its parts of the lists. The number of the projects has to fit into the eight bytes in
which it is written. -/
theorem Workspace.load_saved_sameAnswers (w : Workspace)
    (hcount : w.store.projects.length < 2 ^ 64) (settings : Settings) (recovery : Java.Recovery)
    (path : String) :
    (∀ before after : Disk, Path.isAbsolute before.directory = true →
      before.writeDeep path w.snapshot = .ok after → after.read path = .ok w.snapshot) ∧
    ∀ d : Disk, d.read path = .ok w.snapshot →
      ∃ opened, load settings d path recovery = .ok opened ∧ opened.store.SameAnswers w.store ∧
        ∀ s ∈ [w.store, opened.store], ∀ p ∈ s.projects, p.AnswersBySearch := by
  refine ⟨fun before after habsolute hwritten => Disk.read_writeDeep habsolute hwritten, ?_⟩
  intro d hread
  have hopened := load_snapshot (Disk.exists?_of_read hread) hread hcount settings recovery
  exact ⟨_, hopened, Store.sameAnswers_of_projects rfl, fun s _ p _ => p.answersBySearch⟩

/-- A project with edges between its classes and to a class that is not registered, and with
members, saved after another one that has nothing, to a directory that is made for it. -/
theorem Workspace.load_saved_sameAnswers_orders :
    let edges : List Edge :=
      [(1, some 0, .methodCall), (0, none, .returnType), (1, none, .staticCall),
        (1, some 0, .composition)].map fun (source, target, kind) =>
          ⟨source, "", "Order", target, kind, .ofNat 1⟩
    let orders : ProjectData :=
      { id := .ofNat 2, root := "/orders"
        registry := .ofUnits "" [{ types := [{ name := "Order", kind := .classType },
          { name := "Desk", kind := .classType }] }]
        members := [⟨0, "total", none, .privateAccess, .field, []⟩], edges
        endpoints := [⟨.ofNat 3, 1, "/orders", .get⟩], batch := .ofNat 1 }
    let w : Workspace := { store := ⟨[default, orders]⟩ }
    let d : Disk := { tree := .directory [("home", .directory [])], directory := "/home" }
    ∃ d', d.writeDeep "data/./store" w.snapshot = .ok d' ∧
      ∃ opened, load {} d' "data/./store" = .ok opened ∧
        opened.store.findEndpoint (.ofNat 3) = .ok (orders, ⟨.ofNat 3, 1, "/orders", .get⟩) ∧
        ∃ p, opened.store.project (.ofNat 2) = .ok p ∧
          (p.edgesTo 0).map (·.kind) = [.methodCall, .composition] ∧
          p.edgesFrom 0 = [⟨0, "", "Order", none, .returnType, .ofNat 1⟩] ∧
          p.hasMembers 1 = false := by
  intro edges orders w d
  have hwritten : d.writeDeep "data/./store" w.snapshot = .ok
      { d with tree := .directory [("home", .directory [("data", .directory
        [("store", .file (.ok w.snapshot))])])] } := by
    let made : Disk := { d with tree := .directory [("home", .directory [("data", default)])] }
    have hpaths : Path.parent? (d.absolute "data/./store") = some "/home/data" ∧
        Path.endsInName "data/./store" = true ∧
        made.place "data/./store" = .ok ["home", "data", "store"] := by decide +kernel
    have hmade : d.tree.ensure [] (pieces '/' "/home/data") = .ok made.tree := rfl
    rw [Disk.writeDeep, hpaths.1]
    simp only [hmade, hpaths.2.1, Bool.not_true, Bool.false_eq_true, if_false]
    rw [Disk.write, show { d with tree := made.tree } = made from rfl, hpaths.2.2]
    rfl
  obtain ⟨hread, hopen⟩ := w.load_saved_sameAnswers (by decide +kernel) {} .nothing "data/./store"
  obtain ⟨opened, hopened, hsame, -⟩ := hopen _ (hread d _ (by decide +kernel) hwritten)
  refine ⟨_, hwritten, opened, hopened, ?_, orders, ?_, ?_⟩
  · rw [hsame.findEndpoint]
    decide +kernel
  · rw [hsame.project]
    decide +kernel
  · decide +kernel

end Cartograph
