import Cartograph.Store
import Mathlib.Data.List.Pairwise
import Mathlib.Tactic.Push
import Mathlib.Tactic.SplitIfs

/-!
# Projects that are apart

A store finds a project by its identifier when data are replaced, and by its root when a run begins.
The two agree as long as the projects are apart, that is, as long as no two have the same identifier
or the same root. `Receives` says what taking in data should do to such a store; the lemmas on
replacement say what it does, given only the identifiers.
-/

namespace Cartograph

lemma Path.same_comm (a b : String) : same a b = same b a := Bool.beq_comm

lemma Path.same_of_same {a b c : String} (ha : same a c = true) (hb : same b c = true) :
    same a b = true := by
  simp only [same, beq_iff_eq] at ha hb ⊢
  rw [ha, hb]

/-- The projects have neither the same identifier nor the same root. -/
def ProjectData.ApartFrom (p q : ProjectData) : Prop :=
  p.id ≠ q.id ∧ Path.same p.root q.root = false

instance : Std.Symm ProjectData.ApartFrom where
  symm p q h := ⟨h.1.symm, Path.same_comm q.root p.root ▸ h.2⟩

namespace Store

/-- No two projects have the same identifier or the same root. -/
def Apart (s : Store) : Prop := s.projects.Pairwise ProjectData.ApartFrom

/-- The project with a root is the one that is stored under it. -/
lemma Apart.projectAt?_eq {s : Store} (h : s.Apart) {p : ProjectData} {root : String}
    (hp : p ∈ s.projects) (hsame : Path.same p.root root = true) :
    s.projectAt? root = some p := by
  cases hfound : s.projectAt? root with
  | none => exact absurd hsame (by simpa using List.find?_eq_none.mp hfound p hp)
  | some q =>
    have hq : q ∈ s.projects := List.mem_of_find?_eq_some hfound
    have hqroot := List.find?_some hfound
    by_contra hne
    have hapart := h.forall hp hq fun heq => hne (by rw [heq])
    exact absurd (Path.same_of_same hsame hqroot) (by simp [hapart.2])

/-- A project is found under its identifier. -/
lemma Apart.project_eq {s : Store} (h : s.Apart) {p : ProjectData} (hp : p ∈ s.projects) :
    s.project p.id = .ok p := by
  rw [project]
  cases hfound : s.projects.find? (·.id == p.id) with
  | none => exact absurd (List.find?_eq_none.mp hfound p hp) (by simp)
  | some q =>
    have hq : q ∈ s.projects := List.mem_of_find?_eq_some hfound
    have hid : q.id = p.id := by simpa using List.find?_some hfound
    by_contra hne
    have hapart := h.forall hq hp fun heq => hne (by rw [heq])
    exact hapart.1 hid

lemma project_eq_error_iff {s : Store} {id : Uuid} :
    s.project id = .error (.projectNotFound id) ↔ ∀ p ∈ s.projects, p.id ≠ id := by
  rw [project]
  cases hfound : s.projects.find? (·.id == id) with
  | none => simpa using hfound
  | some q =>
    have hq : q ∈ s.projects := List.mem_of_find?_eq_some hfound
    have hid : q.id = id := by simpa using List.find?_some hfound
    simp only [reduceCtorEq, false_iff]
    exact fun hall => hall q hq hid

/-- The second store is the first with the data taken in: in the place of the project at their root,
whose identity they have, or at the end if there is none. -/
structure Receives (s : Store) (data : ProjectData) (t : Store) : Prop where
  in_place : ∀ i p, s.projects[i]? = some p → Path.same p.root data.root = true →
    data.id = p.id ∧ data.root = p.root ∧ t.projects = s.projects.set i data
  at_end : (∀ p ∈ s.projects, Path.same p.root data.root = false) →
    t.projects = s.projects ++ [data]

/-- What a project is known by: its identifier and its root. -/
def keys (s : Store) : List (Uuid × String) := s.projects.map fun p => (p.id, p.root)

lemma apart_iff {s : Store} :
    s.Apart ↔ s.keys.Pairwise fun a b => a.1 ≠ b.1 ∧ Path.same a.2 b.2 = false := by
  rw [keys, List.pairwise_map]
  rfl

/-- Data taken in leave the keys as they are or add their own at the end. -/
lemma Receives.keys {s t : Store} {data : ProjectData} (h : s.Receives data t) :
    t.keys = s.keys ∨
      (∀ p ∈ s.projects, Path.same p.root data.root = false) ∧
        t.keys = s.keys ++ [(data.id, data.root)] := by
  by_cases hnew : ∀ p ∈ s.projects, Path.same p.root data.root = false
  · right
    refine ⟨hnew, ?_⟩
    rw [Store.keys, h.at_end hnew, List.map_append]
    rfl
  · left
    push Not at hnew
    obtain ⟨p, hp, hsame⟩ := hnew
    obtain ⟨i, hi⟩ := List.getElem?_of_mem hp
    obtain ⟨hid, hroot, hset⟩ := h.in_place i p hi (by simpa using hsame)
    obtain ⟨hlt, rfl⟩ := List.getElem?_eq_some_iff.mp hi
    rw [Store.keys, hset, List.map_set, hid, hroot, ← List.map_set, List.set_getElem_self]
    rfl

/-! ### Replacing by identifier -/

variable {data : ProjectData} {ps : List ProjectData}

lemma replaceIn_of_new (h : ∀ p ∈ ps, p.id ≠ data.id) : replaceIn data ps = ps ++ [data] := by
  induction ps with
  | nil => rfl
  | cons p ps ih =>
    rw [List.forall_mem_cons] at h
    rw [replaceIn, if_neg h.1, ih h.2, List.cons_append]

lemma replaceIn_of_known {i : Nat} {p : ProjectData} (hps : ps.Pairwise fun p q => p.id ≠ q.id)
    (hi : ps[i]? = some p) (hid : p.id = data.id) : replaceIn data ps = ps.set i data := by
  induction ps generalizing i with
  | nil => cases hi
  | cons q ps ih =>
    obtain ⟨hq, hps⟩ := List.pairwise_cons.mp hps
    cases i with
    | zero =>
      rw [List.getElem?_cons_zero, Option.some.injEq] at hi
      rw [replaceIn, if_pos (hi ▸ hid), List.set_cons_zero]
    | succ i =>
      rw [List.getElem?_cons_succ] at hi
      have hne : q.id ≠ data.id := hid ▸ hq p (List.mem_of_getElem? hi)
      rw [replaceIn, if_neg hne, ih hps hi, List.set_cons_succ]

lemma mem_of_mem_replaceIn {p : ProjectData} (h : p ∈ replaceIn data ps) : p ∈ ps ∨ p = data := by
  induction ps with
  | nil => exact .inr (List.mem_singleton.mp h)
  | cons q ps ih =>
    rw [replaceIn] at h
    split_ifs at h with hid
    · rcases List.mem_cons.mp h with rfl | h
      · exact .inr rfl
      · exact .inl (List.mem_cons_of_mem q h)
    · rcases List.mem_cons.mp h with rfl | h
      · exact .inl List.mem_cons_self
      · exact (ih h).imp_left (List.mem_cons_of_mem q)

lemma find?_replaceIn (data : ProjectData) (ps : List ProjectData) :
    (replaceIn data ps).find? (·.id == data.id) = some data := by
  induction ps with
  | nil => simp [replaceIn]
  | cons p ps ih =>
    rw [replaceIn]
    split_ifs with hid
    · simp
    · rw [List.find?_cons_of_neg (by simpa using hid), ih]

/-- What was stored last is found under its identifier. -/
lemma project_replace (s : Store) (data : ProjectData) :
    (s.replace data).project data.id = .ok data := by
  rw [project, replace, find?_replaceIn]

end Store

end Cartograph
