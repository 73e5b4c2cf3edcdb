import Cartograph.Proofs.Registry.Keys
import Mathlib.Data.List.Induction

/-!
# Registries as records of what was entered

A registry is built from the empty one by entering packages and classes. `Registry.Records` says
what it then holds, in terms of all that was entered: the names of the packages and the keys of the
classes, each at its first place, and for each class what was entered first and last under its key.
Nothing else is held, so two registries that record the same are equal; in particular it makes no
difference to enter everything once more.
-/

namespace Cartograph

open Text Java

/-- Something that is entered into a registry. -/
inductive Registration
  | package (name : String)
  | type (package simple : String) (kind : DeclKind) (path : Option String)

namespace Registration

/-- The name of the package that is entered, or that of the class. -/
def packageName : Registration → String
  | .package name => if name = "" then defaultPackage else name
  | .type name _ _ _ => if name = "" then defaultPackage else name

def key? : Registration → Option String
  | .package _ => none
  | .type name simple _ _ => some (classKey name simple)

/-- The simple name of the class that is entered. -/
def simple? : Registration → Option String
  | .package _ => none
  | .type _ simple _ _ => some simple

/-- The kind and the source path that are entered under a key. -/
def dataUnder? (key : String) : Registration → Option (DeclKind × Option String)
  | .package _ => none
  | .type name simple kind path => if classKey name simple = key then some (kind, path) else none

def kindUnder? (key : String) (x : Registration) : Option DeclKind :=
  (x.dataUnder? key).map (·.1)

def pathUnder? (key : String) (x : Registration) : Option String :=
  (x.dataUnder? key).bind (·.2)

lemma dataUnder?_of_ne {x : Registration} {key : String} (h : x.key? ≠ some key) :
    x.dataUnder? key = none := by
  cases x with
  | package name => rfl
  | type package simple kind path => exact if_neg fun heq => h (congrArg some heq)

lemma dataUnder?_of_eq {name simple key : String} {kind : DeclKind} {path : Option String}
    (h : classKey name simple = key) :
    (type name simple kind path).dataUnder? key = some (kind, path) :=
  if_pos h

end Registration

/-- What a source file enters: its package and its types. -/
def Java.SourceUnit.registrations (root : String) (u : SourceUnit) : List Registration :=
  .package (u.package.getD "") :: u.types.map fun d =>
    .type (u.package.getD "") d.name d.kind (some ((Path.relativeTo? root u.path).getD u.path))

namespace Registry

/-- The registry with one more entry. -/
def enter (r : Registry) : Registration → Registry
  | .package name => (r.addPackage name).1
  | .type package simple kind path => (r.register package simple kind path).1

/-- The registry of what is entered in turn. -/
def ofRegistrations (rs : List Registration) : Registry := rs.foldl enter {}

/-- The registry is built by entering packages and classes. -/
def Built (r : Registry) : Prop := ∃ rs, r = ofRegistrations rs

/-! ### Source files as lists of entries -/

lemma registerAll_eq_foldl (r : Registry) (package : String) (path : Option String)
    (ds : List Decl) :
    (r.registerAll package path ds).1 =
      (ds.map fun d => Registration.type package d.name d.kind path).foldl enter r := by
  induction ds generalizing r with
  | nil => rfl
  | cons d ds ih =>
    simp only [registerAll, List.map_cons, List.foldl_cons]
    exact ih _

lemma registerUnit_eq_foldl (r : Registry) (root : String) (u : SourceUnit) :
    (r.registerUnit root u).1 = (u.registrations root).foldl enter r := by
  rw [registerUnit, registerAll_eq_foldl, SourceUnit.registrations, List.foldl_cons]
  rfl

lemma ofUnits_eq_ofRegistrations (root : String) (units : List SourceUnit) :
    ofUnits root units = ofRegistrations (units.flatMap (·.registrations root)) := by
  rw [ofUnits, ofRegistrations, List.foldl_flatMap]
  simp only [registerUnit_eq_foldl]

end Registry

/-! ### Records -/

/-- The record of a class sums up what was entered under its key: the name and the package come from
the first entry, the kind and the source path from the last one that gives them. -/
structure ClassRecord.SumsUp (c : ClassRecord) (packages : List String)
    (rs : List Registration) : Prop where
  first : ∃ x, rs.find? (·.key? = some c.fqn) = some x ∧ x.simple? = some c.simpleName ∧
    packages[c.package]? = some x.packageName
  last_kind : (rs.filterMap (·.kindUnder? c.fqn)).getLast? = some c.kind
  last_path : (rs.filterMap (·.pathUnder? c.fqn)).getLast? = c.sourcePath

/-- The registry holds what was entered and nothing else. -/
structure Registry.Records (r : Registry) (rs : List Registration) : Prop where
  packages_eq : r.packages = fresh [] (rs.map (·.packageName))
  fqns_eq : r.fqns = fresh [] (rs.filterMap (·.key?))
  sumsUp : ∀ c ∈ r.classes, c.SumsUp r.packages rs

namespace ClassRecord

variable {c : ClassRecord} {packages more : List String} {rs : List Registration}
  {x : Registration}

/-- An entry under another key changes nothing. -/
lemma SumsUp.concat_of_ne (h : c.SumsUp packages rs) (hx : x.key? ≠ some c.fqn) :
    c.SumsUp (packages ++ more) (rs ++ [x]) where
  first := by
    obtain ⟨y, hy, hsimple, hpackage⟩ := h.first
    refine ⟨y, by rw [List.find?_append, hy, Option.some_or], hsimple, ?_⟩
    rw [List.getElem?_append_left (List.getElem?_eq_some_iff.mp hpackage).1, hpackage]
  last_kind := by
    rw [List.filterMap_append, ← h.last_kind]
    simp [Registration.kindUnder?, Registration.dataUnder?_of_ne hx]
  last_path := by
    rw [List.filterMap_append, ← h.last_path]
    simp [Registration.pathUnder?, Registration.dataUnder?_of_ne hx]

/-- An entry under the same key brings the kind up to date, and the source path if it has one. -/
lemma SumsUp.concat_of_eq (h : c.SumsUp packages rs) {package simple : String} (kind : DeclKind)
    (path : Option String) (hkey : classKey package simple = c.fqn) :
    ClassRecord.SumsUp { c with kind, sourcePath := path.or c.sourcePath } (packages ++ more)
      (rs ++ [.type package simple kind path]) where
  first := by
    obtain ⟨y, hy, hsimple, hpackage⟩ := h.first
    refine ⟨y, by rw [List.find?_append, hy, Option.some_or], hsimple, ?_⟩
    rw [List.getElem?_append_left (List.getElem?_eq_some_iff.mp hpackage).1, hpackage]
  last_kind := by
    rw [List.filterMap_append, List.getLast?_append]
    simp [Registration.kindUnder?, Registration.dataUnder?_of_eq hkey]
  last_path := by
    rw [List.filterMap_append, List.getLast?_append, h.last_path]
    cases path <;> simp [Registration.pathUnder?, Registration.dataUnder?_of_eq hkey]

/-- The first entry under a key makes a new record. -/
lemma sumsUp_of_new {package simple : String} (kind : DeclKind) (path : Option String)
    {id : PackageId}
    (hpackage : packages[id]? = some (if package = "" then defaultPackage else package))
    (hnew : ∀ x ∈ rs, x.key? ≠ some (classKey package simple)) :
    ClassRecord.SumsUp ⟨classKey package simple, simple, id, kind, path⟩ packages
      (rs ++ [.type package simple kind path]) where
  first := by
    have hnone : rs.find? (·.key? = some (classKey package simple)) = none := by
      simpa [List.find?_eq_none] using hnew
    refine ⟨.type package simple kind path, ?_, rfl, hpackage⟩
    rw [List.find?_append, hnone, Option.none_or]
    simp [Registration.key?]
  last_kind := by
    rw [List.filterMap_append, List.getLast?_append]
    simp [Registration.kindUnder?, Registration.dataUnder?_of_eq]
  last_path := by
    have hnone : rs.filterMap (·.pathUnder? (classKey package simple)) = [] := by
      rw [List.filterMap_eq_nil_iff]
      intro x hx
      rw [Registration.pathUnder?, Registration.dataUnder?_of_ne (hnew x hx), Option.bind_none]
    rw [List.filterMap_append, hnone, List.nil_append]
    cases path <;> simp [Registration.pathUnder?, Registration.dataUnder?_of_eq]

/-- A record is determined by its key and by what it sums up. -/
lemma SumsUp.unique {d : ClassRecord} (hc : c.SumsUp packages rs) (hpackages : packages.Nodup)
    (hd : d.SumsUp packages rs) (hfqn : c.fqn = d.fqn) : c = d := by
  obtain ⟨x, hx, hsimple, hpackage⟩ := hc.first
  obtain ⟨y, hy, hsimple', hpackage'⟩ := hd.first
  have hxy : x = y := by
    rw [hfqn, hy] at hx
    exact (Option.some.inj hx).symm
  subst hxy
  have hid : c.package = d.package :=
    (List.getElem?_inj (List.getElem?_eq_some_iff.mp hpackage).1 hpackages).mp
      (hpackage.trans hpackage'.symm)
  have hkind := hc.last_kind.symm.trans (hfqn ▸ hd.last_kind)
  have hpath := hc.last_path.symm.trans (hfqn ▸ hd.last_path)
  cases c
  cases d
  simp_all

/-- Entering everything twice leaves the first and the last entry under a key the same. -/
lemma SumsUp.of_append_self (h : c.SumsUp packages (rs ++ rs)) : c.SumsUp packages rs where
  first := by
    obtain ⟨x, hx, hsimple, hpackage⟩ := h.first
    rw [List.find?_append, Option.or_self] at hx
    exact ⟨x, hx, hsimple, hpackage⟩
  last_kind := by
    rw [← h.last_kind, List.filterMap_append, List.getLast?_append, Option.or_self]
  last_path := by
    rw [← h.last_path, List.filterMap_append, List.getLast?_append, Option.or_self]

end ClassRecord

namespace Registry

variable {r : Registry} {rs : List Registration}

/-! ### One more entry -/

lemma packages_addPackage (r : Registry) (name : String) :
    (r.addPackage name).1.packages =
      r.packages ++ fresh r.packages [if name = "" then defaultPackage else name] := by
  unfold addPackage
  simp only
  split
  · rename_i id hid
    obtain ⟨hlt, hname, -⟩ := List.findIdx?_eq_some_iff_getElem.mp hid
    have hmem : (if name = "" then defaultPackage else name) ∈ r.packages := by
      rw [← eq_of_beq hname]
      exact List.getElem_mem hlt
    rw [fresh_cons_of_mem hmem, fresh_nil, List.append_nil]
  · rename_i hnone
    have hmem : (if name = "" then defaultPackage else name) ∉ r.packages := by
      intro hmem
      simpa using List.findIdx?_eq_none_iff.mp hnone _ hmem
    rw [fresh_cons_of_not_mem hmem, fresh_nil]

/-- The place that a package is given is that of its name. -/
lemma getElem?_addPackage (r : Registry) (name : String) :
    (r.addPackage name).1.packages[(r.addPackage name).2]? =
      some (if name = "" then defaultPackage else name) := by
  unfold addPackage
  simp only
  split
  · rename_i id hid
    obtain ⟨hlt, hname, -⟩ := List.findIdx?_eq_some_iff_getElem.mp hid
    rw [List.getElem?_eq_getElem hlt, eq_of_beq hname]
  · rw [List.getElem?_concat_length]

lemma packages_enter (r : Registry) (x : Registration) :
    (r.enter x).packages = r.packages ++ fresh r.packages [x.packageName] := by
  cases x with
  | package name => exact r.packages_addPackage name
  | type package simple kind path =>
    rw [Registration.packageName, ← packages_addPackage, enter, register]
    simp only
    split <;> rfl

lemma fqns_enter (r : Registry) (x : Registration) :
    (r.enter x).fqns = r.fqns ++ fresh r.fqns x.key?.toList := by
  cases x with
  | package name => simp [enter, fqns, Registration.key?]
  | type package simple kind path => exact r.fqns_register package simple kind path

/-- A class that is entered again changes in its place, and no other class does. -/
lemma mem_classes_register_of_known {package simple : String} {kind : DeclKind}
    {path : Option String} {id : ClassId} {c : ClassRecord} (hr : r.fqns.Nodup)
    (hid : r.lookup? (classKey package simple) = some id)
    (hc : c ∈ (r.register package simple kind path).1.classes) :
    (c ∈ r.classes ∧ classKey package simple ≠ c.fqn) ∨
      ∃ d ∈ r.classes, classKey package simple = d.fqn ∧
        c = { d with kind, sourcePath := path.or d.sourcePath } := by
  have hlookup : (r.addPackage package).1.lookup? (classKey package simple) = some id := by
    rw [lookup?, classes_addPackage]
    exact hid
  simp only [register, hlookup, classes_addPackage] at hc
  obtain ⟨i, hi⟩ := List.getElem?_of_mem hc
  rw [List.getElem?_modify] at hi
  obtain ⟨d, hd, rfl⟩ := Option.map_eq_some_iff.mp hi
  by_cases heq : id = i
  · subst heq
    obtain ⟨c, hc, hkey⟩ := class?_of_lookup? hid
    rw [class?, hd, Option.some.injEq] at hc
    subst hc
    exact .inr ⟨d, List.mem_of_getElem? hd, hkey.symm, by rw [if_pos rfl]⟩
  · left
    rw [if_neg heq]
    refine ⟨List.mem_of_getElem? hd, fun hkey => heq ?_⟩
    rw [hkey, lookup?_fqn hr hd] at hid
    exact (Option.some.inj hid).symm

lemma classes_register_of_new {package simple : String} (kind : DeclKind) (path : Option String)
    (hnone : r.lookup? (classKey package simple) = none) :
    (r.register package simple kind path).1.classes =
      r.classes ++ [⟨classKey package simple, simple, (r.addPackage package).2, kind, path⟩] := by
  have hlookup : (r.addPackage package).1.lookup? (classKey package simple) = none := by
    rw [lookup?, classes_addPackage]
    exact hnone
  simp only [register, hlookup, classes_addPackage]

/-- Entering keeps up the record. -/
lemma Records.enter (h : r.Records rs) (x : Registration) : (r.enter x).Records (rs ++ [x]) where
  packages_eq := by
    rw [packages_enter, h.packages_eq, List.map_append]
    exact append_fresh_append [] _ _
  fqns_eq := by
    have hkey : [x].filterMap (·.key?) = x.key?.toList := by
      cases hx : x.key? <;> simp [hx]
    rw [fqns_enter, h.fqns_eq, List.filterMap_append, hkey]
    exact append_fresh_append [] _ _
  sumsUp := by
    have hr : r.fqns.Nodup := by
      rw [h.fqns_eq]
      exact nodup_fresh _ _
    rw [packages_enter]
    intro c hc
    cases x with
    | package name =>
      rw [Registry.enter, classes_addPackage] at hc
      exact (h.sumsUp c hc).concat_of_ne (by simp [Registration.key?])
    | type package simple kind path =>
      cases hlookup : r.lookup? (classKey package simple) with
      | some id =>
        rcases mem_classes_register_of_known hr hlookup hc with ⟨hc, hne⟩ | ⟨d, hd, hkey, rfl⟩
        · exact (h.sumsUp c hc).concat_of_ne fun heq => hne (Option.some.inj heq)
        · exact (h.sumsUp d hd).concat_of_eq kind path hkey
      | none =>
        have hnew : classKey package simple ∉ r.fqns := lookup?_eq_none_iff.mp hlookup
        rw [Registry.enter, classes_register_of_new kind path hlookup, List.mem_append,
          List.mem_singleton] at hc
        rcases hc with hc | rfl
        · refine (h.sumsUp c hc).concat_of_ne fun heq => hnew ?_
          rw [Option.some.inj heq]
          exact List.mem_map_of_mem hc
        · apply ClassRecord.sumsUp_of_new
          · rw [Registration.packageName, ← packages_addPackage]
            exact r.getElem?_addPackage package
          · intro y hy heq
            apply hnew
            rw [h.fqns_eq, mem_fresh]
            exact ⟨List.mem_filterMap.mpr ⟨y, hy, heq⟩, List.not_mem_nil⟩

/-- What is built records what was entered. -/
lemma records_ofRegistrations (rs : List Registration) : (ofRegistrations rs).Records rs := by
  induction rs using List.reverseRecOn with
  | nil => exact ⟨rfl, rfl, fun c hc => absurd hc List.not_mem_nil⟩
  | append_singleton rs x ih =>
    rw [ofRegistrations, List.foldl_append]
    exact ih.enter x

/-! ### What the record determines -/

lemma Records.nodup_fqns (h : r.Records rs) : r.fqns.Nodup := by
  rw [h.fqns_eq]
  exact nodup_fresh _ _

lemma Records.nodup_packages (h : r.Records rs) : r.packages.Nodup := by
  rw [h.packages_eq]
  exact nodup_fresh _ _

/-- No key stands twice in a registry that is built. -/
lemma Built.nodup_fqns (h : r.Built) : r.fqns.Nodup := by
  obtain ⟨rs, rfl⟩ := h
  exact (records_ofRegistrations rs).nodup_fqns

/-- No name of a package stands twice in a registry that is built. -/
lemma Built.nodup_packages (h : r.Built) : r.packages.Nodup := by
  obtain ⟨rs, rfl⟩ := h
  exact (records_ofRegistrations rs).nodup_packages

/-- Registries that record the same are equal. -/
lemma Records.unique {r' : Registry} (h : r.Records rs) (h' : r'.Records rs) : r = r' := by
  have hpackages : r.packages = r'.packages := h.packages_eq.trans h'.packages_eq.symm
  have hfqns : r.fqns = r'.fqns := h.fqns_eq.trans h'.fqns_eq.symm
  have hclasses : r.classes = r'.classes := by
    apply List.ext_getElem
    · simpa [fqns] using congrArg List.length hfqns
    · intro i hi hi'
      have hfqn : r.classes[i].fqn = r'.classes[i].fqn := by
        have hat : r.fqns[i]? = r'.fqns[i]? := by rw [hfqns]
        simpa [fqns, hi, hi'] using hat
      apply (h.sumsUp _ (List.getElem_mem hi)).unique h.nodup_packages _ hfqn
      rw [hpackages]
      exact h'.sumsUp _ (List.getElem_mem hi')
  cases r
  cases r'
  simp_all

/-- What was entered can be entered again in the same order without a change. -/
lemma ofRegistrations_append_self (rs : List Registration) :
    ofRegistrations (rs ++ rs) = ofRegistrations rs := by
  have h := records_ofRegistrations (rs ++ rs)
  refine Records.unique ⟨?_, ?_, fun c hc => ?_⟩ (records_ofRegistrations rs)
  · rw [h.packages_eq, List.map_append, fresh_append_self]
  · rw [h.fqns_eq, List.filterMap_append, fresh_append_self]
  · exact (h.sumsUp c hc).of_append_self

end Registry

end Cartograph
