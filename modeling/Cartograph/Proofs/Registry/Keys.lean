import Cartograph.Proofs.Text.Fresh
import Cartograph.Registry

/-!
# The keys of a registry

The keys of the classes of a registry stand in the order in which they were first registered, and
none stands there twice. So a key leads to the one class that has it, and every class that a source
file declares is found under its key.
-/

namespace Cartograph

open Text Java

/-- The keys under which the types of a source file are registered. -/
def Java.SourceUnit.keys (u : SourceUnit) : List String :=
  u.types.map fun d => classKey (u.package.getD "") d.name

namespace Registry

/-- The keys of the classes, in the order of the classes. -/
def fqns (r : Registry) : List String := r.classes.map (·.fqn)

def fqn? (r : Registry) (id : ClassId) : Option String := (r.class? id).map (·.fqn)

/-! ### Places and keys -/

lemma exists_class?_iff {r : Registry} {id : ClassId} :
    (∃ c, r.class? id = some c) ↔ id < r.classes.length := by
  simp [class?, List.getElem?_eq_some_iff]

lemma getElem?_fqns (r : Registry) (id : ClassId) : r.fqns[id]? = (r.class? id).map (·.fqn) := by
  rw [fqns, List.getElem?_map, class?]

/-- What is found under a key is a class that has it. -/
lemma class?_of_lookup? {r : Registry} {key : String} {id : ClassId}
    (h : r.lookup? key = some id) : ∃ c, r.class? id = some c ∧ c.fqn = key := by
  obtain ⟨hlt, hkey, -⟩ := List.findIdx?_eq_some_iff_getElem.mp h
  exact ⟨_, List.getElem?_eq_getElem hlt, by simpa using hkey⟩

lemma lookup?_eq_none_iff {r : Registry} {key : String} :
    r.lookup? key = none ↔ key ∉ r.fqns := by
  simp [lookup?, fqns]

/-- A key that a class has leads to a class. -/
lemma exists_lookup? {r : Registry} {key : String} (h : key ∈ r.fqns) :
    ∃ id, r.lookup? key = some id := by
  rw [← Option.ne_none_iff_exists']
  exact fun hnone => lookup?_eq_none_iff.mp hnone h

/-- Where no key stands twice, the key of a class leads back to the class. -/
lemma lookup?_fqn {r : Registry} (hr : r.fqns.Nodup) {id : ClassId} {c : ClassRecord}
    (h : r.class? id = some c) : r.lookup? c.fqn = some id := by
  have hmem : c.fqn ∈ r.fqns := List.mem_map_of_mem (List.mem_of_getElem? h)
  obtain ⟨i, hi⟩ := exists_lookup? hmem
  obtain ⟨c', hc', hkey⟩ := class?_of_lookup? hi
  have hplaces : r.fqns[i]? = r.fqns[id]? := by
    rw [getElem?_fqns, getElem?_fqns, hc', h, Option.map_some, Option.map_some, hkey]
  have hlt : i < r.fqns.length := by
    rw [fqns, List.length_map]
    exact exists_class?_iff.mp ⟨c', hc'⟩
  rw [hi, (List.getElem?_inj hlt hr).mp hplaces]

/-- Where no key stands twice, classes with the same key are the same. -/
lemma eq_of_fqn?_eq {r : Registry} (hr : r.fqns.Nodup) {a b : ClassId} {key : String}
    (ha : r.fqn? a = some key) (hb : r.fqn? b = some key) : a = b := by
  obtain ⟨c, hc, rfl⟩ := Option.map_eq_some_iff.mp ha
  obtain ⟨d, hd, hfqn⟩ := Option.map_eq_some_iff.mp hb
  have hback := lookup?_fqn hr hd
  rw [hfqn, lookup?_fqn hr hc] at hback
  exact Option.some.inj hback

/-! ### Registering -/

@[simp] lemma classes_addPackage (r : Registry) (name : String) :
    (r.addPackage name).1.classes = r.classes := by
  unfold addPackage
  simp only
  split <;> rfl

lemma fqns_modify (classes : List ClassRecord) (id : ClassId) (f : ClassRecord → ClassRecord)
    (hf : ∀ c, (f c).fqn = c.fqn) :
    (classes.modify id f).map (·.fqn) = classes.map (·.fqn) := by
  induction classes generalizing id with
  | nil => simp
  | cons c cs ih =>
    cases id with
    | zero => simp [hf]
    | succ id => simp [ih]

/-- A class that is registered keeps its place or comes behind all others. -/
lemma fqns_register (r : Registry) (package simple : String) (kind : DeclKind)
    (path : Option String) :
    (r.register package simple kind path).1.fqns =
      r.fqns ++ fresh r.fqns [classKey package simple] := by
  have hfqns : (r.addPackage package).1.fqns = r.fqns := by
    rw [fqns, classes_addPackage, fqns]
  unfold register
  simp only
  split
  · rename_i id hid
    have hmem : classKey package simple ∈ r.fqns := by
      obtain ⟨c, hc, hkey⟩ := class?_of_lookup? hid
      rw [← hfqns, ← hkey]
      exact List.mem_map_of_mem (List.mem_of_getElem? hc)
    rw [fresh_cons_of_mem hmem, fresh_nil, List.append_nil, ← hfqns]
    exact fqns_modify _ _ _ fun _ => rfl
  · rename_i hnone
    have hmem : classKey package simple ∉ r.fqns := by
      rw [← hfqns]
      exact lookup?_eq_none_iff.mp hnone
    rw [fresh_cons_of_not_mem hmem, fresh_nil]
    simp [fqns]

lemma fqns_registerAll (r : Registry) (package : String) (path : Option String)
    (ds : List Decl) :
    (r.registerAll package path ds).1.fqns =
      r.fqns ++ fresh r.fqns (ds.map fun d => classKey package d.name) := by
  induction ds generalizing r with
  | nil => simp [registerAll]
  | cons d ds ih =>
    simp only [registerAll]
    rw [ih, fqns_register, append_fresh_append, List.map_cons, List.singleton_append]

lemma fqns_registerUnit (r : Registry) (root : String) (u : SourceUnit) :
    (r.registerUnit root u).1.fqns = r.fqns ++ fresh r.fqns u.keys := by
  rw [registerUnit, fqns_registerAll, SourceUnit.keys]
  simp [fqns]

/-- The keys of the registry of source files are those that the files declare, each at its
first place. -/
lemma fqns_ofUnits (root : String) (units : List SourceUnit) :
    (ofUnits root units).fqns = fresh [] (units.flatMap SourceUnit.keys) := by
  have hfold : ∀ r : Registry,
      (units.foldl (fun r u => (r.registerUnit root u).1) r).fqns =
        r.fqns ++ fresh r.fqns (units.flatMap SourceUnit.keys) := by
    induction units with
    | nil => simp
    | cons u units ih =>
      intro r
      rw [List.foldl_cons, ih, fqns_registerUnit, append_fresh_append, List.flatMap_cons]
  exact hfold {}

lemma nodup_fqns_ofUnits (root : String) (units : List SourceUnit) :
    (ofUnits root units).fqns.Nodup := by
  rw [fqns_ofUnits]
  exact nodup_fresh _ _

/-- Every type that a source file declares is registered under its key. -/
lemma exists_lookup?_ofUnits (root : String) {units : List SourceUnit} {u : SourceUnit}
    (hu : u ∈ units) {d : Decl} (hd : d ∈ u.types) :
    ∃ id, (ofUnits root units).lookup? (classKey (u.package.getD "") d.name) = some id := by
  apply exists_lookup?
  rw [fqns_ofUnits, mem_fresh, List.mem_flatMap]
  exact ⟨⟨u, hu, List.mem_map_of_mem hd⟩, List.not_mem_nil⟩

end Registry

end Cartograph
