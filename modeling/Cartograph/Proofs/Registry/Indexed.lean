import Cartograph.Proofs.Registry.Representation

/-!
# Registries with indexes

A registry that is built with indexes finds packages and classes without a search: while it is
built, two hash maps lead from the names of packages and the keys of classes to their places, and
when it is finished, a third one leads from simple names to the classes that have them. It follows
the registry without indexes through all calls and then answers every question alike. The main
statement puts this together with what the registry represents.
-/

namespace Cartograph

open Text Java

/-- A registered package with its place and that of the nearest registered package above it. -/
structure PackageEntry where
  id : PackageId
  name : String
  simpleName : String
  parent : Option PackageId

/-- A registered class with its place. -/
structure ClassEntry extends ClassRecord where
  id : ClassId

/-- A registry that is being built, with the places of the names and of the keys. -/
structure RegistryBuilder where
  packages : List PackageEntry := []
  packageIndex : Std.HashMap String PackageId := ∅
  classes : List ClassEntry := []
  classIndex : Std.HashMap String ClassId := ∅

/-- A finished registry, with the places of the classes of each simple name. -/
structure IndexedRegistry extends RegistryBuilder where
  simpleNameIndex : Std.HashMap String (List ClassId)

namespace RegistryBuilder

/-! ### Building -/

def addPackage (b : RegistryBuilder) (name : String) : RegistryBuilder × PackageId :=
  let name := if name = "" then defaultPackage else name
  match b.packageIndex[name]? with
  | some id => (b, id)
  | none =>
    let id := b.packages.length
    ({ b with
        packages := b.packages ++ [⟨id, name, simpleName name, none⟩]
        packageIndex := b.packageIndex.insert name id }, id)

def register (b : RegistryBuilder) (package simple : String) (kind : DeclKind)
    (path : Option String) : RegistryBuilder × ClassId :=
  let (b, packageId) := b.addPackage package
  let key := classKey package simple
  match b.classIndex[key]? with
  | some id =>
    let update (c : ClassEntry) : ClassEntry :=
      { c with kind, sourcePath := path.or c.sourcePath }
    ({ b with classes := b.classes.modify id update }, id)
  | none =>
    let id := b.classes.length
    ({ b with
        classes := b.classes ++ [⟨⟨key, simple, packageId, kind, path⟩, id⟩]
        classIndex := b.classIndex.insert key id }, id)

def registerAll (b : RegistryBuilder) (package : String) (path : Option String) :
    List Decl → RegistryBuilder × List ClassId
  | [] => (b, [])
  | d :: ds =>
    let (b, id) := b.register package d.name d.kind path
    let (b, ids) := registerAll b package path ds
    (b, id :: ids)

def registerUnit (b : RegistryBuilder) (root : String) (unit : SourceUnit) :
    RegistryBuilder × List ClassId :=
  let package := unit.package.getD ""
  let path := (Path.relativeTo? root unit.path).getD unit.path
  (b.addPackage package).1.registerAll package (some path) unit.types

/-- The builder after a call, and the places that the call gives. -/
def perform (b : RegistryBuilder) : RegistryCall → RegistryBuilder × List Nat
  | .package name => (b.addPackage name).map id ([·])
  | .register package simple kind path => (b.register package simple kind path).map id ([·])
  | .unit root u => b.registerUnit root u

/-- The builder after calls on an empty one. -/
def ofCalls (calls : List RegistryCall) : RegistryBuilder :=
  calls.foldl (fun b call => (b.perform call).1) {}

/-! ### Finishing -/

/-- The places of the classes under their simple names, in the order of the classes. -/
def groups (classes : List ClassEntry) : Std.HashMap String (List ClassId) :=
  classes.foldl (fun m c => m.alter c.simpleName fun ids => some (ids.getD [] ++ [c.id])) ∅

/-- The key of the class at a place. -/
def keyAt (b : RegistryBuilder) (id : ClassId) : String := (b.classes[id]?.map (·.fqn)).getD ""

/-- The finished registry: packages are linked to the nearest registered ones above them, and the
classes of a simple name are put in the order of their keys. -/
def freeze (b : RegistryBuilder) : IndexedRegistry :=
  { b with
    packages := b.packages.map fun p =>
      { p with
        parent := (Registry.ancestors p.name.length p.name).findSome? (b.packageIndex[·]?) }
    simpleNameIndex := (groups b.classes).map fun _ ids =>
      ids.mergeSort fun i j => b.keyAt i ≤ b.keyAt j }

end RegistryBuilder

namespace IndexedRegistry

/-! ### Looking up -/

def class? (f : IndexedRegistry) (id : ClassId) : Option ClassEntry := f.classes[id]?

def package? (f : IndexedRegistry) (id : PackageId) : Option PackageEntry := f.packages[id]?

def lookup? (f : IndexedRegistry) (key : String) : Option ClassId := f.classIndex[key]?

def packageNamed? (f : IndexedRegistry) (name : String) : Option PackageEntry :=
  f.packageIndex[name]?.bind f.package?

def packageOf? (f : IndexedRegistry) (id : ClassId) : Option PackageEntry :=
  (f.class? id).bind fun c => f.package? c.package

def keys (f : IndexedRegistry) : List String := f.classIndex.keys.mergeSort (· ≤ ·)

def bySimpleName (f : IndexedRegistry) (simple : String) : List ClassId :=
  f.simpleNameIndex.getD simple []

def resolveTarget? (f : IndexedRegistry) (identifier : String) : Option ClassId :=
  (f.lookup? identifier).or (f.lookup? (classKey "" (simpleName identifier)))

def findUnder? (f : IndexedRegistry) (simple package : String) : Option ClassId :=
  (f.lookup? (classKey package simple)).or
    ((f.bySimpleName simple).find? fun id =>
      (f.packageOf? id).any fun p =>
        p.name != defaultPackage && p.name.startsWith (package ++ "."))

end IndexedRegistry

namespace Registry

/-- The places that a call gives. -/
def placesOf (r : Registry) : RegistryCall → List Nat
  | .package name => [(r.addPackage name).2]
  | .register package simple kind path => [(r.register package simple kind path).2]
  | .unit root u => (r.registerUnit root u).2

/-- A key is found by the keys alone. -/
lemma lookup?_eq_of_fqns {r r' : Registry} (h : r.fqns = r'.fqns) (key : String) :
    r.lookup? key = r'.lookup? key := by
  have hfqns (r : Registry) : r.lookup? key = r.fqns.findIdx? (· == key) := by
    rw [fqns, List.findIdx?_map]
    rfl
  rw [hfqns, hfqns, h]

end Registry

/-! ### Following the calls -/

/-- The builder holds what the registry holds, and its indexes lead where a search leads. -/
structure RegistryBuilder.Follows (b : RegistryBuilder) (r : Registry) : Prop where
  packages_eq : b.packages =
    r.packages.zipIdx.map fun (name, id) => ⟨id, name, simpleName name, none⟩
  packageIndex_eq : ∀ name, b.packageIndex[name]? = r.packageNamed? name
  classes_eq : b.classes = r.classes.zipIdx.map fun (c, id) => { c with id }
  classIndex_eq : ∀ key, b.classIndex[key]? = r.lookup? key

/-- An index that leads to the first entry with a key still does so when a new key is added at the
end. -/
lemma getElem?_insert_concat {α : Type} (key : α → String) (new : α)
    {index : Std.HashMap String Nat} {entries : List α}
    (h : ∀ k, index[k]? = entries.findIdx? (key · == k))
    (hnew : entries.findIdx? (key · == key new) = none) (k : String) :
    (index.insert (key new) entries.length)[k]? = (entries ++ [new]).findIdx? (key · == k) := by
  rw [Std.HashMap.getElem?_insert, List.findIdx?_append, List.findIdx?_singleton, h]
  by_cases hk : key new = k
  · subst hk
    simp [hnew]
  · simp [hk]

namespace RegistryBuilder.Follows

variable {b : RegistryBuilder} {r : Registry}

lemma length_packages (h : b.Follows r) : b.packages.length = r.packages.length := by
  simp [h.packages_eq]

lemma length_classes (h : b.Follows r) : b.classes.length = r.classes.length := by
  simp [h.classes_eq]

lemma addPackage (h : b.Follows r) (name : String) :
    (b.addPackage name).1.Follows (r.addPackage name).1 ∧
      (b.addPackage name).2 = (r.addPackage name).2 := by
  unfold RegistryBuilder.addPackage Registry.addPackage
  simp only [h.packageIndex_eq, h.length_packages]
  generalize (if name = "" then defaultPackage else name) = name
  cases hid : r.packageNamed? name with
  | some id => exact ⟨h, rfl⟩
  | none =>
    refine ⟨⟨?_, ?_, h.classes_eq, h.classIndex_eq⟩, rfl⟩
    · simp [h.packages_eq, List.zipIdx_append]
    · exact getElem?_insert_concat id name h.packageIndex_eq hid

/-- A class that is registered again changes in the same place. -/
lemma modify (h : b.Follows r) (id : ClassId) (kind : DeclKind) (path : Option String) :
    RegistryBuilder.Follows
      { b with classes := b.classes.modify id fun c =>
          { c with kind, sourcePath := path.or c.sourcePath } }
      { r with classes := r.classes.modify id fun c =>
          { c with kind, sourcePath := path.or c.sourcePath } } := by
  refine ⟨h.packages_eq, h.packageIndex_eq, ?_, fun key => ?_⟩
  · apply List.ext_getElem?
    intro i
    simp only [h.classes_eq, List.getElem?_modify, List.getElem?_map, List.getElem?_zipIdx]
    cases r.classes[i]? with
    | none => rfl
    | some c => by_cases hi : id = i <;> simp [hi]
  · have hfqns := Registry.fqns_modify r.classes id
      (fun c => { c with kind, sourcePath := path.or c.sourcePath }) fun _ => rfl
    rw [h.classIndex_eq]
    apply Registry.lookup?_eq_of_fqns
    exact hfqns.symm

lemma register (h : b.Follows r) (package simple : String) (kind : DeclKind)
    (path : Option String) :
    (b.register package simple kind path).1.Follows (r.register package simple kind path).1 ∧
      (b.register package simple kind path).2 = (r.register package simple kind path).2 := by
  obtain ⟨hpackage, hid⟩ := h.addPackage package
  unfold RegistryBuilder.register Registry.register
  simp only [hpackage.classIndex_eq, hpackage.length_classes, hid]
  cases hlookup : (r.addPackage package).1.lookup? (classKey package simple) with
  | some id => exact ⟨hpackage.modify id kind path, rfl⟩
  | none =>
    refine ⟨⟨hpackage.packages_eq, hpackage.packageIndex_eq, ?_, ?_⟩, rfl⟩
    · simp [hpackage.classes_eq, List.zipIdx_append]
    · exact getElem?_insert_concat ClassRecord.fqn
        ⟨classKey package simple, simple, (r.addPackage package).2, kind, path⟩
        hpackage.classIndex_eq hlookup

lemma registerAll (h : b.Follows r) (package : String) (path : Option String) (ds : List Decl) :
    (b.registerAll package path ds).1.Follows (r.registerAll package path ds).1 ∧
      (b.registerAll package path ds).2 = (r.registerAll package path ds).2 := by
  induction ds generalizing b r with
  | nil => exact ⟨h, rfl⟩
  | cons d ds ih =>
    obtain ⟨hregister, hid⟩ := h.register package d.name d.kind path
    obtain ⟨hrest, hids⟩ := ih hregister
    exact ⟨hrest, congrArg₂ List.cons hid hids⟩

/-- A call keeps the builder in step with the registry and gives the same places. -/
lemma perform (h : b.Follows r) (call : RegistryCall) :
    (b.perform call).1.Follows (r.perform call) ∧ (b.perform call).2 = r.placesOf call := by
  cases call with
  | package name =>
    obtain ⟨hpackage, hid⟩ := h.addPackage name
    exact ⟨hpackage, by rw [RegistryBuilder.perform, Registry.placesOf, ← hid]; rfl⟩
  | register package simple kind path =>
    obtain ⟨hregister, hid⟩ := h.register package simple kind path
    exact ⟨hregister, by rw [RegistryBuilder.perform, Registry.placesOf, ← hid]; rfl⟩
  | unit root u => exact (h.addPackage _).1.registerAll _ _ u.types

end RegistryBuilder.Follows

/-- The builder follows the registry through any calls. -/
lemma RegistryBuilder.follows_ofCalls (calls : List RegistryCall) :
    (ofCalls calls).Follows (Registry.ofCalls calls) := by
  induction calls using List.reverseRecOn with
  | nil => exact ⟨rfl, by simp [ofCalls, Registry.ofCalls, Registry.packageNamed?], rfl,
      by simp [ofCalls, Registry.ofCalls, Registry.lookup?]⟩
  | append_singleton calls call ih =>
    rw [ofCalls, Registry.ofCalls, List.foldl_concat, List.foldl_concat]
    exact (ih.perform call).1

/-! ### Answers of the finished registry -/

/-- The registry with indexes answers every question as the other one does; its entries know their
places, and the packages the nearest ones above them. -/
structure IndexedRegistry.Agrees (f : IndexedRegistry) (r : Registry) : Prop where
  class? : ∀ id, f.class? id = (r.class? id).map fun c => { c with id }
  package? : ∀ id, f.package? id =
    (r.package? id).map fun name => ⟨id, name, simpleName name, r.parent? id⟩
  lookup? : ∀ key, f.lookup? key = r.lookup? key
  packageNamed? : ∀ name, (f.packageNamed? name).map (·.id) = r.packageNamed? name
  packageOf? : ∀ id, (f.packageOf? id).map (·.id) = r.packageOf? id
  keys : f.keys = r.keys
  bySimpleName : ∀ simple, f.bySimpleName simple = r.bySimpleName simple
  resolveTarget? : ∀ name, f.resolveTarget? name = r.resolveTarget? name
  findUnder? : ∀ simple package, f.findUnder? simple package = r.findUnder? simple package

namespace RegistryBuilder

/-- The classes of a simple name are grouped in the order of the classes. -/
lemma getD_groups (classes : List ClassEntry) (simple : String) :
    (groups classes).getD simple [] =
      (classes.filter (·.simpleName = simple)).map (·.id) := by
  induction classes using List.reverseRecOn with
  | nil => simp [groups]
  | append_singleton classes c ih =>
    rw [groups, List.foldl_concat, Std.HashMap.getD_alter, ← groups]
    by_cases hsimple : c.simpleName = simple
    · simp [hsimple, ← ih, Std.HashMap.getD_eq_getD_getElem?]
    · simp [hsimple, ih]

namespace Follows

variable {b : RegistryBuilder} {r : Registry}

lemma class?_freeze (h : b.Follows r) (id : ClassId) :
    b.freeze.class? id = (r.class? id).map fun c => { c with id } := by
  rw [IndexedRegistry.class?, freeze, h.classes_eq, Registry.class?]
  simp [List.getElem?_zipIdx, Function.comp_def]

lemma package?_freeze (h : b.Follows r) (id : PackageId) :
    b.freeze.package? id =
      (r.package? id).map fun name => ⟨id, name, simpleName name, r.parent? id⟩ := by
  have hindex : (fun name => b.packageIndex[name]?) = r.packageNamed? := funext h.packageIndex_eq
  rw [IndexedRegistry.package?, freeze, h.packages_eq, Registry.parent?, hindex, Registry.package?]
  cases hname : r.packages[id]? <;> simp [List.getElem?_zipIdx, hname]

lemma keys_freeze (h : b.Follows r) (hr : r.fqns.Nodup) : b.freeze.keys = r.keys := by
  have hperm : b.classIndex.keys.Perm r.fqns := by
    rw [List.perm_ext_iff_of_nodup Std.HashMap.nodup_keys hr]
    intro key
    rw [Std.HashMap.mem_keys, Std.HashMap.mem_iff_isSome_getElem?, h.classIndex_eq,
      Option.isSome_iff_ne_none, ne_eq, Registry.lookup?_eq_none_iff, not_not]
  exact mergeSort_eq_of_perm hperm

/-- The places that are grouped under a simple name are those of its classes. -/
lemma getD_groups (h : b.Follows r) (simple : String) :
    (groups b.classes).getD simple [] = (r.namesakes simple).map (·.2) := by
  have hnamesakes : r.namesakes simple = r.classes.zipIdx.filterMap fun x =>
      if x.1.simpleName = simple then some (x.1.fqn, x.2) else none :=
    Registry.filterMap_range_zipIdx r.classes fun c id =>
      if c.simpleName = simple then some (c.fqn, id) else none
  rw [RegistryBuilder.getD_groups, hnamesakes, h.classes_eq, List.filter_map, List.map_map,
    List.map_filterMap, ← List.filterMap_eq_map, List.filterMap_filter]
  refine List.filterMap_congr fun x _ => ?_
  by_cases hsimple : x.1.simpleName = simple <;> simp [hsimple]

lemma keyAt_of_mem (h : b.Follows r) {simple : String} {x : String × ClassId}
    (hx : x ∈ r.namesakes simple) : b.keyAt x.2 = x.1 := by
  have hclass := h.class?_freeze x.2
  obtain ⟨c, hc, -, hfqn⟩ := Registry.mem_namesakes.mp hx
  rw [hc, Option.map_some] at hclass
  have hat : b.classes[x.2]? = some { c with id := x.2 } := hclass
  rw [keyAt, hat]
  exact hfqn

lemma bySimpleName_freeze (h : b.Follows r) (simple : String) :
    b.freeze.bySimpleName simple = r.bySimpleName simple := by
  have hsort : b.freeze.bySimpleName simple =
      ((groups b.classes).getD simple []).mergeSort fun i j => b.keyAt i ≤ b.keyAt j := by
    rw [IndexedRegistry.bySimpleName, freeze, Std.HashMap.getD_eq_getD_getElem?,
      Std.HashMap.getD_eq_getD_getElem?, Std.HashMap.getElem?_map]
    cases (groups b.classes)[simple]? <;> simp
  have hkeys : ∀ x ∈ r.namesakes simple, ∀ y ∈ r.namesakes simple,
      decide (x.1 ≤ y.1) = decide (b.keyAt x.2 ≤ b.keyAt y.2) := by
    intro x hx y hy
    rw [h.keyAt_of_mem hx, h.keyAt_of_mem hy]
  rw [hsort, h.getD_groups]
  exact (List.map_mergeSort hkeys).symm

/-- A builder that has followed a registry answers as the registry does when it is finished. -/
lemma agrees_freeze (h : b.Follows r) (hr : r.fqns.Nodup) : b.freeze.Agrees r := by
  have hlookup (key : String) : b.freeze.lookup? key = r.lookup? key := h.classIndex_eq key
  have hname (id : ClassId) : (b.freeze.packageOf? id).map (·.name) = r.packageNameOf? id := by
    rw [IndexedRegistry.packageOf?, h.class?_freeze, Registry.packageNameOf?]
    cases r.class? id with
    | none => rfl
    | some c => simp [h.package?_freeze, Function.comp_def]
  refine ⟨h.class?_freeze, h.package?_freeze, hlookup, ?_, ?_, h.keys_freeze hr,
    h.bySimpleName_freeze, ?_, ?_⟩
  · intro name
    have hindex : b.freeze.packageIndex[name]? = r.packageNamed? name := h.packageIndex_eq name
    rw [IndexedRegistry.packageNamed?, hindex]
    cases hid : r.packageNamed? name with
    | none => rfl
    | some id => simp [h.package?_freeze, Registry.package?_of_packageNamed? hid]
  · intro id
    rw [IndexedRegistry.packageOf?, h.class?_freeze, Registry.packageOf?]
    cases r.class? id with
    | none => rfl
    | some c =>
      by_cases hlt : c.package < r.packages.length <;>
        simp [h.package?_freeze, Registry.package?, hlt]
  · intro name
    rw [IndexedRegistry.resolveTarget?, hlookup, hlookup, Registry.resolveTarget?]
  · intro simple package
    rw [IndexedRegistry.findUnder?, hlookup, h.bySimpleName_freeze, Registry.findUnder?]
    congr 2
    funext id
    rw [← hname id]
    cases b.freeze.packageOf? id <;> rfl

end Follows

end RegistryBuilder

namespace Registry

/-- After any calls the registry represents what they entered, and each call has answered with the
places that its packages and classes have in the end. A registry that is built with indexes gives
the same places on the way, and when it is finished it answers alike. -/
theorem represents_ofCalls (calls : List RegistryCall) :
    (ofCalls calls).Represents (calls.flatMap (·.registrations)) ∧
      (∀ before call after, calls = before ++ call :: after →
        (ofCalls before).Answers (ofCalls calls) call ∧
          ((RegistryBuilder.ofCalls before).perform call).2 = (ofCalls before).placesOf call) ∧
      (RegistryBuilder.ofCalls calls).freeze.Agrees (ofCalls calls) := by
  have hrecords : (ofCalls calls).Records (calls.flatMap (·.registrations)) := by
    rw [ofCalls_eq_ofRegistrations]
    exact records_ofRegistrations _
  refine ⟨hrecords.represents, ?_, ?_⟩
  · rintro before call after rfl
    exact ⟨answers_ofCalls before after call,
      ((RegistryBuilder.follows_ofCalls before).perform call).2⟩
  · exact (RegistryBuilder.follows_ofCalls calls).agrees_freeze hrecords.nodup_fqns

end Registry

end Cartograph
