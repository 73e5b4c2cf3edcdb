import Cartograph.Proofs.Registry.Order

/-!
# How a registry represents what was entered

Classes and packages are named by their places, and everything that is asked of a registry goes
through places. After any calls all ways to a class or a package agree: keys and names stand at
their first places, look-ups invert them, each class is kept under the key of its package and its
name with the latest data, and the classes of a simple name are listed by their keys. The places
that the calls gave on the way are those of the final registry.
-/

namespace Cartograph

open Text Java

/-- A call that builds up a registry. -/
inductive RegistryCall
  | package (name : String)
  | register (package simple : String) (kind : DeclKind) (path : Option String)
  | unit (root : String) (u : SourceUnit)

/-- What a call enters, in order. -/
def RegistryCall.registrations : RegistryCall → List Registration
  | .package name => [.package name]
  | .register name simple kind path => [.type name simple kind path]
  | .unit root u => u.registrations root

namespace Registry

variable {r : Registry} {rs : List Registration}

def perform (r : Registry) : RegistryCall → Registry
  | .package name => (r.addPackage name).1
  | .register package simple kind path => (r.register package simple kind path).1
  | .unit root u => (r.registerUnit root u).1

/-- The registry that calls build up from the empty one. -/
def ofCalls (calls : List RegistryCall) : Registry := calls.foldl perform {}

lemma perform_eq_foldl (r : Registry) (call : RegistryCall) :
    r.perform call = call.registrations.foldl enter r := by
  cases call with
  | package name => rfl
  | register package simple kind path => rfl
  | unit root u => exact r.registerUnit_eq_foldl root u

lemma ofCalls_eq_ofRegistrations (calls : List RegistryCall) :
    ofCalls calls = ofRegistrations (calls.flatMap (·.registrations)) := by
  rw [ofCalls, ofRegistrations, List.foldl_flatMap]
  congr 1
  funext r call
  exact r.perform_eq_foldl call

/-! ### Look-ups -/

/-- Where no key stands twice, looking up a key inverts the keys of the classes. -/
lemma lookup?_eq_some_iff (hr : r.fqns.Nodup) {key : String} {id : ClassId} :
    r.lookup? key = some id ↔ ∃ c, r.class? id = some c ∧ c.fqn = key := by
  constructor
  · exact class?_of_lookup?
  · rintro ⟨c, hc, rfl⟩
    exact lookup?_fqn hr hc

/-- Where no name stands twice, looking up a name inverts the names of the packages. -/
lemma packageNamed?_eq_some_iff (hr : r.packages.Nodup) {name : String} {id : PackageId} :
    r.packageNamed? name = some id ↔ r.package? id = some name := by
  constructor
  · exact package?_of_packageNamed?
  · intro h
    obtain ⟨i, hi⟩ := exists_packageNamed? (List.mem_of_getElem? h)
    have hplaces : r.packages[i]? = r.packages[id]? := (package?_of_packageNamed? hi).trans h.symm
    have hlt : i < r.packages.length :=
      (List.getElem?_eq_some_iff.mp (package?_of_packageNamed? hi)).1
    rw [hi, (List.getElem?_inj hlt hr).mp hplaces]

lemma mem_namesakes {simple : String} {x : String × ClassId} :
    x ∈ r.namesakes simple ↔
      ∃ c, r.class? x.2 = some c ∧ c.simpleName = simple ∧ c.fqn = x.1 := by
  rw [namesakes, List.mem_filterMap]
  constructor
  · rintro ⟨id, -, hid⟩
    obtain ⟨c, hc, hsome⟩ := Option.bind_eq_some_iff.mp hid
    split_ifs at hsome with hsimple
    cases hsome
    exact ⟨c, hc, hsimple, rfl⟩
  · rintro ⟨c, hc, hsimple, hfqn⟩
    refine ⟨x.2, List.mem_range.mpr (exists_class?_iff.mp ⟨c, hc⟩), ?_⟩
    rw [hc, Option.bind_some, if_pos hsimple, hfqn]

/-- The classes that are listed under a simple name are those that have it. -/
lemma mem_bySimpleName {simple : String} {id : ClassId} :
    id ∈ r.bySimpleName simple ↔ ∃ c, r.class? id = some c ∧ c.simpleName = simple := by
  have hmem : id ∈ r.bySimpleName simple ↔ ∃ x ∈ r.namesakes simple, x.2 = id := by
    simp only [bySimpleName, List.mem_map, List.mem_mergeSort]
    rfl
  rw [hmem]
  constructor
  · rintro ⟨x, hx, rfl⟩
    obtain ⟨c, hc, hsimple, -⟩ := mem_namesakes.mp hx
    exact ⟨c, hc, hsimple⟩
  · rintro ⟨c, hc, hsimple⟩
    exact ⟨(c.fqn, id), mem_namesakes.mpr ⟨c, hc, hsimple, rfl⟩, rfl⟩

/-- Both classes are registered, and the key of the first is the smaller one. -/
def KeyLt (r : Registry) (a b : ClassId) : Prop :=
  ∃ c d, r.class? a = some c ∧ r.class? b = some d ∧ c.fqn < d.fqn

lemma KeyLt.not_keyLt {a b : ClassId} (h : r.KeyLt a b) : ¬r.KeyLt b a := by
  obtain ⟨c, d, hc, hd, hlt⟩ := h
  rintro ⟨d', c', hd', hc', hgt⟩
  rw [hc, Option.some.injEq] at hc'
  rw [hd, Option.some.injEq] at hd'
  subst hc' hd'
  exact String.lt_asymm hlt hgt

instance (r : Registry) : Std.Irrefl r.KeyLt where
  irrefl _ h := h.not_keyLt h

instance (r : Registry) : Std.Antisymm r.KeyLt where
  antisymm _ _ h h' := absurd h' h.not_keyLt

/-- The keys of the classes of a simple name strictly ascend. -/
lemma pairwise_bySimpleName (hr : r.fqns.Nodup) (simple : String) :
    (r.bySimpleName simple).Pairwise r.KeyLt := by
  let sorted := (r.namesakes simple).mergeSort fun a b => a.1 ≤ b.1
  have hnodup : ((r.namesakes simple).map (·.1)).Nodup := by
    rw [map_fst_namesakes]
    exact hr.sublist (List.filter_sublist.map _)
  have hkeys : sorted.Pairwise fun a b => a.1 < b.1 := by
    rw [← List.pairwise_map, map_fst_mergeSort]
    exact pairwise_lt_mergeSort hnodup
  have hclass : ∀ x ∈ sorted, ∃ c, r.class? x.2 = some c ∧ c.fqn = x.1 := by
    intro x hx
    obtain ⟨c, hc, -, hfqn⟩ := mem_namesakes.mp (List.mem_mergeSort.mp hx)
    exact ⟨c, hc, hfqn⟩
  have hids : r.bySimpleName simple = sorted.map (·.2) := rfl
  rw [hids, List.pairwise_map]
  refine hkeys.imp_of_mem fun {a b} ha hb hlt => ?_
  obtain ⟨c, hc, hcfqn⟩ := hclass a ha
  obtain ⟨d, hd, hdfqn⟩ := hclass b hb
  exact ⟨c, d, hc, hd, by rw [hcfqn, hdfqn]; exact hlt⟩

/-! ### Later entries -/

/-- What is entered later comes behind the keys that are there. -/
lemma isPrefix_fqns_append (rs more : List Registration) :
    (ofRegistrations rs).fqns <+: (ofRegistrations (rs ++ more)).fqns := by
  rw [(records_ofRegistrations rs).fqns_eq, (records_ofRegistrations (rs ++ more)).fqns_eq,
    List.filterMap_append, fresh_append]
  exact List.prefix_append _ _

lemma isPrefix_packages_append (rs more : List Registration) :
    (ofRegistrations rs).packages <+: (ofRegistrations (rs ++ more)).packages := by
  rw [(records_ofRegistrations rs).packages_eq, (records_ofRegistrations (rs ++ more)).packages_eq,
    List.map_append, fresh_append]
  exact List.prefix_append _ _

lemma getElem?_mono {α : Type} {as bs : List α} (h : as <+: bs) {i : Nat} {a : α}
    (hi : as[i]? = some a) : bs[i]? = some a := by
  obtain ⟨hlt, rfl⟩ := List.getElem?_eq_some_iff.mp hi
  exact List.prefix_iff_getElem?.mp h i hlt

/-- A class keeps its key. -/
lemma fqn?_mono {r' : Registry} (h : r.fqns <+: r'.fqns) {id : ClassId} {key : String}
    (hid : r.fqn? id = some key) : r'.fqn? id = some key := by
  rw [fqn?, ← getElem?_fqns] at hid ⊢
  exact getElem?_mono h hid

/-- The place that a class is given is that of its key. -/
lemma fqn?_register (r : Registry) (package simple : String) (kind : DeclKind)
    (path : Option String) :
    (r.register package simple kind path).1.fqn? (r.register package simple kind path).2 =
      some (classKey package simple) := by
  unfold register
  simp only
  split
  · rename_i id hid
    obtain ⟨c, hc, hkey⟩ := class?_of_lookup? hid
    rw [class?, classes_addPackage] at hc
    simp [fqn?, class?, hc, hkey]
  · simp [fqn?, class?]

/-- The places that declared types are given are those of their keys. -/
lemma map_fqn?_registerAll (r : Registry) (package : String) (path : Option String)
    (ds : List Decl) :
    (r.registerAll package path ds).2.map (r.registerAll package path ds).1.fqn? =
      ds.map fun d => some (classKey package d.name) := by
  induction ds generalizing r with
  | nil => rfl
  | cons d ds ih =>
    let r' := (r.register package d.name d.kind path).1
    have hkept : r'.fqns <+: (r'.registerAll package path ds).1.fqns := by
      rw [fqns_registerAll]
      exact List.prefix_append _ _
    simp only [registerAll, List.map_cons, List.cons.injEq]
    exact ⟨fqn?_mono hkept (r.fqn?_register package d.name d.kind path), ih r'⟩

/-! ### What calls answer -/

/-- The answer of a call on a registry is right in a later registry: it is the place of the package,
of the class, or of each class in order. -/
def Answers (r final : Registry) : RegistryCall → Prop
  | .package name =>
    final.package? (r.addPackage name).2 = some (if name = "" then defaultPackage else name)
  | .register package simple kind path =>
    final.fqn? (r.register package simple kind path).2 = some (classKey package simple)
  | .unit root u => (r.registerUnit root u).2.map final.fqn? = u.keys.map some

lemma answers_perform (r : Registry) (call : RegistryCall) : r.Answers (r.perform call) call := by
  cases call with
  | package name => exact r.getElem?_addPackage name
  | register package simple kind path => exact r.fqn?_register package simple kind path
  | unit root u =>
    rw [Answers, perform, registerUnit, map_fqn?_registerAll, SourceUnit.keys, List.map_map]
    rfl

/-- An answer stays right as long as nothing loses its place. -/
lemma Answers.mono {mid final : Registry} {call : RegistryCall} (h : r.Answers mid call)
    (hpackages : mid.packages <+: final.packages) (hfqns : mid.fqns <+: final.fqns) :
    r.Answers final call := by
  cases call with
  | package name => exact getElem?_mono hpackages h
  | register package simple kind path => exact fqn?_mono hfqns h
  | unit root u =>
    rw [Answers] at h ⊢
    rw [← h]
    apply List.map_congr_left
    intro id hid
    obtain ⟨key, -, hkey⟩ := List.mem_map.mp (h ▸ List.mem_map_of_mem hid)
    rw [← hkey]
    exact fqn?_mono hfqns hkey.symm

/-- The answers of all calls are right in the final registry. -/
lemma answers_ofCalls (before after : List RegistryCall) (call : RegistryCall) :
    (ofCalls before).Answers (ofCalls (before ++ call :: after)) call := by
  have hmid : (ofCalls before).perform call = ofCalls (before ++ [call]) := by
    rw [ofCalls, ofCalls, List.foldl_concat]
  have hanswer := (ofCalls before).answers_perform call
  rw [hmid, ofCalls_eq_ofRegistrations (before ++ [call])] at hanswer
  have hfinal : ofCalls (before ++ call :: after) =
      ofRegistrations ((before ++ [call]).flatMap (·.registrations) ++
        after.flatMap (·.registrations)) := by
    rw [ofCalls_eq_ofRegistrations, ← List.flatMap_append, List.append_assoc, List.singleton_append]
  rw [hfinal]
  exact hanswer.mono (isPrefix_packages_append _ _) (isPrefix_fqns_append _ _)

/-! ### The whole registry -/

/-- The registry represents the entries: the keys and the names of packages are those entered, each
once and at its first place, a class is kept under the key of its package and its simple name with
the last kind and the last path that were given, and all look-ups agree with this. -/
structure Represents (r : Registry) (rs : List Registration) : Prop where
  keys_distinct : r.fqns.Nodup
  keys_eq : r.fqns = (rs.filterMap (·.key?)).eraseDups
  lookup_iff : ∀ key id, r.lookup? key = some id ↔ ∃ c, r.class? id = some c ∧ c.fqn = key
  key_eq : ∀ c ∈ r.classes,
    ∃ name, r.package? c.package = some name ∧ classKey name c.simpleName = c.fqn
  last_kind : ∀ c ∈ r.classes, (rs.filterMap (·.kindUnder? c.fqn)).getLast? = some c.kind
  last_path : ∀ c ∈ r.classes, (rs.filterMap (·.pathUnder? c.fqn)).getLast? = c.sourcePath
  names_distinct : r.packages.Nodup
  names_eq : r.packages = (rs.map (·.packageName)).eraseDups
  packageNamed_iff : ∀ name id, r.packageNamed? name = some id ↔ r.package? id = some name
  mem_bySimpleName : ∀ simple id,
    id ∈ r.bySimpleName simple ↔ ∃ c, r.class? id = some c ∧ c.simpleName = simple
  bySimpleName_ascending : ∀ simple, (r.bySimpleName simple).Pairwise r.KeyLt

end Registry

/-- A class is kept under the key of the package and the name that were entered first. -/
lemma ClassRecord.SumsUp.key_eq {c : ClassRecord} {packages : List String}
    {rs : List Registration} (h : c.SumsUp packages rs) :
    ∃ name, packages[c.package]? = some name ∧ classKey name c.simpleName = c.fqn := by
  obtain ⟨x, hx, hsimple, hpackage⟩ := h.first
  have hkey : x.key? = some c.fqn := by simpa using List.find?_some hx
  cases x with
  | package name => cases hkey
  | type name simple kind path =>
    cases hsimple
    refine ⟨_, hpackage, ?_⟩
    rw [← Option.some.inj hkey]
    -- both spellings of the default package give the same key
    by_cases hname : name = "" <;> simp [Registration.packageName, classKey, hname, defaultPackage]

namespace Registry

lemma Records.represents {r : Registry} {rs : List Registration} (h : r.Records rs) :
    r.Represents rs where
  keys_distinct := h.nodup_fqns
  keys_eq := by rw [h.fqns_eq, fresh_eq_eraseDups]
  lookup_iff _ _ := lookup?_eq_some_iff h.nodup_fqns
  key_eq c hc := (h.sumsUp c hc).key_eq
  last_kind c hc := (h.sumsUp c hc).last_kind
  last_path c hc := (h.sumsUp c hc).last_path
  names_distinct := h.nodup_packages
  names_eq := by rw [h.packages_eq, fresh_eq_eraseDups]
  packageNamed_iff _ _ := packageNamed?_eq_some_iff h.nodup_packages
  mem_bySimpleName _ _ := mem_bySimpleName
  bySimpleName_ascending := pairwise_bySimpleName h.nodup_fqns

end Registry

end Cartograph
