import Cartograph.Proofs.Registry.Registrations
import Cartograph.Proofs.Text.Ascending
import Cartograph.Proofs.Text.Dotted
import Cartograph.Scope

/-!
# Registries do not depend on the order of the files

The places of classes and packages depend on the order in which files are registered, and so does
what is kept of a class that several files declare. What a registry tells about names does not. If
no type has a dot in its name, the key of a class determines its name and its package, so all
answers can be read off the keys in ascending order and the set of the packages. Resolution asks a
registry for nothing else, so every name means the same.
-/

namespace Cartograph

open Text Java

lemma simpleName_classKey (package : String) {simple : String} (h : '.' ∉ simple.toList) :
    simpleName (classKey package simple) = simple :=
  simpleName_qualified _ h

lemma qualifier_classKey (package : String) {simple : String} (h : '.' ∉ simple.toList) :
    qualifier (classKey package simple) = if package = "" then defaultPackage else package :=
  qualifier_qualified _ h

namespace Registry

variable {r r' : Registry} {rs : List Registration}

/-- The name of the nearest registered package above a registered one. -/
def parentName? (r : Registry) (name : String) : Option String :=
  ((r.packageNamed? name).bind r.parent?).bind r.package?

/-- The name of a class and that of its package are those that its key is made of. -/
def NamedByKeys (r : Registry) : Prop :=
  ∀ c ∈ r.classes, c.simpleName = simpleName c.fqn ∧ r.package? c.package = some (qualifier c.fqn)

/-- A key determines the names as long as no simple name has a dot. -/
lemma Records.namedByKeys (h : r.Records rs)
    (hdot : ∀ x ∈ rs, ∀ simple, x.simple? = some simple → '.' ∉ simple.toList) :
    r.NamedByKeys := by
  intro c hc
  obtain ⟨x, hx, hsimple, hpackage⟩ := (h.sumsUp c hc).first
  have hfree := hdot x (List.mem_of_find?_eq_some hx) _ hsimple
  have hkey : x.key? = some c.fqn := by simpa using List.find?_some hx
  cases x with
  | package name => cases hkey
  | type name simple kind path =>
    cases hsimple
    rw [← Option.some.inj hkey, simpleName_classKey name hfree, qualifier_classKey name hfree]
    exact ⟨rfl, hpackage⟩

/-! ### Answers read off the keys -/

lemma mem_keys {key : String} : key ∈ r.keys ↔ key ∈ r.fqns := (List.mergeSort_perm _ _).mem_iff

lemma filterMap_range_zipIdx {α β : Type} (as : List α) (f : α → Nat → Option β) :
    ((List.range as.length).filterMap fun i => as[i]?.bind (f · i)) =
      as.zipIdx.filterMap fun x => f x.1 x.2 := by
  have hsome : ((List.range as.length).map fun i => as[i]?.map (·, i)) = as.zipIdx.map some := by
    apply List.ext_getElem <;> simp
  calc ((List.range as.length).filterMap fun i => as[i]?.bind (f · i))
      = ((List.range as.length).map fun i => as[i]?.map (·, i)).filterMap
          (·.bind fun x => f x.1 x.2) := by
        rw [List.filterMap_map]
        refine List.filterMap_congr fun i _ => ?_
        simp only [Function.comp_apply]
        cases as[i]? <;> rfl
    _ = as.zipIdx.filterMap fun x => f x.1 x.2 := by
        rw [hsome, List.filterMap_map]
        rfl

lemma filterMap_range_getElem? {α β : Type} (as : List α) (f : α → Option β) :
    ((List.range as.length).filterMap fun i => as[i]?.bind f) = as.filterMap f := by
  have has : as.zipIdx.map (·.1) = as := List.zipIdx_map_fst 0 as
  rw [filterMap_range_zipIdx as fun a _ => f a]
  nth_rewrite 2 [← has]
  rw [List.filterMap_map]
  rfl

/-- The classes with a simple name and their keys, in the order of the classes. -/
def namesakes (r : Registry) (simple : String) : List (String × ClassId) :=
  (List.range r.classes.length).filterMap fun id =>
    (r.class? id).bind fun c => if c.simpleName = simple then some (c.fqn, id) else none

lemma fqn?_of_mem_namesakes {simple : String} {x : String × ClassId}
    (h : x ∈ r.namesakes simple) : r.fqn? x.2 = some x.1 := by
  obtain ⟨id, -, hid⟩ := List.mem_filterMap.mp h
  obtain ⟨c, hc, hsome⟩ := Option.bind_eq_some_iff.mp hid
  split_ifs at hsome
  cases hsome
  rw [fqn?, hc, Option.map_some]

lemma map_fst_namesakes (r : Registry) (simple : String) :
    (r.namesakes simple).map (·.1) =
      (r.classes.filter (·.simpleName = simple)).map (·.fqn) := by
  calc (r.namesakes simple).map (·.1)
      = (List.range r.classes.length).filterMap fun id =>
          (r.classes[id]?).bind fun c => if c.simpleName = simple then some c.fqn else none := by
        rw [namesakes, List.map_filterMap]
        refine List.filterMap_congr fun id _ => ?_
        cases hc : r.classes[id]? with
        | none => simp [class?, hc]
        | some c => by_cases hsimple : c.simpleName = simple <;> simp [class?, hc, hsimple]
    _ = r.classes.filterMap fun c => if c.simpleName = simple then some c.fqn else none :=
        filterMap_range_getElem? r.classes _
    _ = (r.classes.filter (·.simpleName = simple)).map (·.fqn) := by
        rw [← List.filterMap_eq_map, List.filterMap_filter]
        refine List.filterMap_congr fun c _ => ?_
        by_cases hsimple : c.simpleName = simple <;> simp [hsimple]

/-- Which classes have a simple name can be told by the keys. -/
lemma filter_fqns (hr : r.NamedByKeys) (simple : String) :
    (r.classes.filter (·.simpleName = simple)).map (·.fqn) =
      r.fqns.filter fun key => simpleName key = simple := by
  rw [fqns, List.filter_map]
  congr 1
  apply List.filter_congr
  intro c hc
  simp [(hr c hc).1]

/-- The classes with a simple name, by their keys, are the keys with that last segment. -/
lemma map_fqn?_bySimpleName (hr : r.NamedByKeys) (simple : String) :
    (r.bySimpleName simple).map r.fqn? =
      (r.keys.filter fun key => simpleName key = simple).map some := by
  let sorted := (r.namesakes simple).mergeSort fun a b => a.1 ≤ b.1
  have hfqn : ∀ x ∈ sorted, r.fqn? x.2 = some x.1 := fun x hx =>
    fqn?_of_mem_namesakes ((List.mergeSort_perm _ _).mem_iff.mp hx)
  calc (r.bySimpleName simple).map r.fqn?
      = sorted.map fun x => r.fqn? x.2 := List.map_map
    _ = sorted.map fun x => some x.1 := List.map_congr_left hfqn
    _ = (sorted.map (·.1)).map some := List.map_map.symm
    _ = (r.keys.filter fun key => simpleName key = simple).map some := by
        rw [map_fst_mergeSort, map_fst_namesakes, filter_fqns hr, mergeSort_filter, keys, fqns]

/-- The key is of a class in a package below the given one; the default package is below none. -/
def liesBelow (package key : String) : Bool :=
  qualifier key != defaultPackage && (qualifier key).startsWith (package ++ ".")

/-- Whether a class lies below a package can be told by its key. -/
lemma findUnder?_eq (hr : r.NamedByKeys) (simple package : String) :
    r.findUnder? simple package =
      (r.lookup? (classKey package simple)).or
        ((r.bySimpleName simple).find? fun id => (r.fqn? id).any (liesBelow package)) := by
  refine congrArg (fun below => (r.lookup? (classKey package simple)).or
    ((r.bySimpleName simple).find? below)) (funext fun id => ?_)
  cases hc : r.class? id with
  | none => simp [packageNameOf?, fqn?, hc]
  | some c =>
    have hname := (hr c (List.mem_of_getElem? hc)).2
    simp [packageNameOf?, fqn?, hc, hname, liesBelow]

/-- What is found under a package, by its key: the key of the package and the name, else the first
key with the name that lies below the package. -/
lemma bind_fqn?_findUnder? (hr : r.NamedByKeys) (simple package : String) :
    (r.findUnder? simple package).bind r.fqn? =
      if classKey package simple ∈ r.keys then some (classKey package simple)
      else (r.keys.filter fun key => simpleName key = simple).find? (liesBelow package) := by
  rw [findUnder?_eq hr]
  cases hlookup : r.lookup? (classKey package simple) with
  | some id =>
    obtain ⟨c, hc, hkey⟩ := class?_of_lookup? hlookup
    have hmem : classKey package simple ∈ r.keys := by
      rw [mem_keys, ← hkey]
      exact List.mem_map_of_mem (List.mem_of_getElem? hc)
    rw [if_pos hmem, Option.some_or, Option.bind_some, fqn?, hc, Option.map_some, hkey]
  | none =>
    have hmem : classKey package simple ∉ r.keys := by
      rw [mem_keys]
      exact lookup?_eq_none_iff.mp hlookup
    rw [if_neg hmem, Option.none_or]
    have hfound : ((r.bySimpleName simple).find? fun id =>
        (r.fqn? id).any (liesBelow package)).map r.fqn? =
        ((r.keys.filter fun key => simpleName key = simple).find? (liesBelow package)).map some :=
      calc _ = ((r.bySimpleName simple).map r.fqn?).find? (·.any (liesBelow package)) :=
            List.find?_map.symm
        _ = _ := by
            rw [map_fqn?_bySimpleName hr, List.find?_map]
            simp only [Function.comp_def, Option.any_some]
    cases hbelow : (r.keys.filter fun key => simpleName key = simple).find? (liesBelow package) with
    | none =>
      rw [hbelow, Option.map_none, Option.map_eq_none_iff] at hfound
      rw [hfound, Option.bind_none]
    | some key =>
      rw [hbelow, Option.map_some, Option.map_eq_some_iff] at hfound
      obtain ⟨id, hid, hfqn⟩ := hfound
      rw [hid, Option.bind_some, hfqn]

lemma packageNamed?_eq_none_iff {name : String} :
    r.packageNamed? name = none ↔ name ∉ r.packages := by
  rw [packageNamed?, List.findIdx?_eq_none_iff]
  constructor
  · intro h hmem
    simpa using h name hmem
  · rintro h other hother
    exact beq_false_of_ne fun heq => h (heq ▸ hother)

lemma package?_of_packageNamed? {name : String} {id : PackageId}
    (h : r.packageNamed? name = some id) : r.package? id = some name := by
  obtain ⟨hlt, hname, -⟩ := List.findIdx?_eq_some_iff_getElem.mp h
  rw [package?, List.getElem?_eq_getElem hlt, eq_of_beq hname]

lemma exists_packageNamed? {name : String} (h : name ∈ r.packages) :
    ∃ id, r.packageNamed? name = some id := by
  rw [← Option.ne_none_iff_exists']
  exact fun hnone => packageNamed?_eq_none_iff.mp hnone h

/-- The parent of a package is the first of the names above it that is registered. -/
lemma parentName?_eq (r : Registry) (name : String) :
    r.parentName? name =
      if name ∈ r.packages then (ancestors name.length name).find? (· ∈ r.packages) else none := by
  unfold parentName?
  split_ifs with hmem
  · obtain ⟨id, hid⟩ := exists_packageNamed? hmem
    rw [hid, Option.bind_some, parent?, package?_of_packageNamed? hid, Option.bind_some]
    induction ancestors name.length name with
    | nil => rfl
    | cons above rest ih =>
      by_cases habove : above ∈ r.packages
      · obtain ⟨i, hi⟩ := exists_packageNamed? habove
        rw [List.findSome?_cons, hi, List.find?_cons_of_pos (by simpa using habove)]
        exact package?_of_packageNamed? hi
      · have hnone : r.packageNamed? above = none := packageNamed?_eq_none_iff.mpr habove
        rw [List.findSome?_cons, hnone, List.find?_cons_of_neg (by simpa using habove)]
        exact ih
  · rw [packageNamed?_eq_none_iff.mpr hmem]
    rfl

end Registry

/-! ### What resolution asks for -/

namespace Resolver

variable {r r' : Registry}

lemma not_dot_mem_of_splitHead? {name head rest : String}
    (h : splitHead? name = some (head, rest)) : '.' ∉ head.toList := by
  unfold splitHead? at h
  simp only at h
  split_ifs at h
  cases h
  intro hmem
  rw [String.toList_ofList] at hmem
  simpa using List.mem_takeWhile_imp hmem

lemma not_dot_mem_of_splitHead?_eq_none {name : String} (h : splitHead? name = none) :
    '.' ∉ name.toList := by
  unfold splitHead? at h
  simp only at h
  split_ifs at h with hdot
  exact hdot

lemma resolveSimple_congr {s : Scope} {name : String}
    (h : ∀ package ∈ s.wildcards,
      (r.findUnder? name package).bind r.fqn? = (r'.findUnder? name package).bind r'.fqn?)
    (lexicon : Option Lexicon) :
    resolveSimple { registry := r, lexicon } s name =
      resolveSimple { registry := r', lexicon } s name := by
  have hwildcards : (s.wildcards.findSome? fun package =>
      (r.findUnder? name package).bind fun id => (r.class? id).map (·.fqn)) =
      s.wildcards.findSome? fun package =>
        (r'.findUnder? name package).bind fun id => (r'.class? id).map (·.fqn) := by
    rw [← List.head?_filterMap, ← List.head?_filterMap]
    exact congrArg List.head? (List.filterMap_congr h)
  simp only [resolveSimple, hwildcards]

/-- Resolution asks a registry only for the keys of classes with simple names under the packages
that the scope imports as a whole. -/
lemma resolve_congr {s : Scope}
    (h : ∀ package ∈ s.wildcards, ∀ simple, '.' ∉ simple.toList →
      (r.findUnder? simple package).bind r.fqn? = (r'.findUnder? simple package).bind r'.fqn?)
    (lexicon : Option Lexicon) (reference : String) :
    resolve { registry := r, lexicon } s reference =
      resolve { registry := r', lexicon } s reference := by
  have hsimple : ∀ name, '.' ∉ name.toList →
      resolveSimple { registry := r, lexicon } s name =
        resolveSimple { registry := r', lexicon } s name := fun name hname =>
    resolveSimple_congr (fun package hpackage => h package hpackage name hname) lexicon
  unfold resolve
  cases hsplit : splitHead? (trim reference) with
  | none => simp only [hsplit, hsimple _ (not_dot_mem_of_splitHead?_eq_none hsplit)]
  | some parts =>
    obtain ⟨head, rest⟩ := parts
    simp only [hsplit, hsimple _ (not_dot_mem_of_splitHead? hsplit)]

end Resolver

namespace Registry

variable {r r' : Registry}

/-- The registries tell the same about names. -/
structure SameAnswers (r r' : Registry) : Prop where
  keys : r.keys = r'.keys
  packages : r.packages.Perm r'.packages
  parents : ∀ name, r.parentName? name = r'.parentName? name
  bySimpleName : ∀ simple,
    (r.bySimpleName simple).map r.fqn? = (r'.bySimpleName simple).map r'.fqn?
  findUnder : ∀ simple package,
    (r.findUnder? simple package).bind r.fqn? = (r'.findUnder? simple package).bind r'.fqn?
  resolve : ∀ lexicon scope reference,
    Resolver.resolve { registry := r, lexicon } scope reference =
      Resolver.resolve { registry := r', lexicon } scope reference

/-- Where keys determine names, the keys and the packages determine all answers. -/
lemma sameAnswers_of_perm (hr : r.NamedByKeys) (hr' : r'.NamedByKeys)
    (hfqns : r.fqns.Perm r'.fqns) (hpackages : r.packages.Perm r'.packages) :
    r.SameAnswers r' := by
  have hkeys : r.keys = r'.keys := mergeSort_eq_of_perm hfqns
  have hunder : ∀ simple package, (r.findUnder? simple package).bind r.fqn? =
      (r'.findUnder? simple package).bind r'.fqn? := by
    intro simple package
    rw [bind_fqn?_findUnder? hr, bind_fqn?_findUnder? hr', hkeys]
  have hresolve : ∀ lexicon scope reference,
      Resolver.resolve { registry := r, lexicon } scope reference =
        Resolver.resolve { registry := r', lexicon } scope reference := fun lexicon scope reference =>
    Resolver.resolve_congr (fun package _ simple _ => hunder simple package) lexicon reference
  refine ⟨hkeys, hpackages, fun name => ?_, fun simple => ?_, hunder, hresolve⟩
  · simp only [parentName?_eq, hpackages.mem_iff]
  · rw [map_fqn?_bySimpleName hr, map_fqn?_bySimpleName hr', hkeys]

/-! ### Source files in any order -/

lemma namedByKeys_ofUnits (root : String) {units : List SourceUnit}
    (hdot : ∀ u ∈ units, ∀ d ∈ u.types, '.' ∉ d.name.toList) :
    (ofUnits root units).NamedByKeys := by
  rw [ofUnits_eq_ofRegistrations]
  apply (records_ofRegistrations _).namedByKeys
  intro x hx simple hsimple
  obtain ⟨u, hu, hx⟩ := List.mem_flatMap.mp hx
  rcases List.mem_cons.mp hx with rfl | hx
  · cases hsimple
  · obtain ⟨d, hd, rfl⟩ := List.mem_map.mp hx
    cases hsimple
    exact hdot u hu d hd

lemma packages_ofUnits (root : String) (units : List SourceUnit) :
    (ofUnits root units).packages =
      fresh [] ((units.flatMap (·.registrations root)).map (·.packageName)) := by
  rw [ofUnits_eq_ofRegistrations]
  exact (records_ofRegistrations _).packages_eq

/-- The registries of two lists of the same source files tell the same about names, whatever the
order and the repetitions in the lists, and registering a list twice in a row gives the same
registry as registering it once. -/
theorem sameAnswers_ofUnits (root : String) (units units' : List SourceUnit)
    (hdot : ∀ u ∈ units, ∀ d ∈ u.types, '.' ∉ d.name.toList)
    (hsame : ∀ u, u ∈ units ↔ u ∈ units') :
    (ofUnits root units).SameAnswers (ofUnits root units') ∧
      ofUnits root (units ++ units) = ofUnits root units := by
  constructor
  · apply sameAnswers_of_perm
    · exact namedByKeys_ofUnits root hdot
    · exact namedByKeys_ofUnits root fun u hu => hdot u ((hsame u).mpr hu)
    · rw [fqns_ofUnits, fqns_ofUnits]
      apply perm_fresh_of_mem_iff
      simp [hsame]
    · rw [packages_ofUnits, packages_ofUnits]
      apply perm_fresh_of_mem_iff
      simp [hsame]
  · rw [ofUnits_eq_ofRegistrations, ofUnits_eq_ofRegistrations, List.flatMap_append,
      ofRegistrations_append_self]

/-- Two files declare the same class, which has another place and another kind if they are
registered in another order. -/
theorem sameAnswers_ofUnits_clock :
    let clock : SourceUnit :=
      { path := "/p/Clock.java", package := some "lib.time"
        types := [{ name := "Clock", kind := .classType }] }
    let draft : SourceUnit :=
      { path := "/p/Draft.java", package := some "lib.time"
        types :=
          [{ name := "Draft", kind := .classType }, { name := "Clock", kind := .recordType }] }
    let r := ofUnits "/p" [clock, draft]
    let r' := ofUnits "/p" [draft, clock, draft, clock]
    (∀ u ∈ [clock, draft], ∀ d ∈ u.types, '.' ∉ d.name.toList) ∧
      (∀ u, u ∈ [clock, draft] ↔ u ∈ [draft, clock, draft, clock]) ∧
      r.findUnder? "Clock" "lib" = some 0 ∧ (r.class? 0).map (·.kind) = some .recordType ∧
      r'.findUnder? "Clock" "lib" = some 1 ∧ (r'.class? 1).map (·.kind) = some .classType ∧
      r.SameAnswers r' := by
  intro clock draft r r'
  have hdot : ∀ u ∈ [clock, draft], ∀ d ∈ u.types, '.' ∉ d.name.toList := by
    simp [clock, draft]
  have hsame : ∀ u, u ∈ [clock, draft] ↔ u ∈ [draft, clock, draft, clock] := by
    intro u
    simp only [List.mem_cons, List.not_mem_nil, or_false]
    tauto
  refine ⟨hdot, hsame, by decide +kernel, by decide +kernel, by decide +kernel,
    by decide +kernel, ?_⟩
  exact (sameAnswers_ofUnits "/p" [clock, draft] [draft, clock, draft, clock] hdot hsame).1

end Registry

end Cartograph
