import Cartograph.Proofs.Registry.Keys
import Cartograph.Proofs.Text.Dotted
import Cartograph.Scope

/-!
# What simple names refer to

A name without dots is first resolved to a text and the text is then looked up in the registry,
where the default package is a last resort. Together the two give the class that the imports of the
file, the implicit names and the package of the file determine, in this order, and failing that the
class of the default package with the name. The main statement says so for all source files, whether
or not they declare a package.

Imports of static members do not count, not even those of all static members of a class.
-/

namespace Cartograph

open Text Java

/-- The import is of one class. -/
def Java.Import.isSingle (i : Import) : Bool := !i.isStatic && !i.isWildcard

/-- The import is of a whole package. -/
def Java.Import.isPackage (i : Import) : Bool := !i.isStatic && i.isWildcard

namespace Registry

/-- The class that a source file determines for a simple name, where `searched` are the imports
below which classes are searched. -/
def determined? (r : Registry) (searched : Import → Bool) (u : SourceUnit) (name : String) :
    Option ClassId :=
  match u.imports.find? fun i => i.isSingle && i.simpleName == name with
  | some i => r.lookup? i.path
  | none =>
    if implicitNames.contains name then r.lookup? ("java.lang." ++ name)
    else
      ((u.imports.filter searched).findSome? fun i => r.findUnder? name i.path).or
        (r.lookup? (classKey (u.package.getD "") name))

/-- The class that a simple name in a source file refers to: the one that the file determines, else
the one of the default package. -/
def referent? (r : Registry) (searched : Import → Bool) (u : SourceUnit) (name : String) :
    Option ClassId :=
  (r.determined? searched u name).or (r.lookup? (classKey "" name))

end Registry

/-! ### The scope of a source file -/

namespace Scope

lemma foldl_add (imports : List Import) (s : Scope) :
    imports.foldl add s =
      { package := s.package
        explicit := s.explicit ++
          (imports.filter (·.isSingle)).map fun i => (i.simpleName, i.path)
        wildcards := s.wildcards ++ (imports.filter (·.isPackage)).map (·.path) } := by
  induction imports generalizing s with
  | nil => simp
  | cons i imports ih =>
    rw [List.foldl_cons, ih]
    cases hstatic : i.isStatic <;> cases hwildcard : i.isWildcard <;>
      simp [add, withImport, withWildcard, Import.isSingle, Import.isPackage, Import.simpleName,
        hstatic, hwildcard]

lemma package_ofUnit (u : SourceUnit) :
    (ofUnit u).package = u.package.filter (· ≠ "") := by
  rw [ofUnit, foldl_add, ofPackage]

lemma wildcards_ofUnit (u : SourceUnit) :
    (ofUnit u).wildcards = (u.imports.filter (·.isPackage)).map (·.path) := by
  rw [ofUnit, foldl_add]
  simp [ofPackage]

/-- Of the imports of one class under a name the first counts. -/
lemma explicit?_ofUnit (u : SourceUnit) (name : String) :
    (ofUnit u).explicit? name =
      (u.imports.find? fun i => i.isSingle && i.simpleName == name).map (·.path) := by
  have hlookup : ∀ imports : List Import,
      ((imports.filter (·.isSingle)).map fun i => (i.simpleName, i.path)).lookup name =
        (imports.find? fun i => i.isSingle && i.simpleName == name).map (·.path) := by
    intro imports
    induction imports with
    | nil => rfl
    | cons i imports ih =>
      by_cases hsingle : i.isSingle = true
      · by_cases hname : i.simpleName = name
        · simp [hsingle, hname]
        · have hne : (name == i.simpleName) = false := beq_false_of_ne fun h => hname h.symm
          simp [hsingle, hname, hne, List.lookup_cons, ih]
      · simp [hsingle, ih]
  rw [explicit?, ofUnit, foldl_add, ← hlookup]
  simp [ofPackage]

end Scope

/-! ### Looking up what a name resolves to -/

namespace Registry

lemma dot_mem_classKey (package simple : String) : '.' ∈ (classKey package simple).toList := by
  simp [classKey]

/-- A name without dots is no key. -/
lemma lookup?_eq_none_of_not_mem (root : String) (units : List SourceUnit) {name : String}
    (hdot : '.' ∉ name.toList) : (ofUnits root units).lookup? name = none := by
  rw [lookup?_eq_none_iff, fqns_ofUnits, mem_fresh]
  rintro ⟨hmem, -⟩
  obtain ⟨u, -, hkey⟩ := List.mem_flatMap.mp hmem
  obtain ⟨d, -, rfl⟩ := List.mem_map.mp hkey
  exact hdot (dot_mem_classKey _ _)

lemma class?_of_findUnder? {r : Registry} {simple package : String} {id : ClassId}
    (h : r.findUnder? simple package = some id) : ∃ c, r.class? id = some c := by
  rcases Option.or_eq_some_iff.mp h with hkey | ⟨-, hbelow⟩
  · obtain ⟨c, hc, -⟩ := class?_of_lookup? hkey
    exact ⟨c, hc⟩
  · have hname := List.find?_some hbelow
    cases hc : r.class? id with
    | none => simp [packageNameOf?, hc] at hname
    | some c => exact ⟨c, rfl⟩

lemma resolveTarget?_of_simpleName (r : Registry) {text name : String}
    (h : simpleName text = name) :
    r.resolveTarget? text = (r.lookup? text).or (r.lookup? (classKey "" name)) := by
  rw [resolveTarget?, h]

/-- The text that stands for a class of the file's own package gives this class, else that of the
default package. Without a package the text is the bare name, which is no key. -/
lemma resolveTarget?_ownPackage (root : String) (units : List SourceUnit) (u : SourceUnit)
    {name : String} (hdot : '.' ∉ name.toList) :
    (ofUnits root units).resolveTarget?
        (match (Scope.ofUnit u).package with
          | some package => package ++ "." ++ name
          | none => name) =
      ((ofUnits root units).lookup? (classKey (u.package.getD "") name)).or
        ((ofUnits root units).lookup? (classKey "" name)) := by
  rw [Scope.package_ofUnit]
  by_cases hpackage : u.package.getD "" = ""
  · have hscope : u.package.filter (· ≠ "") = none := by
      cases hu : u.package with
      | none => rfl
      | some package => simpa [hu] using hpackage
    rw [hscope, hpackage]
    simp only
    rw [resolveTarget?_of_simpleName _ (simpleName_of_not_mem hdot),
      lookup?_eq_none_of_not_mem root units hdot, Option.none_or, Option.or_self]
  · have hscope : u.package.filter (· ≠ "") = some (u.package.getD "") := by
      cases hu : u.package with
      | none => simp [hu] at hpackage
      | some package => simpa [hu] using hpackage
    rw [hscope, classKey, if_neg hpackage]
    exact resolveTarget?_of_simpleName _ (simpleName_qualified _ hdot)

end Registry

namespace Resolver

/-- A simple name is resolved as a simple name. -/
lemma resolve_of_simple (r : Registry) (s : Scope) {name : String} (hname : name ≠ "")
    (hdot : '.' ∉ name.toList) (hblank : ∀ c ∈ name.toList, isBlank c = false) :
    resolve { registry := r } s name = resolveSimple { registry := r } s name := by
  have hhead : splitHead? name = none := if_neg hdot
  simp [resolve, trim_of_not_blank hblank, hname, hhead]

/-- The search below the packages that a file imports, told by keys or by classes. -/
lemma findSome?_wildcards (r : Registry) (u : SourceUnit) (name : String) :
    ((Scope.ofUnit u).wildcards.findSome? fun package =>
        (r.findUnder? name package).bind fun id => (r.class? id).map (·.fqn)) =
      ((u.imports.filter (·.isPackage)).findSome? fun i => r.findUnder? name i.path).bind
        fun id => (r.class? id).map (·.fqn) := by
  rw [Scope.wildcards_ofUnit]
  induction u.imports.filter (·.isPackage) with
  | nil => rfl
  | cons i imports ih =>
    rw [List.map_cons, List.findSome?_cons, List.findSome?_cons, ih]
    cases hfound : r.findUnder? name i.path with
    | none => rfl
    | some id =>
      obtain ⟨c, hc⟩ := Registry.class?_of_findUnder? hfound
      simp [hc]

end Resolver

/-- A simple name in a source file, resolved and then looked up in the registry of any source files,
gives the class that it refers to by the imports of the file, the implicit names, the package of the
file and the default package. -/
theorem resolveTarget?_resolve_simple (root : String) (units : List SourceUnit) (u : SourceUnit)
    (name : String) (hname : name ≠ "") (hdot : '.' ∉ name.toList)
    (hblank : ∀ c ∈ name.toList, isBlank c = false) :
    (Registry.ofUnits root units).resolveTarget?
        (Resolver.resolve { registry := Registry.ofUnits root units } (Scope.ofUnit u) name) =
      (Registry.ofUnits root units).referent? Import.isPackage u name := by
  rw [Resolver.resolve_of_simple _ _ hname hdot hblank, Registry.referent?, Registry.determined?,
    Resolver.resolveSimple, Scope.explicit?_ofUnit]
  cases hsingle : u.imports.find? fun i => i.isSingle && i.simpleName == name with
  | some i =>
    have hi : i.simpleName = name := by
      have := List.find?_some hsingle
      simp only [Bool.and_eq_true, beq_iff_eq] at this
      exact this.2
    exact Registry.resolveTarget?_of_simpleName _ hi
  | none =>
    simp only [Option.map_none]
    split_ifs with himplicit
    · exact Registry.resolveTarget?_of_simpleName _ (simpleName_qualified "java.lang" hdot)
    · rw [Resolver.findSome?_wildcards]
      cases hfound : (u.imports.filter (·.isPackage)).findSome? fun i =>
          (Registry.ofUnits root units).findUnder? name i.path with
      | some id =>
        obtain ⟨i, -, hi⟩ := List.exists_of_findSome?_eq_some hfound
        obtain ⟨c, hc⟩ := Registry.class?_of_findUnder? hi
        have hback := Registry.lookup?_fqn (Registry.nodup_fqns_ofUnits root units) hc
        simp [hc, Registry.resolveTarget?, hback]
      | none =>
        simp only [Option.bind_none, Option.none_or]
        exact Registry.resolveTarget?_ownPackage root units u hdot

/-- A class of an imported package comes before the class of the same name in the file's own
package. -/
theorem resolveTarget?_resolve_clock :
    let main : SourceUnit :=
      { package := some "app"
        imports := [{ path := "app.Main", isStatic := true, isWildcard := true },
          { path := "lib.time", isWildcard := true }]
        types := [{ name := "Main", kind := .classType }, { name := "Clock", kind := .classType }] }
    let clock : SourceUnit :=
      { package := some "lib.time", types := [{ name := "Clock", kind := .classType }] }
    let r := Registry.ofUnits "" [main, clock]
    "Clock" ≠ "" ∧ '.' ∉ "Clock".toList ∧ (∀ c ∈ "Clock".toList, isBlank c = false) ∧
      r.resolveTarget? (Resolver.resolve { registry := r } (Scope.ofUnit main) "Clock") =
        some 2 := by
  have hblank : ∀ c ∈ "Clock".toList, isBlank c = false :=
    List.forall_iff_forall_mem.mp (by decide)
  refine ⟨by decide, by decide, hblank, ?_⟩
  rw [resolveTarget?_resolve_simple "" _ _ "Clock" (by decide) (by decide) hblank]
  decide +kernel

/-- Classes are not searched below an import of all static members. -/
theorem not_resolveTarget?_resolve_static :
    ¬∀ (root : String) (units : List SourceUnit) (u : SourceUnit) (name : String),
      (∀ v ∈ units, ∀ d ∈ v.types, '.' ∉ d.name.toList) → u ∈ units →
      name ≠ "" → '.' ∉ name.toList → (∀ c ∈ name.toList, isBlank c = false) →
      (Registry.ofUnits root units).resolveTarget?
          (Resolver.resolve { registry := Registry.ofUnits root units } (Scope.ofUnit u) name) =
        (Registry.ofUnits root units).referent? (·.isWildcard) u name := by
  intro h
  have hclaim := h ""
    [{ package := some "app"
       imports := [{ path := "lib", isStatic := true, isWildcard := true }]
       types := [{ name := "Main", kind := .classType }] },
      { package := some "lib", types := [{ name := "Clock", kind := .classType }] }]
    { package := some "app"
      imports := [{ path := "lib", isStatic := true, isWildcard := true }]
      types := [{ name := "Main", kind := .classType }] }
    "Clock" (by simp) List.mem_cons_self (by decide) (by decide)
    (List.forall_iff_forall_mem.mp (by decide))
  revert hclaim
  decide +kernel

end Cartograph
