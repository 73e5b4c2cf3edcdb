import Cartograph.Proofs.Registry.Representation
import Cartograph.Proofs.Text.Above
import Mathlib.Tactic.IntervalCases

/-!
# Searching under a package

A search for a simple name under a package first looks for the class with the key of both, and then
for classes of the name in the packages below. The classes of a name are kept in the order of their
keys, so the first one that the scan meets has the smallest key of all. Where simple names have no
dots, what is found lies in the package or below it, so never in the default package and never in a
package whose name only begins with the same letters.
-/

namespace Cartograph

open Text Java

namespace Registry

variable {r : Registry} {simple package : String} {id : ClassId}

/-- The class lies in a package below the given one; the default package is below none. -/
def isBelow (r : Registry) (package : String) (id : ClassId) : Bool :=
  match r.packageNameOf? id with
  | some name => name != defaultPackage && name.startsWith (package ++ ".")
  | none => false

lemma findUnder?_eq_head? (r : Registry) (simple package : String) :
    r.findUnder? simple package =
      (r.lookup? (classKey package simple)).or
        ((r.bySimpleName simple).filter (r.isBelow package)).head? := by
  rw [List.head?_filter]
  rfl

/-- The class has the simple name and lies in a package below the given one. -/
def NamedBelow (r : Registry) (simple package : String) (id : ClassId) : Prop :=
  ∃ c name, r.class? id = some c ∧ c.simpleName = simple ∧ r.package? c.package = some name ∧
    IsAbove package name

/-- No name lies above the default package, as it has no dot. -/
lemma not_isAbove_defaultPackage (package : String) : ¬IsAbove package defaultPackage := by
  intro h
  have hdot := h.dot_mem
  simp [defaultPackage] at hdot

lemma isBelow_iff :
    r.isBelow package id = true ↔
      ∃ name, r.packageNameOf? id = some name ∧ IsAbove package name := by
  unfold isBelow
  cases hname : r.packageNameOf? id with
  | none => simp
  | some name =>
    simp only [Bool.and_eq_true, bne_iff_ne, startsWith_dot_iff, Option.some.injEq,
      exists_eq_left']
    constructor
    · exact fun h => h.2
    · intro habove
      refine ⟨?_, habove⟩
      rintro rfl
      exact not_isAbove_defaultPackage package habove

/-- The scan goes through the classes of the name below the package. -/
lemma mem_filter_isBelow :
    id ∈ (r.bySimpleName simple).filter (r.isBelow package) ↔ r.NamedBelow simple package id := by
  rw [List.mem_filter, mem_bySimpleName, isBelow_iff]
  constructor
  · rintro ⟨⟨c, hc, hsimple⟩, name, hname, habove⟩
    rw [packageNameOf?, hc, Option.bind_some] at hname
    exact ⟨c, name, hc, hsimple, hname, habove⟩
  · rintro ⟨c, name, hc, hsimple, hname, habove⟩
    refine ⟨⟨c, hc, hsimple⟩, name, ?_, habove⟩
    rw [packageNameOf?, hc, Option.bind_some, hname]

lemma lookup?_eq_some_iff_fqn? (hr : r.fqns.Nodup) {key : String} :
    r.lookup? key = some id ↔ r.fqn? id = some key := by
  rw [lookup?_eq_some_iff hr, fqn?, Option.map_eq_some_iff]

/-! ### What the search finds -/

/-- The class with the key of the package and the name comes first. -/
lemma findUnder?_of_fqn? (hr : r.fqns.Nodup) (hid : r.fqn? id = some (classKey package simple)) :
    r.findUnder? simple package = some id := by
  rw [findUnder?_eq_head?, (lookup?_eq_some_iff_fqn? hr).mpr hid, Option.some_or]

lemma findUnder?_of_no_fqn? (hr : r.fqns.Nodup)
    (hnone : ∀ id, r.fqn? id ≠ some (classKey package simple)) :
    r.findUnder? simple package =
      ((r.bySimpleName simple).filter (r.isBelow package)).head? := by
  have hlookup : r.lookup? (classKey package simple) = none := by
    rw [Option.eq_none_iff_forall_ne_some]
    intro id hid
    exact hnone id ((lookup?_eq_some_iff_fqn? hr).mp hid)
  rw [findUnder?_eq_head?, hlookup, Option.none_or]

/-- What stands first among the classes below a package has the smallest key. -/
lemma keyLt_of_head?_filter (hr : r.fqns.Nodup)
    (hfirst : ((r.bySimpleName simple).filter (r.isBelow package)).head? = some id)
    {other : ClassId} (hother : r.NamedBelow simple package other) :
    other = id ∨ r.KeyLt id other := by
  have hsorted := (pairwise_bySimpleName hr simple).filter (r.isBelow package)
  have hmem := mem_filter_isBelow.mpr hother
  obtain ⟨rest, hrest⟩ := List.head?_eq_some_iff.mp hfirst
  rw [hrest, List.pairwise_cons] at hsorted
  rw [hrest, List.mem_cons] at hmem
  rcases hmem with rfl | hmem
  · exact .inl rfl
  · exact .inr (hsorted.1 other hmem)

/-- Without a class of the key, the class of the name below the package with the smallest key is
found, if there is one. -/
lemma exists_findUnder?_below (hr : r.fqns.Nodup)
    (hnone : ∀ id, r.fqn? id ≠ some (classKey package simple))
    (hid : r.NamedBelow simple package id) :
    ∃ first, r.findUnder? simple package = some first ∧ r.NamedBelow simple package first ∧
      ∀ other, r.NamedBelow simple package other → other = first ∨ r.KeyLt first other := by
  have hmem := mem_filter_isBelow.mpr hid
  obtain ⟨first, rest, hfilter⟩ := List.exists_cons_of_ne_nil (List.ne_nil_of_mem hmem)
  have hfirst : ((r.bySimpleName simple).filter (r.isBelow package)).head? = some first := by
    rw [hfilter, List.head?_cons]
  refine ⟨first, ?_, ?_, ?_⟩
  · rw [findUnder?_of_no_fqn? hr hnone, hfirst]
  · exact mem_filter_isBelow.mp (List.mem_of_mem_head? hfirst)
  · intro other hother
    exact keyLt_of_head?_filter hr hfirst hother

lemma findUnder?_eq_none (hr : r.fqns.Nodup)
    (hnone : ∀ id, r.fqn? id ≠ some (classKey package simple))
    (hbelow : ∀ id, ¬r.NamedBelow simple package id) : r.findUnder? simple package = none := by
  rw [findUnder?_of_no_fqn? hr hnone, List.head?_eq_none_iff, List.eq_nil_iff_forall_not_mem]
  intro id hid
  exact hbelow id (mem_filter_isBelow.mp hid)

/-- What is found lies in the package or below it. -/
lemma packageNameOf?_of_findUnder? (hr : r.NamedByKeys) (hpackage : package ≠ "")
    (h : r.findUnder? simple package = some id) :
    ∃ name, r.packageNameOf? id = some name ∧ (name = package ∨ IsAbove package name) := by
  rw [findUnder?_eq_head?, Option.or_eq_some_iff] at h
  rcases h with hkey | ⟨-, hfirst⟩
  · obtain ⟨c, hc, hfqn⟩ := class?_of_lookup? hkey
    -- the name of the package can be read off the key
    refine ⟨qualifier c.fqn, ?_, ?_⟩
    · rw [packageNameOf?, hc, Option.bind_some, (hr c (List.mem_of_getElem? hc)).2]
    · have habove : IsAbove package c.fqn := by
        rw [hfqn, classKey, if_neg hpackage]
        exact ⟨simple, rfl⟩
      rcases habove.eq_or_isAbove_qualifier with heq | hbelow
      · exact .inl heq.symm
      · exact .inr hbelow
  · obtain ⟨c, name, hc, -, hname, habove⟩ :=
      mem_filter_isBelow.mp (List.mem_of_mem_head? hfirst)
    refine ⟨name, ?_, .inr habove⟩
    rw [packageNameOf?, hc, Option.bind_some, hname]

/-- A search under a named package gives the class with the key of the package and the simple name;
without one it gives, of the classes of the name in packages below, the one with the smallest key,
and nothing if there are none. It never gives a class of the default package or of a package that
is neither the given one nor below it. -/
theorem findUnder?_smallest_below (calls : List RegistryCall)
    (hdot : ∀ call ∈ calls, ∀ x ∈ call.registrations, ∀ name, x.simple? = some name →
      '.' ∉ name.toList)
    (simple package : String) (hpackage : package ≠ "") (hdefault : package ≠ defaultPackage) :
    (∀ id, (ofCalls calls).fqn? id = some (package ++ "." ++ simple) →
      (ofCalls calls).findUnder? simple package = some id) ∧
    ((∀ id, (ofCalls calls).fqn? id ≠ some (package ++ "." ++ simple)) →
      ((∃ id, (ofCalls calls).NamedBelow simple package id) →
        ∃ first, (ofCalls calls).findUnder? simple package = some first ∧
          (ofCalls calls).NamedBelow simple package first ∧
          ∀ other, (ofCalls calls).NamedBelow simple package other →
            other = first ∨ (ofCalls calls).KeyLt first other) ∧
      ((∀ id, ¬(ofCalls calls).NamedBelow simple package id) →
        (ofCalls calls).findUnder? simple package = none)) ∧
    ∀ id, (ofCalls calls).findUnder? simple package = some id →
      ∃ name, (ofCalls calls).packageNameOf? id = some name ∧ name ≠ defaultPackage ∧
        (name = package ∨ IsAbove package name) := by
  have hrecords := records_ofRegistrations (calls.flatMap (·.registrations))
  rw [← ofCalls_eq_ofRegistrations] at hrecords
  have hr := hrecords.nodup_fqns
  have hnamed : (ofCalls calls).NamedByKeys := by
    apply hrecords.namedByKeys
    intro x hx
    obtain ⟨call, hcall, hx⟩ := List.mem_flatMap.mp hx
    exact hdot call hcall x hx
  have hkey : classKey package simple = package ++ "." ++ simple := by
    rw [classKey, if_neg hpackage]
  rw [← hkey]
  refine ⟨?_, ?_, ?_⟩
  · intro id hid
    exact findUnder?_of_fqn? hr hid
  · intro hnone
    refine ⟨?_, findUnder?_eq_none hr hnone⟩
    rintro ⟨id, hid⟩
    exact exists_findUnder?_below hr hnone hid
  · intro id hid
    obtain ⟨name, hname, hwhere⟩ := packageNameOf?_of_findUnder? hnamed hpackage hid
    refine ⟨name, hname, ?_, hwhere⟩
    rintro rfl
    rcases hwhere with heq | habove
    · exact hdefault heq.symm
    · exact not_isAbove_defaultPackage package habove

/-- Of two classes below the package the one that was registered later has the smaller key; a class
of the default package and one of a package with a longer last segment stay out. -/
theorem findUnder?_smallest_below_item :
    let calls : List RegistryCall :=
      [.register "com.shopping" "Item" .classType none, .register "" "Item" .classType none,
        .register "com.shop.model.sub" "Item" .classType none,
        .register "com.shop.api" "Item" .classType none]
    (∀ call ∈ calls, ∀ x ∈ call.registrations, ∀ name, x.simple? = some name →
        '.' ∉ name.toList) ∧
      "com.shop" ≠ "" ∧ "com.shop" ≠ defaultPackage ∧
      (ofCalls calls).fqn? 3 = some "com.shop.api.Item" ∧
      (ofCalls calls).findUnder? "Item" "com.shop" = some 3 := by
  intro calls
  have hdot : ∀ call ∈ calls, ∀ x ∈ call.registrations, ∀ name, x.simple? = some name →
      '.' ∉ name.toList := by
    simp [calls, RegistryCall.registrations, Registration.simple?]
  have hclasses : (ofCalls calls).classes =
      [⟨"com.shopping.Item", "Item", 0, .classType, none⟩,
        ⟨"<default>.Item", "Item", 1, .classType, none⟩,
        ⟨"com.shop.model.sub.Item", "Item", 2, .classType, none⟩,
        ⟨"com.shop.api.Item", "Item", 3, .classType, none⟩] := by
    decide +kernel
  have hpackages : (ofCalls calls).packages =
      ["com.shopping", "<default>", "com.shop.model.sub", "com.shop.api"] := by
    decide +kernel
  refine ⟨hdot, by decide, by decide, by simp [fqn?, class?, hclasses], ?_⟩
  obtain ⟨-, hbelow, -⟩ :=
    findUnder?_smallest_below calls hdot "Item" "com.shop" (by decide) (by decide)
  have hnone : ∀ id, (ofCalls calls).fqn? id ≠ some ("com.shop" ++ "." ++ "Item") := by
    intro id hid
    have hmem : "com.shop.Item" ∈ (ofCalls calls).fqns := by
      rw [fqn?, ← getElem?_fqns] at hid
      exact List.mem_of_getElem? hid
    simp [fqns, hclasses] at hmem
  have hapi : (ofCalls calls).NamedBelow "Item" "com.shop" 3 :=
    ⟨_, "com.shop.api", by rw [class?, hclasses]; rfl, rfl, by rw [package?, hpackages]; rfl,
      "api", rfl⟩
  obtain ⟨first, hfound, ⟨c, name, hc, -, hname, habove⟩, hleast⟩ := (hbelow hnone).1 ⟨3, hapi⟩
  rcases hleast 3 hapi with rfl | ⟨c', d, hc', hd, hlt⟩
  · exact hfound
  · -- every other class has a greater key or does not lie below
    rw [class?, hclasses] at hc hc' hd
    rw [package?, hpackages] at hname
    have hfirst : first < 4 := (List.getElem?_eq_some_iff.mp hc).1
    interval_cases first <;> cases hc <;> cases hc' <;> cases hd <;> cases hname <;>
      revert hlt habove <;> decide

end Registry

end Cartograph
