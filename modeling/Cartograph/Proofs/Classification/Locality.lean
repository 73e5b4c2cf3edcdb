import Cartograph.Proofs.Analysis.References
import Cartograph.Proofs.Registry.Below
import Cartograph.Proofs.Resolution.SimpleNames
import Cartograph.Proofs.Rules.Resolution
import Cartograph.Proofs.Workspace.History
import Mathlib.Data.List.Sort

/-!
# Locality of classification

What is found out about a source file depends on the rest of the project only through the packages
that the file imports as a whole. Classes that are registered besides change nothing, unless they
lie in such a package or below it. A file without such imports is classified alike in all
registries that know its types, so also in all runs over a project that a package pattern narrows.

Keys do not tell where a package ends and a simple name begins. A class whose simple name has a dot
can have the key of a class in an imported package, although it lies in another package; the main
statement has to leave out such classes too.
-/

namespace Cartograph

open Text Java

namespace Registration

/-- A class is entered whose package is the given one or lies below it. -/
def LiesUnder (package : String) (x : Registration) : Prop :=
  x.key?.isSome = true ∧
    (x.packageName = package ∨ x.packageName.startsWith (package ++ ".") = true)

/-- A class is entered whose key is in the given package by what stands before its last dot. -/
def KeyedIn (package : String) (x : Registration) : Prop :=
  x.key?.map qualifier = some package

/-- A class is entered whose simple name has a dot. -/
def HasDottedName (x : Registration) : Prop :=
  x.simple?.any (fun simple => '.' ∈ simple.toList) = true

/-- No class is entered that lies in the given package or below it, be it by its key alone. -/
def FarFrom (package : String) (x : Registration) : Prop :=
  ¬x.LiesUnder package ∧ (x.HasDottedName → ¬x.KeyedIn package)

instance (package : String) (x : Registration) : Decidable (x.LiesUnder package) :=
  inferInstanceAs (Decidable (_ ∧ _))

instance (package : String) (x : Registration) : Decidable (x.KeyedIn package) :=
  inferInstanceAs (Decidable (_ = _))

instance (x : Registration) : Decidable x.HasDottedName := inferInstanceAs (Decidable (_ = _))

instance (package : String) (x : Registration) : Decidable (x.FarFrom package) :=
  inferInstanceAs (Decidable (¬_ ∧ (_ → ¬_)))

variable {x : Registration} {package simple : String}

lemma FarFrom.key?_ne (h : x.FarFrom package) (hpackage : package ≠ "")
    (hsimple : '.' ∉ simple.toList) : x.key? ≠ some (classKey package simple) := by
  intro hkey
  have hqualifier : qualifier (classKey package simple) = package := by
    rw [qualifier_classKey package hsimple, if_neg hpackage]
  cases x with
  | package name => cases hkey
  | type name other kind path =>
    by_cases hdot : '.' ∈ other.toList
    · refine h.2 (decide_eq_true hdot) ?_
      rw [KeyedIn, hkey, Option.map_some, hqualifier]
    · refine h.1 ⟨rfl, .inl ?_⟩
      rw [packageName, ← qualifier_classKey name hdot, Option.some.inj hkey, hqualifier]

lemma FarFrom.not_below (h : x.FarFrom package) (hsimple : x.simple? = some simple) :
    x.packageName.startsWith (package ++ ".") = false := by
  cases x with
  | package name => cases hsimple
  | type name other kind path =>
    rw [Bool.eq_false_iff]
    exact fun hbelow => h.1 ⟨rfl, .inr hbelow⟩

end Registration

namespace Registry

variable {rs more : List Registration}

/-! ### Classes under later entries -/

/-- A class stays what it is, up to what later entries bring up to date. -/
lemma class?_append_of_known {id : ClassId} {c : ClassRecord}
    (hc : (ofRegistrations rs).class? id = some c) (more : List Registration) :
    ∃ d, (ofRegistrations (rs ++ more)).class? id = some d ∧ d.fqn = c.fqn ∧
      d.simpleName = c.simpleName ∧
      (ofRegistrations (rs ++ more)).package? d.package =
        (ofRegistrations rs).package? c.package := by
  have hfqn : (ofRegistrations (rs ++ more)).fqn? id = some c.fqn :=
    fqn?_mono (isPrefix_fqns_append rs more) (by rw [fqn?, hc, Option.map_some])
  obtain ⟨d, hd, hdc⟩ := Option.map_eq_some_iff.mp hfqn
  obtain ⟨x, hx, hsimple, hpackage⟩ :=
    ((records_ofRegistrations rs).sumsUp c (List.mem_of_getElem? hc)).first
  obtain ⟨y, hy, hsimple', hpackage'⟩ :=
    ((records_ofRegistrations (rs ++ more)).sumsUp d (List.mem_of_getElem? hd)).first
  -- the first entry under the key is the same
  have hxy : x = y := by
    rw [hdc, List.find?_append, hx, Option.some_or] at hy
    exact Option.some.inj hy
  subst hxy
  refine ⟨d, hd, hdc, Option.some.inj (hsimple'.symm.trans hsimple), ?_⟩
  exact hpackage'.trans hpackage.symm

/-- A class was there before, or one of the later entries has brought it. -/
lemma class?_append_cases {id : ClassId} {d : ClassRecord}
    (hd : (ofRegistrations (rs ++ more)).class? id = some d) :
    (∃ c, (ofRegistrations rs).class? id = some c) ∨
      ∃ x ∈ more, x.key? = some d.fqn ∧ x.simple? = some d.simpleName ∧
        (ofRegistrations (rs ++ more)).package? d.package = some x.packageName := by
  have hrecords := records_ofRegistrations (rs ++ more)
  obtain ⟨x, hx, hsimple, hpackage⟩ := (hrecords.sumsUp d (List.mem_of_getElem? hd)).first
  rw [List.find?_append] at hx
  rcases Option.or_eq_some_iff.mp hx with hold | ⟨-, hnew⟩
  · left
    have hmem : d.fqn ∈ (ofRegistrations rs).fqns := by
      rw [(records_ofRegistrations rs).fqns_eq, mem_fresh, List.mem_filterMap]
      refine ⟨⟨x, List.mem_of_find?_eq_some hold, ?_⟩, List.not_mem_nil⟩
      simpa using List.find?_some hold
    obtain ⟨i, hi⟩ := exists_lookup? hmem
    obtain ⟨c, hc, hfqn⟩ := class?_of_lookup? hi
    obtain ⟨e, he, hec, -⟩ := class?_append_of_known hc more
    have hi' : (ofRegistrations (rs ++ more)).fqn? i = some d.fqn := by
      rw [fqn?, he, Option.map_some, hec, hfqn]
    have hid : (ofRegistrations (rs ++ more)).fqn? id = some d.fqn := by
      rw [fqn?, hd, Option.map_some]
    exact ⟨c, eq_of_fqn?_eq hrecords.nodup_fqns hi' hid ▸ hc⟩
  · right
    exact ⟨x, List.mem_of_find?_eq_some hnew, by simpa using List.find?_some hnew, hsimple,
      hpackage⟩

lemma lookup?_append_of_known {key : String} {id : ClassId}
    (h : (ofRegistrations rs).lookup? key = some id) (more : List Registration) :
    (ofRegistrations (rs ++ more)).lookup? key = some id := by
  obtain ⟨c, hc, hkey⟩ := class?_of_lookup? h
  obtain ⟨d, hd, hdc, -⟩ := class?_append_of_known hc more
  rw [lookup?_eq_some_iff (records_ofRegistrations _).nodup_fqns]
  exact ⟨d, hd, hdc.trans hkey⟩

/-- A key that no later entry has leads where it has led. -/
lemma lookup?_append {key : String} (h : ∀ x ∈ more, x.key? ≠ some key) :
    (ofRegistrations (rs ++ more)).lookup? key = (ofRegistrations rs).lookup? key := by
  cases hnone : (ofRegistrations rs).lookup? key with
  | some id => exact lookup?_append_of_known hnone more
  | none =>
    rw [lookup?_eq_none_iff, (records_ofRegistrations _).fqns_eq, mem_fresh, List.filterMap_append,
      List.mem_append, List.mem_filterMap, List.mem_filterMap]
    rw [lookup?_eq_none_iff, (records_ofRegistrations _).fqns_eq, mem_fresh,
      List.mem_filterMap] at hnone
    rintro ⟨hold | ⟨x, hx, hkey⟩, -⟩
    · exact hnone ⟨hold, List.not_mem_nil⟩
    · exact h x hx hkey

/-! ### Searching under a package -/

lemma isBelow_append_of_known {id : ClassId} {c : ClassRecord}
    (hc : (ofRegistrations rs).class? id = some c) (more : List Registration) (package : String) :
    (ofRegistrations (rs ++ more)).isBelow package id = (ofRegistrations rs).isBelow package id := by
  obtain ⟨d, hd, -, -, hpackage⟩ := class?_append_of_known hc more
  rw [isBelow, isBelow, packageNameOf?, packageNameOf?, hc, hd, Option.bind_some, Option.bind_some,
    hpackage]

/-- The classes with a simple name below a package are the same, as long as later entries bring
none. -/
lemma filter_bySimpleName_append {simple package : String}
    (h : ∀ x ∈ more, x.simple? = some simple →
      x.packageName.startsWith (package ++ ".") = false) :
    ((ofRegistrations (rs ++ more)).bySimpleName simple).filter
        ((ofRegistrations (rs ++ more)).isBelow package) =
      ((ofRegistrations rs).bySimpleName simple).filter
        ((ofRegistrations rs).isBelow package) := by
  have hsorted : ((ofRegistrations rs).bySimpleName simple).Pairwise
      (ofRegistrations (rs ++ more)).KeyLt := by
    refine (pairwise_bySimpleName (records_ofRegistrations rs).nodup_fqns simple).imp ?_
    rintro a b ⟨c, d, hc, hd, hlt⟩
    obtain ⟨c', hc', hcfqn, -⟩ := class?_append_of_known hc more
    obtain ⟨d', hd', hdfqn, -⟩ := class?_append_of_known hd more
    exact ⟨c', d', hc', hd', by rw [hcfqn, hdfqn]; exact hlt⟩
  have hsorted' : ((ofRegistrations (rs ++ more)).bySimpleName simple).Pairwise
      (ofRegistrations (rs ++ more)).KeyLt :=
    pairwise_bySimpleName (records_ofRegistrations _).nodup_fqns simple
  -- both lists ascend, so they only have to list the same classes
  refine (hsorted'.filter _).eq_of_mem_iff (hsorted.filter _) fun id => ?_
  simp only [List.mem_filter, mem_bySimpleName]
  constructor
  · rintro ⟨⟨d, hd, hsimple⟩, hbelow⟩
    rcases class?_append_cases hd with ⟨c, hc⟩ | ⟨x, hx, -, hxsimple, hxpackage⟩
    · obtain ⟨d', hd', -, hdsimple, -⟩ := class?_append_of_known hc more
      rw [hd, Option.some.injEq] at hd'
      subst hd'
      rw [isBelow_append_of_known hc] at hbelow
      exact ⟨⟨c, hc, hdsimple ▸ hsimple⟩, hbelow⟩
    · have hfar := h x hx (hsimple ▸ hxsimple)
      simp [isBelow, packageNameOf?, hd, hxpackage, hfar] at hbelow
  · rintro ⟨⟨c, hc, hsimple⟩, hbelow⟩
    obtain ⟨d, hd, -, hdsimple, -⟩ := class?_append_of_known hc more
    rw [← isBelow_append_of_known hc more] at hbelow
    exact ⟨⟨d, hd, hdsimple.trans hsimple⟩, hbelow⟩

/-- What a search under a package finds is the same, as long as later entries keep away from the
package. -/
lemma findUnder?_append {simple package : String} (hsimple : '.' ∉ simple.toList)
    (hpackage : package ≠ "") (h : ∀ x ∈ more, x.FarFrom package) :
    (ofRegistrations (rs ++ more)).findUnder? simple package =
      (ofRegistrations rs).findUnder? simple package := by
  rw [findUnder?_eq_head?, findUnder?_eq_head?,
    lookup?_append fun x hx => (h x hx).key?_ne hpackage hsimple,
    filter_bySimpleName_append fun x hx => (h x hx).not_below]

lemma bind_fqn?_findUnder?_append {simple package : String} (hsimple : '.' ∉ simple.toList)
    (hpackage : package ≠ "") (h : ∀ x ∈ more, x.FarFrom package) :
    ((ofRegistrations (rs ++ more)).findUnder? simple package).bind
        (ofRegistrations (rs ++ more)).fqn? =
      ((ofRegistrations rs).findUnder? simple package).bind (ofRegistrations rs).fqn? := by
  rw [findUnder?_append hsimple hpackage h]
  cases hfound : (ofRegistrations rs).findUnder? simple package with
  | none => rfl
  | some id =>
    obtain ⟨c, hc⟩ := class?_of_findUnder? hfound
    obtain ⟨d, hd, hfqn, -⟩ := class?_append_of_known hc more
    rw [Option.bind_some, Option.bind_some, fqn?, fqn?, hc, hd, Option.map_some, Option.map_some,
      hfqn]

end Registry

/-! ### Classification with two resolvers -/

/-- The findings are about the same class and the same in all but its place. -/
structure ClassFindings.Matches (r r' : Registry) (f f' : ClassFindings) : Prop where
  fqn_eq : r.fqn? f.classId = r'.fqn? f'.classId
  findings_eq : f.findings = f'.findings
  members_eq : f.members.map (fun m => { m with classId := f'.classId }) = f'.members

lemma ClassView.members_at (v : ClassView) (id id' : ClassId) :
    (v.members id).map (fun m => { m with classId := id' }) = v.members id' := by
  simp [members, List.map_flatMap, Function.comp_def]

lemma forall₂_filterMap_filterMap {α β γ : Type} {R : β → γ → Prop} {f : α → Option β}
    {g : α → Option γ} {as : List α} (h : ∀ a ∈ as, ∃ b c, f a = some b ∧ g a = some c ∧ R b c) :
    List.Forall₂ R (as.filterMap f) (as.filterMap g) := by
  induction as with
  | nil => exact .nil
  | cons a as ih =>
    obtain ⟨b, c, hb, hc, hR⟩ := h a List.mem_cons_self
    rw [List.filterMap_cons_some hb, List.filterMap_cons_some hc]
    exact .cons hR (ih fun a' ha' => h a' (List.mem_cons_of_mem _ ha'))

namespace Resolver

variable {r r' : Resolver} {u : SourceUnit}

/-- What is found out about a type, with any resolver under which the names of the file mean the
same. -/
lemma classify?_eq_some (h : r'.resolve (Scope.ofUnit u) = r.resolve (Scope.ofUnit u)) {d : Decl}
    {id : ClassId} (hid : r'.registry.lookup? (classKey (u.package.getD "") d.name) = some id) :
    r'.classify? u d = some ⟨id, (r.view (u, d)).findings, (r.view (u, d)).members id⟩ := by
  have hview : r'.view (u, d) = { r.view (u, d) with resolver := r' } := rfl
  have hclassify : r'.classify? u d =
      some ⟨id, (r'.view (u, d)).findings, (r'.view (u, d)).members id⟩ := by
    simp only [classify?, hid, Option.map_some]
    rfl
  rw [hclassify, hview, ClassView.findings_congr (v := r.view (u, d)) h,
    ClassView.members_congr (v := r.view (u, d)) h]

/-- A source file is classified alike with resolvers under which its names mean the same and whose
registries know its types. -/
lemma classifyUnit_matches (h : r'.resolve (Scope.ofUnit u) = r.resolve (Scope.ofUnit u))
    (hown : ∀ key ∈ u.keys, r.registry.contains key = true)
    (hown' : ∀ key ∈ u.keys, r'.registry.contains key = true) :
    List.Forall₂ (ClassFindings.Matches r.registry r'.registry) (r.classifyUnit u)
      (r'.classifyUnit u) := by
  apply forall₂_filterMap_filterMap
  intro d hd
  have hkey : classKey (u.package.getD "") d.name ∈ u.keys := List.mem_map_of_mem hd
  obtain ⟨id, hid⟩ := Option.isSome_iff_exists.mp (hown _ hkey)
  obtain ⟨id', hid'⟩ := Option.isSome_iff_exists.mp (hown' _ hkey)
  refine ⟨_, _, classify?_eq_some rfl hid, classify?_eq_some h hid', ?_, rfl,
    ClassView.members_at _ id id'⟩
  obtain ⟨c, hc, hfqn⟩ := Registry.class?_of_lookup? hid
  obtain ⟨c', hc', hfqn'⟩ := Registry.class?_of_lookup? hid'
  rw [Registry.fqn?, Registry.fqn?, hc, hc', Option.map_some, Option.map_some, hfqn, hfqn']

/-! ### Names in a source file -/

/-- The names of a file mean the same as long as later entries keep away from the packages that it
imports as a whole. -/
lemma resolve_append {rs more : List Registration} (himports : ∀ i ∈ u.imports, i.path ≠ "")
    (hfar : ∀ x ∈ more, ∀ i ∈ u.imports, i.isPackage = true → x.FarFrom i.path)
    (lexicon : Option Lexicon) :
    resolve { registry := .ofRegistrations (rs ++ more), lexicon } (Scope.ofUnit u) =
      resolve { registry := .ofRegistrations rs, lexicon } (Scope.ofUnit u) := by
  funext reference
  apply resolve_congr
  intro package hpackage simple hsimple
  rw [Scope.wildcards_ofUnit] at hpackage
  obtain ⟨i, hi, rfl⟩ := List.mem_map.mp hpackage
  obtain ⟨hi, hwhole⟩ := List.mem_filter.mp hi
  exact Registry.bind_fqn?_findUnder?_append hsimple (himports i hi)
    fun x hx => hfar x hx i hi hwhole

/-- The names of a file that imports no package as a whole mean the same in all registries. -/
lemma resolve_of_no_package (h : ∀ i ∈ u.imports, i.isPackage = false) (r r' : Registry)
    (lexicon : Option Lexicon) :
    resolve { registry := r', lexicon } (Scope.ofUnit u) =
      resolve { registry := r, lexicon } (Scope.ofUnit u) := by
  have hnone : (Scope.ofUnit u).wildcards = [] := by
    rw [Scope.wildcards_ofUnit, List.map_eq_nil_iff, List.filter_eq_nil_iff]
    intro i hi
    simp [h i hi]
  funext reference
  apply resolve_congr
  simp [hnone]

end Resolver

/-- The source file is one of those that a run over a root with a pattern reads. -/
def Settings.Reads (s : Settings) (d : Disk) (recovery : Recovery) (root pattern : String)
    (u : SourceUnit) : Prop :=
  ∃ files, d.sources s.scan root (.ofText pattern) = .ok files ∧
    u ∈ (readSources d recovery s.analysis.tolerateSyntaxErrors files).1

/-- The registry of a run knows the types of the files that the run reads. -/
lemma Settings.Reads.contains {s : Settings} {d : Disk} {ids ids' : Supply} {q : AnalysisRequest}
    {p : ProjectData} {report : Report} (h : s.analyze d ids q = .ok (p, report, ids'))
    {u : SourceUnit} (hu : s.Reads d q.recovery p.root q.pattern u) :
    ∀ key ∈ u.keys, p.registry.contains key = true := by
  obtain ⟨-, -, -, files, hfiles, hunits⟩ := Settings.ofUnits_of_analyze h
  obtain ⟨files', hfiles', hu⟩ := hu
  rw [hfiles, Except.ok.injEq] at hfiles'
  subst hfiles'
  have hregistry : p.registry =
      Registry.ofUnits p.root
        (readSources d q.recovery s.analysis.tolerateSyntaxErrors files).1 :=
    congrArg (·.1.registry) hunits.symm
  intro key hkey
  obtain ⟨t, ht, rfl⟩ := List.mem_map.mp hkey
  obtain ⟨id, hid⟩ := Registry.exists_lookup?_ofUnits p.root hu ht
  rw [hregistry, Registry.contains, hid, Option.isSome_some]

/-- A source file whose types are registered is classified in the same way, with the same places,
after any further entries that keep away from the packages that it imports as a whole. If it imports
none, it is classified alike in all registries that know its types, in particular in all runs that
differ in the package pattern. -/
theorem classifyUnit_local (u : SourceUnit) (himports : ∀ i ∈ u.imports, i.path ≠ "")
    (lexicon : Option Lexicon) (rs : List Registration)
    (hown : ∀ key ∈ u.keys, (Registry.ofRegistrations rs).contains key = true) :
    (∀ more : List Registration,
      (∀ x ∈ more, ∀ i ∈ u.imports, i.isPackage = true → x.FarFrom i.path) →
      Resolver.classifyUnit { registry := .ofRegistrations (rs ++ more), lexicon } u =
        Resolver.classifyUnit { registry := .ofRegistrations rs, lexicon } u) ∧
    ((∀ i ∈ u.imports, i.isPackage = false) →
      (∀ r : Registry, (∀ key ∈ u.keys, r.contains key = true) →
        List.Forall₂ (ClassFindings.Matches (.ofRegistrations rs) r)
          (Resolver.classifyUnit { registry := .ofRegistrations rs, lexicon } u)
          (Resolver.classifyUnit { registry := r, lexicon } u)) ∧
      ∀ (s : Settings) (d : Disk) (q : AnalysisRequest) (pattern : String) (a b a' b' : Supply)
        (p p' : ProjectData) (report report' : Report),
        s.analyze d a q = .ok (p, report, b) →
        s.analyze d a' { q with pattern } = .ok (p', report', b') →
        s.Reads d q.recovery p.root q.pattern u → s.Reads d q.recovery p'.root pattern u →
        List.Forall₂ (ClassFindings.Matches p.registry p'.registry)
          (Resolver.classifyUnit { registry := p.registry, lexicon := q.lexicon } u)
          (Resolver.classifyUnit { registry := p'.registry, lexicon := q.lexicon } u)) := by
  refine ⟨fun more hfar => ?_, fun hnone => ⟨fun r hr => ?_, ?_⟩⟩
  · apply List.filterMap_congr
    intro d hd
    obtain ⟨id, hid⟩ := Option.isSome_iff_exists.mp (hown _ (List.mem_map_of_mem hd))
    rw [Resolver.classify?_eq_some (Resolver.resolve_append himports hfar lexicon)
        (Registry.lookup?_append_of_known hid more),
      Resolver.classify?_eq_some rfl hid]
  · exact Resolver.classifyUnit_matches (Resolver.resolve_of_no_package hnone _ _ _) hown hr
  · intro s d q pattern a b a' b' p p' report report' hrun hrun' hreads hreads'
    exact Resolver.classifyUnit_matches (Resolver.resolve_of_no_package hnone _ _ _)
      (hreads.contains hrun) (hreads'.contains hrun')

/-- A class with the searched name enters three times, in a package whose name only begins alike, in
the package above the imported one and in the own package of the file. -/
theorem classifyUnit_local_clock :
    let main : SourceUnit :=
      { package := some "app", imports := [{ path := "lib.time", isWildcard := true }]
        types := [{ name := "Main", kind := .classType
                    fields := [⟨{}, [], .plain "Clock", ["clock"], 1⟩] }] }
    let rs := main.registrations "" ++ [.type "lib.time.zone" "Clock" .classType none]
    let more : List Registration := ["lib.timers", "lib", "app"].map fun package =>
      .type package "Clock" .classType none
    (∀ i ∈ main.imports, i.path ≠ "") ∧
      (∀ key ∈ main.keys, (Registry.ofRegistrations rs).contains key = true) ∧
      (∀ x ∈ more, ∀ i ∈ main.imports, i.isPackage = true → x.FarFrom i.path) ∧
      (Resolver.classifyUnit { registry := .ofRegistrations (rs ++ more) } main).map (·.findings) =
        [[⟨"lib.time.zone.Clock", .composition⟩]] := by
  intro main rs more
  have himports : ∀ i ∈ main.imports, i.path ≠ "" := by decide +kernel
  have hown : ∀ key ∈ main.keys, (Registry.ofRegistrations rs).contains key = true := by
    decide +kernel
  have hfar : ∀ x ∈ more, ∀ i ∈ main.imports, i.isPackage = true → x.FarFrom i.path := by
    decide +kernel
  refine ⟨himports, hown, hfar, ?_⟩
  rw [(classifyUnit_local main himports none rs hown).1 more hfar]
  decide +kernel

/-- A class that lies in another package can still change what a name means, if its own name
has a dot. -/
theorem not_classifyUnit_local_dotted :
    ¬∀ (u : SourceUnit) (rs more : List Registration),
      (∀ d ∈ u.types, '.' ∉ d.name.toList) → (∀ i ∈ u.imports, i.path ≠ "") →
      (∀ key ∈ u.keys, (Registry.ofRegistrations rs).contains key = true) →
      (∀ x ∈ more, ∀ i ∈ u.imports, i.isPackage = true → ¬x.LiesUnder i.path) →
      (Resolver.classifyUnit { registry := .ofRegistrations (rs ++ more) } u).map (·.findings) =
        (Resolver.classifyUnit { registry := .ofRegistrations rs } u).map (·.findings) := by
  intro h
  let main : SourceUnit :=
    { package := some "app", imports := [{ path := "lib.time", isWildcard := true }]
      types := [{ name := "Main", kind := .classType
                  fields := [⟨{}, [], .plain "Clock", ["clock"], 1⟩] }] }
  have hclaim := h main (main.registrations "") [.type "lib" "time.Clock" .classType none]
    (by decide +kernel) (by decide +kernel) (by decide +kernel) (by decide +kernel)
  revert hclaim
  decide +kernel

end Cartograph
