import Cartograph.Analysis
import Cartograph.Proofs.Registry.Keys
import Mathlib.Data.List.Forall2

/-!
# References inside a project

What an analysis finds out names classes by their places in the registry. `ProjectData.Consistent`
says that all these places exist, and that what is kept of a class beside its place agrees with the
registry. The data of any source files are consistent, and no declaration is lost on the way: each
top-level type of each file is classified once, in order, also if other files declare it again.
-/

namespace Cartograph

open Java

/-- Every place that the data name is that of a registered class, and the rest agrees with it. -/
structure ProjectData.Consistent (p : ProjectData) : Prop where
  edge_source : ∀ e ∈ p.edges, ∃ c, p.registry.class? e.source = some c ∧ e.sourceFqn = c.fqn
  edge_target : ∀ e ∈ p.edges, e.targetClass = p.registry.resolveTarget? e.target
  edge_targetClass : ∀ e ∈ p.edges, ∀ id, e.targetClass = some id →
    ∃ c, p.registry.class? id = some c
  edge_batch : ∀ e ∈ p.edges, e.batch = p.batch
  member_class : ∀ m ∈ p.members, ∃ c, p.registry.class? m.classId = some c
  endpoint_class : ∀ e ∈ p.endpoints, ∃ c, p.registry.class? e.classId = some c

/-- The top-level types of source files, each with its file, in order. -/
def declarations (units : List SourceUnit) : List (SourceUnit × Decl) :=
  units.flatMap fun u => u.types.map fun d => (u, d)

/-- A top-level type of a source file as the rules see it. -/
def Resolver.view (r : Resolver) (ud : SourceUnit × Decl) : ClassView where
  decl := ud.2
  fqn := classKey (ud.1.package.getD "") ud.2.name
  scope := Scope.ofUnit ud.1
  resolver := r

/-- The findings are what the rules find out about a type of a source file, at the place of the
class that is registered for it. -/
structure ClassFindings.Describes (r : Resolver) (ud : SourceUnit × Decl) (f : ClassFindings) :
    Prop where
  registered : ∃ c, r.registry.class? f.classId = some c ∧ c.fqn = (r.view ud).fqn
  findings_eq : f.findings = (r.view ud).findings
  members_eq : f.members = (r.view ud).members f.classId

/-! ### One class -/

lemma Registry.class?_of_resolveTarget? {r : Registry} {target : String} {id : ClassId}
    (h : r.resolveTarget? target = some id) : ∃ c, r.class? id = some c := by
  rcases Option.or_eq_some_iff.mp h with hkey | ⟨-, hdefault⟩
  · obtain ⟨c, hc, -⟩ := class?_of_lookup? hkey
    exact ⟨c, hc⟩
  · obtain ⟨c, hc, -⟩ := class?_of_lookup? hdefault
    exact ⟨c, hc⟩

lemma ClassView.classId_of_mem_members {v : ClassView} {id : ClassId} {m : Member}
    (h : m ∈ v.members id) : m.classId = id := by
  simp only [members, List.mem_append, List.mem_map, List.mem_flatMap] at h
  rcases h with ((⟨c, -, rfl⟩ | ⟨f, -, name, -, rfl⟩) | ⟨c, -, rfl⟩) | ⟨m, -, rfl⟩ <;> rfl

lemma Java.Decl.classId_of_mem_mappings {d : Decl} {id : ClassId} {m : Mapping}
    (h : m ∈ d.mappings id) : m.classId = id := by
  simp only [mappings, List.mem_flatMap, List.mem_filterMap, Option.map_eq_some_iff] at h
  obtain ⟨method, -, a, -, verb, -, rfl⟩ := h
  rfl

lemma Java.SourceUnit.class?_of_mem_mappings {u : SourceUnit} {r : Registry} {m : Mapping}
    (h : m ∈ u.mappings r) : ∃ c, r.class? m.classId = some c := by
  obtain ⟨d, -, hm⟩ := List.mem_flatMap.mp h
  cases hlookup : r.lookup? (classKey (u.package.getD "") d.name) with
  | none => simp [hlookup] at hm
  | some id =>
    simp only [hlookup] at hm
    obtain ⟨c, hc, -⟩ := Registry.class?_of_lookup? hlookup
    rw [Decl.classId_of_mem_mappings hm]
    exact ⟨c, hc⟩

/-- The edges of a class that is registered agree with the registry. -/
lemma ClassFindings.Describes.edge {r : Resolver} {ud : SourceUnit × Decl} {f : ClassFindings}
    (h : f.Describes r ud) {batch : Uuid} {e : Edge} (he : e ∈ f.edges r.registry batch) :
    (∃ c, r.registry.class? e.source = some c ∧ e.sourceFqn = c.fqn) ∧
      e.targetClass = r.registry.resolveTarget? e.target ∧ e.batch = batch := by
  obtain ⟨finding, -, rfl⟩ := List.mem_map.mp he
  obtain ⟨c, hc, -⟩ := h.registered
  exact ⟨⟨c, hc, by simp [hc]⟩, rfl, rfl⟩

lemma ClassFindings.Describes.member {r : Resolver} {ud : SourceUnit × Decl} {f : ClassFindings}
    (h : f.Describes r ud) {m : Member} (hm : m ∈ f.members) :
    ∃ c, r.registry.class? m.classId = some c := by
  obtain ⟨c, hc, -⟩ := h.registered
  rw [h.members_eq] at hm
  rw [ClassView.classId_of_mem_members hm]
  exact ⟨c, hc⟩

lemma map_classId_endpointsOf (ids : Supply) (ms : List Mapping) :
    (endpointsOf ids ms).1.map (·.classId) = ms.map (·.classId) := by
  induction ms generalizing ids with
  | nil => rfl
  | cons m ms ih => simp [endpointsOf, ih]

/-! ### All classes -/

lemma forall₂_filterMap {α β : Type} {R : α → β → Prop} {f : α → Option β} {as : List α}
    (h : ∀ a ∈ as, ∃ b, f a = some b ∧ R a b) : List.Forall₂ R as (as.filterMap f) := by
  induction as with
  | nil => exact .nil
  | cons a as ih =>
    obtain ⟨b, hb, hR⟩ := h a List.mem_cons_self
    rw [List.filterMap_cons_some hb]
    exact .cons hR (ih fun a' ha' => h a' (List.mem_cons_of_mem _ ha'))

lemma flatMap_classifyUnit (r : Resolver) (units : List SourceUnit) :
    units.flatMap r.classifyUnit =
      (declarations units).filterMap fun ud => r.classify? ud.1 ud.2 := by
  rw [declarations, List.filterMap_flatMap]
  congr 1
  funext u
  rw [List.filterMap_map, Resolver.classifyUnit]
  rfl

/-- The look-up of a declared type in the registry of its files never fails. -/
lemma exists_classify? (root : String) (lexicon : Option Lexicon) {units : List SourceUnit}
    {ud : SourceUnit × Decl} (h : ud ∈ declarations units) :
    ∃ f, Resolver.classify? { registry := Registry.ofUnits root units, lexicon } ud.1 ud.2 =
        some f ∧
      f.Describes { registry := Registry.ofUnits root units, lexicon } ud := by
  obtain ⟨u, hu, hmap⟩ := List.mem_flatMap.mp h
  obtain ⟨d, hd, rfl⟩ := List.mem_map.mp hmap
  obtain ⟨id, hid⟩ := Registry.exists_lookup?_ofUnits root hu hd
  let r : Resolver := { registry := Registry.ofUnits root units, lexicon }
  refine ⟨⟨id, (r.view (u, d)).findings, (r.view (u, d)).members id⟩, ?_, ?_⟩
  · simp only [Resolver.classify?, hid, Option.map_some]
    rfl
  · exact ⟨Registry.class?_of_lookup? hid, rfl, rfl⟩

lemma forall₂_describes (root : String) (lexicon : Option Lexicon) (units : List SourceUnit) :
    List.Forall₂ (ClassFindings.Describes { registry := Registry.ofUnits root units, lexicon })
      (declarations units)
      (units.flatMap
        (Resolver.classifyUnit { registry := Registry.ofUnits root units, lexicon })) := by
  rw [flatMap_classifyUnit]
  exact forall₂_filterMap fun ud hud => exists_classify? root lexicon hud

lemma describes_of_mem {root : String} {lexicon : Option Lexicon} {units : List SourceUnit}
    {f : ClassFindings}
    (h : f ∈ units.flatMap
      (Resolver.classifyUnit { registry := Registry.ofUnits root units, lexicon })) :
    ∃ ud, f.Describes { registry := Registry.ofUnits root units, lexicon } ud := by
  rw [flatMap_classifyUnit] at h
  obtain ⟨ud, hud, hf⟩ := List.mem_filterMap.mp h
  obtain ⟨f', hf', hdescribes⟩ := exists_classify? root lexicon hud
  rw [hf] at hf'
  cases hf'
  exact ⟨ud, hdescribes⟩

/-- The data that are found out about source files are consistent. -/
lemma ProjectData.consistent_ofUnits (id : Uuid) (root : String) (batch : Uuid)
    (lexicon : Option Lexicon) (ids : Supply) (units : List SourceUnit) :
    (ProjectData.ofUnits id root batch lexicon ids units).1.Consistent := by
  let r : Registry := Registry.ofUnits root units
  have hedge : ∀ e ∈ (ProjectData.ofUnits id root batch lexicon ids units).1.edges,
      (∃ c, r.class? e.source = some c ∧ e.sourceFqn = c.fqn) ∧
        e.targetClass = r.resolveTarget? e.target ∧ e.batch = batch := by
    intro e he
    obtain ⟨f, hf, he⟩ := List.mem_flatMap.mp he
    obtain ⟨ud, hdescribes⟩ := describes_of_mem hf
    exact hdescribes.edge he
  refine ⟨fun e he => (hedge e he).1, fun e he => (hedge e he).2.1, ?_,
    fun e he => (hedge e he).2.2, ?_, ?_⟩
  · intro e he id hid
    exact Registry.class?_of_resolveTarget? ((hedge e he).2.1.symm.trans hid)
  · intro m hm
    obtain ⟨f, hf, hm⟩ := List.mem_flatMap.mp hm
    obtain ⟨ud, hdescribes⟩ := describes_of_mem hf
    exact hdescribes.member hm
  · intro e he
    have hclass : e.classId ∈ (units.flatMap (·.mappings r)).map (·.classId) := by
      rw [← map_classId_endpointsOf ids]
      exact List.mem_map_of_mem he
    obtain ⟨m, hm, hclass⟩ := List.mem_map.mp hclass
    obtain ⟨u, -, hm⟩ := List.mem_flatMap.mp hm
    rw [← hclass]
    exact SourceUnit.class?_of_mem_mappings hm

/-- The data that are found out about source files name only registered classes and agree with the
registry; their edges and members come from one classification for each top-level type of each file,
in order, whether or not several files declare the type. -/
theorem ofUnits_consistent_complete (id : Uuid) (root : String) (batch : Uuid)
    (lexicon : Option Lexicon) (ids : Supply) (units : List SourceUnit) :
    let p := (ProjectData.ofUnits id root batch lexicon ids units).1
    let r : Resolver := { registry := p.registry, lexicon }
    let findings := units.flatMap r.classifyUnit
    p.Consistent ∧ p.registry = Registry.ofUnits root units ∧ p.batch = batch ∧
      p.edges = findings.flatMap (fun f => f.edges p.registry p.batch) ∧
      p.members = findings.flatMap (·.members) ∧
      List.Forall₂ (ClassFindings.Describes r) (declarations units) findings := by
  refine ⟨ProjectData.consistent_ofUnits id root batch lexicon ids units, rfl, rfl, rfl, rfl, ?_⟩
  exact forall₂_describes root lexicon units

end Cartograph
