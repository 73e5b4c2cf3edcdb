import Cartograph.Proofs.Analysis.References
import Cartograph.Proofs.Resolution.SimpleNames

/-!
# Endpoints and controllers

The endpoints of a project come from the mapping annotations on the methods of its controllers, one
from each and in the order of the files. Which classes are controllers is asked a second time when
their dependencies are classified. The two agree: the class of an endpoint has an edge of the
controller kind to itself, whether its package is named or not and however many files declare it.
-/

namespace Cartograph

open Text Java

/-- A mapping annotation on a method of a controller, with the file that declares it. -/
structure Handler where
  unit : SourceUnit
  decl : Decl
  method : Method
  mapping : AnnotationUse

/-- The mapping annotations on the methods of the controllers of source files, in order. -/
def handlers (units : List SourceUnit) : List Handler :=
  units.flatMap fun u => (u.types.filter Decl.isController).flatMap fun d =>
    d.methods.flatMap fun m => (m.annotations.filter isMapping).map fun a => ⟨u, d, m, a⟩

/-- The path that a controller gives to all of its methods. -/
def Java.Decl.basePath (d : Decl) : String :=
  ((annotationNamed? d.annotations "RequestMapping").map mappingPath).getD ""

/-- The request is the one that the handler answers. -/
structure Handler.Answers (h : Handler) (r : Registry) (m : Mapping) : Prop where
  classId_eq : r.lookup? (classKey (h.unit.package.getD "") h.decl.name) = some m.classId
  uri_eq : m.uri = combinePaths h.decl.basePath (mappingPath h.mapping)
  verb_eq : mappingVerb? h.mapping = some m.verb

/-- The request of an endpoint. -/
def Endpoint.mapping (e : Endpoint) : Mapping := ⟨e.classId, e.uri, e.verb⟩

/-! ### One endpoint for each handler -/

/-- An annotation that maps requests is one that has a verb. -/
lemma isMapping_iff {a : AnnotationUse} :
    isMapping a = true ↔ ∃ verb, mappingVerb? a = some verb := by
  rw [isMapping, List.any_eq_true, ← List.find?_isSome, mappingVerb?]
  generalize List.find? _ mappingNames = found?
  cases found? with
  | none => simp
  | some found =>
    obtain ⟨name, verb⟩ := found
    cases verb <;> simp

lemma map_mapping_endpointsOf (ids : Supply) (ms : List Mapping) :
    (endpointsOf ids ms).1.map Endpoint.mapping = ms := by
  induction ms generalizing ids with
  | nil => rfl
  | cons m ms ih =>
    simp only [endpointsOf, List.map_cons, ih]
    rfl

/-- The request that a handler answers, if its class is registered. -/
def Handler.mapping? (r : Registry) (h : Handler) : Option Mapping :=
  (r.lookup? (classKey (h.unit.package.getD "") h.decl.name)).bind fun id =>
    (mappingVerb? h.mapping).map fun verb =>
      ⟨id, combinePaths h.decl.basePath (mappingPath h.mapping), verb⟩

/-- The mappings of a method are those of its mapping annotations. -/
lemma filterMap_mapping? {r : Registry} {u : SourceUnit} {d : Decl} {id : ClassId}
    (hid : r.lookup? (classKey (u.package.getD "") d.name) = some id) (m : Method) :
    ((m.annotations.filter isMapping).map fun a => (⟨u, d, m, a⟩ : Handler)).filterMap
        (Handler.mapping? r) =
      m.annotations.filterMap fun a =>
        (mappingVerb? a).map fun verb => ⟨id, combinePaths d.basePath (mappingPath a), verb⟩ := by
  rw [List.filterMap_map, List.filterMap_filter]
  apply List.filterMap_congr
  intro a _
  simp only [Function.comp_apply, Handler.mapping?, hid, Option.bind_some]
  split_ifs with ha
  · rfl
  · have hnone : mappingVerb? a = none := by
      rw [isMapping_iff] at ha
      rw [← Option.not_isSome_iff_eq_none, Option.isSome_iff_exists]
      exact ha
    rw [hnone, Option.map_none]

lemma flatMap_mappings (r : Registry) (units : List SourceUnit) :
    units.flatMap (·.mappings r) = (handlers units).filterMap (Handler.mapping? r) := by
  rw [handlers, List.filterMap_flatMap]
  congr 1
  funext u
  rw [SourceUnit.mappings, List.filterMap_flatMap]
  congr 1
  funext d
  rw [List.filterMap_flatMap]
  cases hid : r.lookup? (classKey (u.package.getD "") d.name) with
  | none => simp [Handler.mapping?, hid]
  | some id =>
    simp only [filterMap_mapping? hid]
    rfl

lemma mem_handlers {units : List SourceUnit} {h : Handler} :
    h ∈ handlers units ↔ h.unit ∈ units ∧ h.decl ∈ h.unit.types ∧ h.decl.isController = true ∧
      h.method ∈ h.decl.methods ∧ h.mapping ∈ h.method.annotations ∧
      isMapping h.mapping = true := by
  simp only [handlers, List.mem_flatMap, List.mem_map, List.mem_filter]
  constructor
  · rintro ⟨u, hu, d, ⟨hd, hcontroller⟩, m, hm, a, ⟨ha, hmapping⟩, rfl⟩
    exact ⟨hu, hd, hcontroller, hm, ha, hmapping⟩
  · rintro ⟨hu, hd, hcontroller, hm, ha, hmapping⟩
    exact ⟨_, hu, _, ⟨hd, hcontroller⟩, _, hm, _, ⟨ha, hmapping⟩, rfl⟩

/-- Every handler answers a request, as its class is registered. -/
lemma exists_mapping? (root : String) {units : List SourceUnit} {h : Handler}
    (hh : h ∈ handlers units) :
    ∃ m, h.mapping? (Registry.ofUnits root units) = some m ∧
      h.Answers (Registry.ofUnits root units) m := by
  obtain ⟨hu, hd, -, -, -, hmapping⟩ := mem_handlers.mp hh
  obtain ⟨id, hid⟩ := Registry.exists_lookup?_ofUnits root hu hd
  obtain ⟨verb, hverb⟩ := isMapping_iff.mp hmapping
  refine ⟨⟨id, combinePaths h.decl.basePath (mappingPath h.mapping), verb⟩, ?_, hid, rfl, hverb⟩
  simp only [Handler.mapping?, hid, hverb, Option.bind_some, Option.map_some]

lemma forall₂_answers (root : String) (ids : Supply) (units : List SourceUnit) :
    List.Forall₂ (fun h (e : Endpoint) => h.Answers (Registry.ofUnits root units) e.mapping)
      (handlers units)
      (endpointsOf ids (units.flatMap (·.mappings (Registry.ofUnits root units)))).1 := by
  rw [← List.forall₂_map_right_iff, map_mapping_endpointsOf, flatMap_mappings]
  exact forall₂_filterMap fun h hh => exists_mapping? root hh

/-! ### The edge of a controller to itself -/

/-- The key of a class is not blank. -/
lemma isBlankText_classKey (package simple : String) :
    isBlankText (classKey package simple) = false := by
  rw [isBlankText, List.all_eq_false]
  exact ⟨'.', Registry.dot_mem_classKey package simple, by decide⟩

/-- A controller is found to be one, under its own key. -/
lemma controller_mem_findings {v : ClassView} (hcontroller : v.isController = true)
    (hblank : isBlankText v.fqn = false) : ⟨v.fqn, .controller⟩ ∈ v.findings := by
  have hrole : ⟨v.fqn, .controller⟩ ∈ Rules.roles v := by
    simp [Rules.roles, hcontroller, emit, hblank]
  simp only [ClassView.findings, Rules.wiring, List.mem_append, hrole, true_or, or_true]

/-- The class of a controller that a source file declares has an edge to itself. -/
lemma exists_controllerEdge (root : String) (lexicon : Option Lexicon) (batch : Uuid)
    {units : List SourceUnit} {u : SourceUnit} (hu : u ∈ units) {d : Decl} (hd : d ∈ u.types)
    (hcontroller : d.isController = true) {id : ClassId}
    (hid : (Registry.ofUnits root units).lookup? (classKey (u.package.getD "") d.name) =
      some id) :
    ∃ f ∈ units.flatMap
        (Resolver.classifyUnit { registry := Registry.ofUnits root units, lexicon }),
      ∃ e ∈ f.edges (Registry.ofUnits root units) batch,
        e.kind = .controller ∧ e.source = id ∧ e.targetClass = some id := by
  have hud : (u, d) ∈ declarations units :=
    List.mem_flatMap.mpr ⟨u, hu, List.mem_map_of_mem hd⟩
  obtain ⟨f, hf, hdescribes⟩ := exists_classify? root lexicon hud
  have hclass : f.classId = id := by
    obtain ⟨c, hc, hfqn⟩ := hdescribes.registered
    have hlookup := Registry.lookup?_fqn (Registry.nodup_fqns_ofUnits root units) hc
    rw [hfqn] at hlookup
    exact Option.some.inj (hlookup.symm.trans hid)
  have hfinding : ⟨classKey (u.package.getD "") d.name, .controller⟩ ∈ f.findings := by
    rw [hdescribes.findings_eq]
    exact controller_mem_findings hcontroller (isBlankText_classKey _ _)
  refine ⟨f, ?_, _, List.mem_map_of_mem hfinding, rfl, hclass, ?_⟩
  · rw [flatMap_classifyUnit]
    exact List.mem_filterMap.mpr ⟨(u, d), hud, hf⟩
  · simp only [Registry.resolveTarget?, hid, Option.some_or]

/-- The endpoints of source files are the requests that their handlers answer, one for each handler
and in their order: the class is the one registered for the controller, and the path is that of the
controller joined to that of the method. The class of each endpoint is classified as a controller,
by an edge that leads from the class to itself. -/
theorem endpoints_of_handlers (id : Uuid) (root : String) (batch : Uuid)
    (lexicon : Option Lexicon) (ids : Supply) (units : List SourceUnit) :
    let p := (ProjectData.ofUnits id root batch lexicon ids units).1
    List.Forall₂ (fun h e => h.Answers p.registry e.mapping) (handlers units) p.endpoints ∧
      ∀ e ∈ p.endpoints, ∃ edge ∈ p.edges,
        edge.kind = .controller ∧ edge.source = e.classId ∧
          edge.targetClass = some e.classId := by
  intro p
  have hall : List.Forall₂ (fun h e => h.Answers p.registry e.mapping) (handlers units)
      p.endpoints :=
    forall₂_answers root ids units
  refine ⟨hall, fun e he => ?_⟩
  have hmapping : e.mapping ∈ (handlers units).filterMap (Handler.mapping? p.registry) := by
    rw [← flatMap_mappings, ← map_mapping_endpointsOf ids (units.flatMap _)]
    exact List.mem_map_of_mem he
  obtain ⟨h, hh, hm⟩ := List.mem_filterMap.mp hmapping
  obtain ⟨m, hm', hanswers⟩ := exists_mapping? root hh
  obtain rfl : m = e.mapping := Option.some.inj (hm'.symm.trans hm)
  obtain ⟨hu, hd, hcontroller, -⟩ := mem_handlers.mp hh
  obtain ⟨f, hf, edge, hedge, hkind⟩ :=
    exists_controllerEdge root lexicon batch hu hd hcontroller hanswers.classId_eq
  exact ⟨edge, List.mem_flatMap.mpr ⟨f, hf, hedge⟩, hkind⟩

/-- Two files without a package declare the same controller, with two mapping annotations on one
method. -/
theorem endpoints_of_handlers_shop :
    let buy : Method :=
      ⟨"buy", {}, [⟨"PostMapping", .single (.text "/buy/")⟩, ⟨"web.GetMapping", .marker⟩], [],
        .void, [], [], {}, 1⟩
    let shop : Decl :=
      { name := "Shop", kind := .classType, methods := [buy]
        annotations :=
          [⟨"RequestMapping", .single (.text "api/")⟩, ⟨"web.RestController", .marker⟩] }
    let p := (ProjectData.ofUnits (.ofNat 0) "" (.ofNat 1) none { draw := .ofNat }
      [{ types := [shop] }, { types := [shop] }]).1
    p.endpoints.map (·.mapping) =
        [⟨0, "/api/buy/", .post⟩, ⟨0, "/api/", .get⟩, ⟨0, "/api/buy/", .post⟩, ⟨0, "/api/", .get⟩] ∧
      ∃ edge ∈ p.edges, edge.kind = .controller ∧ edge.source = 0 ∧ edge.targetClass = some 0 := by
  intro buy shop p
  have hendpoints : p.endpoints.map (·.mapping) =
      [⟨0, "/api/buy/", .post⟩, ⟨0, "/api/", .get⟩, ⟨0, "/api/buy/", .post⟩,
        ⟨0, "/api/", .get⟩] := by
    decide +kernel
  obtain ⟨e, he, hclass⟩ : ∃ e ∈ p.endpoints, e.classId = 0 := by decide +kernel
  refine ⟨hendpoints, ?_⟩
  rw [← hclass]
  exact (endpoints_of_handlers _ _ _ _ _ _).2 e he

end Cartograph
