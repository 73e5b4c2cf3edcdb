import Cartograph.Proofs.Analysis.References
import Cartograph.Proofs.Registry.Registrations
import Cartograph.Proofs.Text.Dotted

/-!
# What the rules can find

The rules emit findings in many places and in three ways: a text as it is, a resolved type, or a
resolved type other than the class under study. `ClassView.Admits` says of a finding what holds in
all of these places: its target is not blank, it is no basic type if its kind is one that is
recorded of types only, and it is not the class itself if its kind is that of a reference in code.

So a reference in code never leads from a class back to itself, as long as the class is in a named
package. In the default package it can, since a target that is not registered is looked up there by
its last segment.
-/

namespace Cartograph

open Text Java

namespace Kind

/-- The kinds that are recorded of types only: those of type structure, of injected and defined
beans, of repositories, of events and of layers. -/
def isOfTypes : Kind → Bool
  | .setterInjection | .beanDefinition | .constructorInjection | .fieldInjection
  | .repositoryInterface | .eventListener
  | .controllerToService | .serviceToRepository | .repositoryToEntity => true
  | k => k.category = .typeStructure

/-- The kinds of references that code makes to a class: by a call or by a constant. -/
def isReference : Kind → Bool
  | .methodCall | .staticCall | .constantReference => true
  | _ => false

/-- The kinds that are recorded of types only, by their codes. -/
lemma isOfTypes_iff_code {k : Kind} :
    k.isOfTypes = true ↔ k.code.startsWith "001_" = true ∨
      k.code ∈ ["002_001", "002_002", "002_003", "002_004", "003_001", "005_001", "009_001",
        "009_002", "009_003"] := by
  have hall : ∀ k ∈ all, (k.isOfTypes = true ↔ k.code.startsWith "001_" = true ∨
      k.code ∈ ["002_001", "002_002", "002_003", "002_004", "003_001", "005_001", "009_001",
        "009_002", "009_003"]) := by
    decide +kernel
  exact hall k (by cases k <;> decide)

lemma isReference_iff {k : Kind} :
    k.isReference = true ↔ k ∈ [.methodCall, .staticCall, .constantReference] := by
  cases k <;> decide

lemma isReference_of_not_isOfTypes {k : Kind} (h : k.isOfTypes = false) :
    k.isReference = false := by
  revert h
  cases k <;> decide

end Kind

namespace ClassView

/-- The finding is one that the rules may record of the class. -/
structure Admits (v : ClassView) (f : Finding) : Prop where
  not_blank : isBlankText f.target = false
  not_basic : f.kind.isOfTypes = true → isBasicType f.target = false
  not_self : f.kind.isReference = true → f.target ≠ v.fqn ∧ f.target ≠ v.simpleName

/-- The findings are ones that the rules may record of the class. -/
def AdmitsAll (v : ClassView) (findings : List Finding) : Prop := ∀ f ∈ findings, v.Admits f

variable {v : ClassView}

@[simp] lemma admitsAll_nil : v.AdmitsAll [] := fun _ hf => absurd hf List.not_mem_nil

@[simp] lemma admitsAll_append {fs gs : List Finding} :
    v.AdmitsAll (fs ++ gs) ↔ v.AdmitsAll fs ∧ v.AdmitsAll gs :=
  List.forall_mem_append

@[simp] lemma admitsAll_flatMap {α : Type} {xs : List α} {g : α → List Finding} :
    v.AdmitsAll (xs.flatMap g) ↔ ∀ x ∈ xs, v.AdmitsAll (g x) :=
  List.forall_mem_flatMap

@[simp] lemma admitsAll_ite {c : Prop} [Decidable c] {fs gs : List Finding} :
    v.AdmitsAll (if c then fs else gs) ↔ (c → v.AdmitsAll fs) ∧ (¬c → v.AdmitsAll gs) := by
  split_ifs with hc <;> simp [hc]

end ClassView

/-! ### Ways to emit -/

namespace Rules

open ClassView

variable {v : ClassView} {kind : Kind}

/-- A text is admitted for the kinds that are not only of types. -/
lemma admitsAll_emit (target : String) (hkind : kind.isOfTypes = false) :
    v.AdmitsAll (emit target kind) := by
  unfold emit
  rw [admitsAll_ite]
  refine ⟨fun _ => admitsAll_nil, fun hblank f hf => ?_⟩
  rw [List.mem_singleton] at hf
  subst hf
  have hreference := Kind.isReference_of_not_isOfTypes hkind
  exact ⟨by simpa using hblank, by simp [hkind], by simp [hreference]⟩

/-- What a resolved type gives is neither blank nor basic. -/
lemma mem_emitType {resolved : Option String} {f : Finding} :
    f ∈ emitType resolved kind ↔
      resolved = some f.target ∧ f.kind = kind ∧ isBasicType f.target = false ∧
        isBlankText f.target = false := by
  cases resolved with
  | none => simp [emitType]
  | some name =>
    rw [emitType, emit]
    constructor
    · intro hf
      split_ifs at hf with hbasic hblank
      · cases hf
      · cases hf
      · rw [List.mem_singleton] at hf
        subst hf
        exact ⟨rfl, rfl, by simpa using hbasic, by simpa using hblank⟩
    · rintro ⟨htarget, rfl, hbasic, hblank⟩
      cases htarget
      simp [hbasic, hblank]

/-- A resolved type is admitted for all kinds except those of references. -/
lemma admitsAll_emitType (resolved : Option String) (hkind : kind.isReference = false) :
    v.AdmitsAll (emitType resolved kind) := by
  intro f hf
  obtain ⟨-, rfl, hbasic, hblank⟩ := mem_emitType.mp hf
  exact ⟨hblank, fun _ => hbasic, by simp [hkind]⟩

/-- A resolved type other than the class itself is admitted for all kinds. -/
lemma admitsAll_emitOther (resolved : Option String) : v.AdmitsAll (emitOther v resolved kind) := by
  intro f hf
  obtain ⟨hother, rfl, hbasic, hblank⟩ := mem_emitType.mp hf
  refine ⟨hblank, fun _ => hbasic, fun _ => ?_⟩
  obtain ⟨-, hself⟩ := Option.filter_eq_some_iff.mp hother
  simpa [isSelf] using hself

/-! ### Type structure -/

lemma admitsAll_generics (t : WrittenType) (hkind : kind.isReference = false) :
    v.AdmitsAll (generics v kind t) :=
  admitsAll_flatMap.mpr fun _ _ => admitsAll_emitType _ hkind

lemma admitsAll_mentionedType (t : WrittenType) (hkind : kind.isReference = false) :
    v.AdmitsAll (mentionedType v kind t) :=
  admitsAll_append.mpr ⟨admitsAll_emitType _ hkind, admitsAll_generics t rfl⟩

lemma admitsAll_fieldType (t : WrittenType) : v.AdmitsAll (fieldType v t) := by
  unfold fieldType
  simp only [admitsAll_ite, admitsAll_append]
  refine ⟨fun _ => admitsAll_emitType _ rfl, fun _ => ⟨admitsAll_emitType _ rfl, ?_⟩⟩
  exact admitsAll_generics t (by split_ifs <;> rfl)

lemma admitsAll_invocation (vs : Variables) (call : Call) :
    v.AdmitsAll (invocation v vs call) := by
  unfold invocation
  split
  · split <;> simp [admitsAll_emitOther]
  · exact admitsAll_nil

lemma admitsAll_constantAccess (vs : Variables) (access : Access) :
    v.AdmitsAll (constantAccess v vs access) := by
  unfold constantAccess
  split
  · simp [admitsAll_emitOther]
  · exact admitsAll_nil

lemma admitsAll_code (body : Body) (vs : Variables) : v.AdmitsAll (code v body vs) := by
  simp (disch := decide) [code, exceptions, admitsAll_emitType, admitsAll_mentionedType,
    admitsAll_invocation, admitsAll_constantAccess]

lemma admitsAll_typeStructure (v : ClassView) : v.AdmitsAll (typeStructure v) := by
  simp (disch := decide) [typeStructure, bounds, signatures, exceptions, parameters, fields,
    admitsAll_emitType, admitsAll_generics, admitsAll_mentionedType, admitsAll_fieldType,
    admitsAll_code]

/-! ### Roles, injection and persistence -/

lemma admitsAll_parameterTypes (params : List Param) (hkind : kind.isReference = false) :
    v.AdmitsAll (parameterTypes v kind params) :=
  admitsAll_flatMap.mpr fun _ _ => admitsAll_emitType _ hkind

lemma admitsAll_wiring (v : ClassView) : v.AdmitsAll (wiring v) := by
  simp (disch := decide) [wiring, roles, injection, generatedConstructor, beanDefinitions,
    admitsAll_emit, admitsAll_emitType, admitsAll_parameterTypes]

lemma admitsAll_persistence (v : ClassView) : v.AdmitsAll (persistence v) := by
  simp (disch := decide) [persistence, repositoryTypes, queries, dataTransfer, mappers,
    admitsAll_emit, admitsAll_emitType, admitsAll_parameterTypes]

/-! ### Configuration and messaging -/

lemma admitsAll_valueKeys (annotations : List AnnotationUse) :
    v.AdmitsAll (valueKeys annotations) := by
  unfold valueKeys
  split <;> simp (disch := decide) [admitsAll_emit]

lemma admitsAll_condition (a : AnnotationUse) : v.AdmitsAll (condition a) := by
  have htext : ∀ target, v.AdmitsAll (emit target .profileCondition) :=
    fun target => admitsAll_emit target rfl
  simp only [condition, admitsAll_ite, admitsAll_flatMap, htext, implies_true, true_and]
  intro _ _
  refine ⟨fun _ => ?_, fun _ => admitsAll_nil⟩
  split <;> exact htext _

lemma admitsAll_propertyGroups (v : ClassView) : v.AdmitsAll (propertyGroups v) := by
  have htext : ∀ target, v.AdmitsAll (emit target .configurationProperties) :=
    fun target => admitsAll_emit target rfl
  simp only [propertyGroups, admitsAll_append, admitsAll_flatMap]
  constructor
  · split
    · exact htext _
    · exact admitsAll_nil
  · intro m _
    split
    · exact htext _
    · exact admitsAll_nil

lemma admitsAll_configuration (v : ClassView) : v.AdmitsAll (configuration v) := by
  simp (disch := decide) [configuration, injectedValues, admitsAll_propertyGroups,
    admitsAll_valueKeys, admitsAll_condition, admitsAll_emit]

lemma admitsAll_webClient (v : ClassView) : v.AdmitsAll (webClient v) := by
  rw [webClient, admitsAll_ite]
  refine ⟨fun _ => ?_, fun _ => admitsAll_nil⟩
  split
  · exact admitsAll_emit _ rfl
  · exact admitsAll_nil

lemma admitsAll_listenedEvents (m : Method) : v.AdmitsAll (listenedEvents v m) := by
  unfold listenedEvents
  split
  · simp only [admitsAll_append, admitsAll_flatMap]
    exact ⟨admitsAll_parameterTypes _ rfl, fun _ _ _ _ => admitsAll_emitType _ rfl⟩
  · exact admitsAll_nil

lemma admitsAll_listened (m : Method) (name : String) (target : AnnotationUse → String) :
    v.AdmitsAll (listened m name target) := by
  unfold listened
  split
  · exact admitsAll_emit _ rfl
  · exact admitsAll_nil

lemma admitsAll_messaging (v : ClassView) : v.AdmitsAll (messaging v) := by
  simp [messaging, listenedMessages, admitsAll_webClient, admitsAll_listenedEvents,
    admitsAll_listened]

/-! ### Concerns -/

lemma admitsAll_transactions (v : ClassView) : v.AdmitsAll (transactions v) := by
  simp only [transactions, admitsAll_append, admitsAll_ite, admitsAll_flatMap]
  refine ⟨⟨fun _ => admitsAll_emit _ rfl, fun _ => admitsAll_nil⟩, ?_⟩
  intro d _ m _
  split
  · exact admitsAll_emit _ rfl
  · exact admitsAll_nil

lemma admitsAll_aspects (v : ClassView) : v.AdmitsAll (aspects v) := by
  have htext : ∀ target, v.AdmitsAll (emit target .aspect) :=
    fun target => admitsAll_emit target rfl
  simp only [aspects, admitsAll_ite, admitsAll_append, admitsAll_flatMap]
  refine ⟨fun _ => ⟨htext _, fun m _ a _ => ?_⟩, fun _ => admitsAll_nil⟩
  split <;> exact htext _

lemma admitsAll_metrics (m : Method) : v.AdmitsAll (metrics m) := by
  rw [metrics, admitsAll_flatMap]
  intro metric _
  split
  · exact admitsAll_emit _ rfl
  · exact admitsAll_nil

lemma admitsAll_loggerField (f : Field) : v.AdmitsAll (loggerField v f) := by
  unfold loggerField
  split
  · rw [admitsAll_ite]
    exact ⟨fun _ => admitsAll_emit _ rfl, fun _ => admitsAll_nil⟩
  · exact admitsAll_nil

lemma admitsAll_concerns (v : ClassView) : v.AdmitsAll (concerns v) := by
  simp (disch := decide) [concerns, loggingAndMetrics, validation, parameterValidation,
    lombok, generators, jackson, jsonMapping, admitsAll_transactions, admitsAll_aspects,
    admitsAll_metrics, admitsAll_loggerField, admitsAll_emit]

/-! ### Security -/

lemma admitsAll_guards (annotations : List AnnotationUse) : v.AdmitsAll (guards annotations) := by
  rw [guards, admitsAll_flatMap]
  intro a _
  split <;> exact admitsAll_emit _ rfl

lemma admitsAll_security (v : ClassView) : v.AdmitsAll (security v) := by
  simp (disch := decide) [security, securityTypes, securityBeans, methodSecurity,
    securityObjects, admitsAll_guards, admitsAll_emit]

/-! ### Rule tables -/

lemma mem_of_mem_firing {ρ : Type} {kind : ρ → Kind} {passes : ρ → Bool} {met : List Kind}
    {rules : List ρ} {rule : ρ} (h : rule ∈ firing kind passes met rules) : rule ∈ rules := by
  fun_induction firing kind passes met rules with
  | case1 => exact h
  | case2 met rule' rules _ ih => exact List.mem_cons_of_mem _ (ih h)
  | case3 met rule' rules _ ih =>
    rcases List.mem_cons.mp h with rfl | h
    · exact List.mem_cons_self
    · exact List.mem_cons_of_mem _ (ih h)

/-- A table of rules finds what is admitted, if none of its kinds is only of types. -/
lemma admitsAll_onCall {rules : List CallRule} (h : ∀ rule ∈ rules, rule.kind.isOfTypes = false)
    (site : CallSite) : v.AdmitsAll (onCall rules site) :=
  admitsAll_flatMap.mpr fun rule hrule => admitsAll_emit _ (h rule (mem_of_mem_firing hrule))

lemma admitsAll_onVariable {rules : List VariableRule}
    (h : ∀ rule ∈ rules, rule.kind.isOfTypes = false) (use : VariableUse) :
    v.AdmitsAll (onVariable rules use) :=
  admitsAll_flatMap.mpr fun rule hrule => admitsAll_emit _ (h rule (mem_of_mem_firing hrule))

lemma admitsAll_usage (v : ClassView) : v.AdmitsAll (usage v) := by
  have hcall : ∀ rule ∈ callRules, rule.kind.isOfTypes = false := by decide +kernel
  have hvariable : ∀ rule ∈ variableRules, rule.kind.isOfTypes = false := by decide +kernel
  simp [usage, declaredVariables, calls, admitsAll_onCall hcall, admitsAll_onVariable hvariable]

/-! ### Layers -/

lemma admitsAll_collaborators (role : String) (hkind : kind.isReference = false) :
    v.AdmitsAll (collaborators v role kind) := by
  simp [collaborators, admitsAll_emitType _ hkind]

lemma admitsAll_repositoryEntity (v : ClassView) : v.AdmitsAll (repositoryEntity v) := by
  unfold repositoryEntity
  simp only
  split
  · exact admitsAll_emitType _ rfl
  · exact admitsAll_nil

lemma admitsAll_testSlices (v : ClassView) : v.AdmitsAll (testSlices v) := by
  rw [testSlices, admitsAll_flatMap]
  intro a _
  split <;> exact admitsAll_emit _ rfl

lemma admitsAll_layering (v : ClassView) : v.AdmitsAll (layering v) := by
  simp (disch := decide) [layering, requestBinding, binding, admitsAll_collaborators,
    admitsAll_repositoryEntity, admitsAll_testSlices, admitsAll_emit]

end Rules

/-- The rules find only what is admitted. -/
lemma ClassView.admitsAll_findings (v : ClassView) : v.AdmitsAll v.findings := by
  simp only [findings, admitsAll_append, Rules.admitsAll_typeStructure, Rules.admitsAll_wiring,
    Rules.admitsAll_persistence, Rules.admitsAll_configuration, Rules.admitsAll_messaging,
    Rules.admitsAll_concerns, Rules.admitsAll_security, Rules.admitsAll_usage,
    Rules.admitsAll_layering, and_self]

/-! ### Edges -/

namespace Registry

variable {r : Registry} {id : ClassId} {c : ClassRecord}

/-- A class whose key is that of a name in the default package is in that package. -/
lemma Records.packageNameOf?_of_fqn {rs : List Registration} (hr : r.Records rs)
    (hc : r.class? id = some c) {name : String} (hname : '.' ∉ name.toList)
    (hfqn : c.fqn = classKey "" name) : r.packageNameOf? id = some defaultPackage := by
  obtain ⟨x, hx, -, hpackage⟩ := (hr.sumsUp c (List.mem_of_getElem? hc)).first
  have hkey : x.key? = some (classKey "" name) := by
    rw [← hfqn]
    simpa using List.find?_some hx
  rw [packageNameOf?, hc, Option.bind_some, package?, hpackage]
  cases x with
  | package name => cases hkey
  | type package simple kind path =>
    have hcut := append_dot_inj (by decide) hname (Option.some.inj hkey)
    exact congrArg some hcut.1

/-- A target that is not the key of a class in a named package does not lead to that class. -/
lemma Records.resolveTarget?_ne {rs : List Registration} (hr : r.Records rs)
    (hc : r.class? id = some c) (hpackage : r.packageNameOf? id ≠ some defaultPackage)
    {target : String} (htarget : target ≠ c.fqn) : r.resolveTarget? target ≠ some id := by
  intro hfound
  rcases Option.or_eq_some_iff.mp hfound with hkey | ⟨-, hdefault⟩
  · obtain ⟨c', hc', hfqn⟩ := class?_of_lookup? hkey
    rw [hc, Option.some.injEq] at hc'
    exact htarget (by rw [hc', hfqn])
  · obtain ⟨c', hc', hfqn⟩ := class?_of_lookup? hdefault
    rw [hc, Option.some.injEq] at hc'
    exact hpackage (hr.packageNameOf?_of_fqn hc (not_dot_mem_simpleName target) (hc' ▸ hfqn))

end Registry

/-- The edges of a class are those of the findings about it, from its place. -/
lemma ClassFindings.Describes.mem_edges {r : Resolver} {ud : SourceUnit × Decl}
    {f : ClassFindings} (h : f.Describes r ud) {batch : Uuid} {e : Edge}
    (he : e ∈ f.edges r.registry batch) :
    ∃ c, r.registry.class? e.source = some c ∧ c.fqn = (r.view ud).fqn ∧
      ⟨e.target, e.kind⟩ ∈ (r.view ud).findings := by
  obtain ⟨finding, hfinding, rfl⟩ := List.mem_map.mp he
  obtain ⟨c, hc, hfqn⟩ := h.registered
  exact ⟨c, hc, hfqn, h.findings_eq ▸ hfinding⟩

/-- Whatever the class, no target that is found for it is blank, none is basic where only types are
recorded, and no reference in code is to the class itself. So among the edges of any source files
no reference in code leads from a class of a named package back to it. -/
theorem findings_admitted_edges_leave_class :
    (∀ (v : ClassView), ∀ f ∈ v.findings,
      isBlankText f.target = false ∧
      (f.kind.code.startsWith "001_" = true ∨
        f.kind.code ∈ ["002_001", "002_002", "002_003", "002_004", "003_001", "005_001", "009_001",
          "009_002", "009_003"] → isBasicType f.target = false) ∧
      (f.kind ∈ [.methodCall, .staticCall, .constantReference] →
        f.target ≠ v.fqn ∧ f.target ≠ v.simpleName)) ∧
    ∀ (id : Uuid) (root : String) (batch : Uuid) (lexicon : Option Lexicon) (ids : Supply)
      (units : List SourceUnit),
      let p := (ProjectData.ofUnits id root batch lexicon ids units).1
      ∀ e ∈ p.edges, e.kind ∈ [.methodCall, .staticCall, .constantReference] →
        p.registry.packageNameOf? e.source ≠ some defaultPackage →
        e.targetClass ≠ some e.source := by
  constructor
  · intro v f hf
    have hadmits := v.admitsAll_findings f hf
    rw [← Kind.isOfTypes_iff_code, ← Kind.isReference_iff]
    exact ⟨hadmits.not_blank, hadmits.not_basic, hadmits.not_self⟩
  · intro id root batch lexicon ids units p e he hkind hpackage
    rw [← Kind.isReference_iff] at hkind
    obtain ⟨f, hf, hedge⟩ := List.mem_flatMap.mp he
    obtain ⟨ud, hdescribes⟩ := describes_of_mem hf
    obtain ⟨c, hc, hfqn, hfinding⟩ := hdescribes.mem_edges hedge
    have hself := (ClassView.admitsAll_findings _ _ hfinding).not_self hkind
    have hrecords := Registry.records_ofRegistrations (units.flatMap (·.registrations root))
    rw [← Registry.ofUnits_eq_ofRegistrations] at hrecords
    rw [(hdescribes.edge hedge).2.1]
    exact hrecords.resolveTarget?_ne hc hpackage (hfqn ▸ hself.1)

/-- A class of a named package calls a class with its own simple name, in a package that is not
registered. The call leads to the class with this name in the default package, which makes the same
call and is led back to itself. -/
theorem findings_admitted_edges_leave_main :
    let main : Decl :=
      { name := "Main", kind := .classType
        initializers := { calls := [⟨some (.selector false ["lib", "Main"]), "run", []⟩] } }
    let app : SourceUnit := { package := some "app", types := [main] }
    let p := (ProjectData.ofUnits (.ofNat 0) "" (.ofNat 1) none { draw := .ofNat }
      [app, { types := [main] }]).1
    let v : ClassView := ⟨main, "app.Main", .ofUnit app, { registry := p.registry }⟩
    (⟨"lib.Main", .staticCall⟩ ∈ v.findings ∧ isBasicType "lib.Main" = false ∧
      "lib.Main" ≠ v.fqn) ∧
    (∃ e ∈ p.edges, e.kind = .staticCall ∧ p.registry.packageNameOf? e.source = some "app" ∧
      e.targetClass = p.registry.lookup? "<default>.Main" ∧ e.targetClass ≠ some e.source) ∧
    ∃ e ∈ p.edges, e.kind = .staticCall ∧ e.targetClass = some e.source := by
  intro main app p v
  have hfound : ⟨"lib.Main", .staticCall⟩ ∈ v.findings := by decide +kernel
  obtain ⟨⟨e, he, hkind, hpackage, htarget⟩, hself⟩ : (∃ e ∈ p.edges, e.kind = .staticCall ∧
      p.registry.packageNameOf? e.source = some "app" ∧
      e.targetClass = p.registry.lookup? "<default>.Main") ∧
      ∃ e ∈ p.edges, e.kind = .staticCall ∧ e.targetClass = some e.source := by
    decide +kernel
  obtain ⟨hfindings, hedges⟩ := findings_admitted_edges_leave_class
  obtain ⟨-, hbasic, hother⟩ := hfindings v _ hfound
  have hnamed : p.registry.packageNameOf? e.source ≠ some defaultPackage := by
    rw [hpackage]
    decide
  refine ⟨⟨hfound, hbasic (.inl (by decide +kernel)), (hother (by decide)).1⟩,
    ⟨e, he, hkind, hpackage, htarget, ?_⟩, hself⟩
  exact hedges _ _ _ _ _ _ e he (by simp [hkind]) hnamed

end Cartograph
