import Cartograph.Classification
import Mathlib.Data.List.Basic

/-!
# What the rules ask a resolver

All rules see a class through its view, and of the resolver in the view they ask only what names
stand for in the scope of the file. So a class is classified alike with any two resolvers that agree
on this, and its members have the same types. There is one statement for each family of rules that
resolves names; the others do not look at the resolver at all.
-/

namespace Cartograph

open Text Java

variable {v : ClassView} {r : Resolver} (h : r.resolve v.scope = v.resolver.resolve v.scope)
include h

/-! ### Names and types -/

namespace ClassView

lemma resolve_congr (name : String) : { v with resolver := r }.resolve name = v.resolve name :=
  congrFun h name

lemma resolveType?_congr (t : WrittenType) :
    { v with resolver := r }.resolveType? t = v.resolveType? t := by
  simp only [resolveType?, resolve_congr h]
  rfl

lemma resolvePath?_congr (segments : List String) :
    { v with resolver := r }.resolvePath? segments = v.resolvePath? segments := by
  simp only [resolvePath?, Resolver.resolvePath?, h]

/-- Members have the same names for their types. -/
lemma members_congr (id : ClassId) : { v with resolver := r }.members id = v.members id := by
  simp only [members, typeName, resolveType?_congr h]

end ClassView

namespace Rules

open ClassView

/-! ### Type structure -/

lemma generics_congr (kind : Kind) (t : WrittenType) :
    generics { v with resolver := r } kind t = generics v kind t := by
  simp only [generics, resolveType?_congr h]

lemma mentionedType_congr (kind : Kind) (t : WrittenType) :
    mentionedType { v with resolver := r } kind t = mentionedType v kind t := by
  simp only [mentionedType, resolveType?_congr h, generics_congr h]

lemma exceptions_congr (types : List WrittenType) :
    exceptions { v with resolver := r } types = exceptions v types := by
  simp only [exceptions, resolveType?_congr h]

lemma signatures_congr (d : Decl) :
    signatures { v with resolver := r } d = signatures v d := by
  simp only [signatures, parameters, exceptions_congr h, mentionedType_congr h]

lemma fields_congr (d : Decl) : fields { v with resolver := r } d = fields v d := by
  simp only [fields, fieldType, resolveType?_congr h, generics_congr h]

lemma invocation_congr (vs : Variables) :
    invocation { v with resolver := r } vs = invocation v vs := by
  funext call
  simp only [invocation, emitOther, resolveType?_congr h, resolvePath?_congr h, isSelf,
    ClassView.simpleName]

lemma constantAccess_congr (vs : Variables) :
    constantAccess { v with resolver := r } vs = constantAccess v vs := by
  funext access
  simp only [constantAccess, emitOther, resolvePath?_congr h, isSelf, ClassView.simpleName]

lemma code_congr (body : Body) (vs : Variables) :
    code { v with resolver := r } body vs = code v body vs := by
  simp only [code, mentionedType_congr h, exceptions_congr h, resolveType?_congr h,
    invocation_congr h, constantAccess_congr h]

lemma typeStructure_congr : typeStructure { v with resolver := r } = typeStructure v := by
  simp only [typeStructure, bounds, resolveType?_congr h, generics_congr h, signatures_congr h,
    fields_congr h, code_congr h, ClassView.declarations]

/-! ### Wiring, persistence and messaging -/

lemma parameterTypes_congr (kind : Kind) (params : List Param) :
    parameterTypes { v with resolver := r } kind params = parameterTypes v kind params := by
  simp only [parameterTypes, resolveType?_congr h]

lemma injection_congr : injection { v with resolver := r } = injection v := by
  funext d
  simp only [injection, parameterTypes_congr h, resolveType?_congr h]

lemma wiring_congr : wiring { v with resolver := r } = wiring v := by
  simp only [wiring, injection_congr h, generatedConstructor, beanDefinitions,
    resolveType?_congr h]
  rfl

lemma persistence_congr : persistence { v with resolver := r } = persistence v := by
  simp only [persistence, repositoryTypes, mappers, parameterTypes_congr h, resolveType?_congr h]
  rfl

lemma listenedEvents_congr : listenedEvents { v with resolver := r } = listenedEvents v := by
  funext m
  simp only [listenedEvents, parameterTypes_congr h, ClassView.resolve_congr h]

lemma messaging_congr : messaging { v with resolver := r } = messaging v := by
  simp only [messaging, listenedEvents_congr h]
  rfl

/-! ### Concerns and layers -/

lemma loggerField_congr : loggerField { v with resolver := r } = loggerField v := by
  funext f
  simp only [loggerField, resolveType?_congr h]

lemma concerns_congr : concerns { v with resolver := r } = concerns v := by
  simp only [concerns, loggingAndMetrics, loggerField_congr h]
  rfl

lemma layering_congr : layering { v with resolver := r } = layering v := by
  simp only [layering, collaborators, repositoryEntity, resolveType?_congr h]
  rfl

end Rules

/-- All findings are the same. -/
lemma ClassView.findings_congr : { v with resolver := r }.findings = v.findings := by
  simp only [findings, Rules.typeStructure_congr h, Rules.wiring_congr h, Rules.persistence_congr h,
    Rules.messaging_congr h, Rules.concerns_congr h, Rules.layering_congr h]
  rfl

end Cartograph
