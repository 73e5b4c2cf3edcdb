import Cartograph.Classification
import Cartograph.Proofs.Analysis.Endpoints
import Cartograph.Proofs.Java.Preorder

/-!
# The first path of a mapping

The texts of an annotation are read in two ways. One looks for the first text under any of some
keys, the other takes all texts under the first key that is present. The first text is the head of
the others wherever there is one, and in any case if at most one of the keys is present.

The path of an endpoint is read in the first way, and the paths that the rules for layers record in
the second. The last part of the module puts a mapping annotation on a method of a controller and
compares what it adds to the findings with the endpoint that it adds: the path of the endpoint is
the first of those recorded.
-/

namespace Cartograph

open Text Java

namespace Java

/-! ### Texts of a value -/

namespace ElementValue

mutual

/-- The first text of a value is the first of its texts, however deep it stands. -/
lemma firstText?_eq_head? (v : ElementValue) : v.firstText? = v.texts.head? := by
  match v with
  | .text s => rfl
  | .array items =>
    rw [firstText?, texts]
    exact firstTextOf?_eq_head? items
  | .nested use => rfl
  | .code source => rfl

lemma firstTextOf?_eq_head? (vs : List ElementValue) :
    firstTextOf? vs = (textsOf vs).head? := by
  match vs with
  | [] => rfl
  | v :: vs =>
    rw [firstTextOf?, textsOf, List.head?_append, firstText?_eq_head? v, firstTextOf?_eq_head? vs]

end

end ElementValue

/-! ### Texts under keys -/

namespace AnnotationUse

def keys (a : AnnotationUse) : List String := a.attributes.map (·.1)

/-- At most one of the keys is among those of the arguments. -/
def HasAtMostOne (a : AnnotationUse) (keys : List String) : Prop :=
  ∀ k ∈ keys, ∀ l ∈ keys, k ∈ a.keys → l ∈ a.keys → k = l

instance (a : AnnotationUse) (keys : List String) : Decidable (a.HasAtMostOne keys) :=
  inferInstanceAs (Decidable (∀ k ∈ keys, ∀ l ∈ keys, _ → _ → k = l))

variable {a : AnnotationUse} {keys : List String}

lemma attr?_eq_none_iff {key : String} : a.attr? key = none ↔ key ∉ a.keys := by
  rw [attr?, AnnotationUse.keys, attributes]
  cases a.args with
  | marker => simp
  | single v => simp
  | pairs entries =>
    rw [List.lookup_eq_none_iff]
    simp only [List.map_map, List.mem_map, Function.comp_apply, not_exists, not_and, bne_iff_ne]
    exact forall₂_congr fun entry _ => ne_comm

/-- Either no key is present, or there is a first one that is. -/
lemma exists_first_present (a : AnnotationUse) (keys : List String) :
    (∀ k ∈ keys, a.attr? k = none) ∨
      ∃ before k after v, keys = before ++ k :: after ∧ a.attr? k = some v ∧
        ∀ l ∈ before, a.attr? l = none := by
  cases hfirst : keys.findSome? a.attr? with
  | none => exact .inl (List.findSome?_eq_none_iff.mp hfirst)
  | some v =>
    obtain ⟨before, k, after, hkeys, hk, hbefore⟩ := List.findSome?_eq_some_iff.mp hfirst
    exact .inr ⟨before, k, after, v, hkeys, hk, hbefore⟩

lemma textList_of_absent (h : ∀ k ∈ keys, a.attr? k = none) : a.textList keys = [] := by
  rw [textList, List.findSome?_eq_none_iff.mpr h]
  rfl

/-- No text is found under keys that are absent or without texts. -/
lemma textAttr?_eq_none (h : ∀ k ∈ keys, ∀ v, a.attr? k = some v → v.texts = []) :
    a.textAttr? keys = none := by
  rw [textAttr?, List.findSome?_eq_none_iff]
  intro k hk
  cases hv : a.attr? k with
  | none => rfl
  | some v => rw [Option.bind_some, ElementValue.firstText?_eq_head?, h k hk v hv, List.head?_nil]

section FirstPresent

variable {before after : List String} {k : String} {v : ElementValue}
variable (hk : a.attr? k = some v) (hbefore : ∀ l ∈ before, a.attr? l = none)
include hk hbefore

lemma textList_of_first : a.textList (before ++ k :: after) = v.texts := by
  rw [textList, List.findSome?_append, List.findSome?_eq_none_iff.mpr hbefore, Option.none_or,
    List.findSome?_cons_of_isSome (by rw [hk, Option.isSome_some]), hk]
  rfl

lemma textAttr?_of_first :
    a.textAttr? (before ++ k :: after) = v.texts.head?.or (a.textAttr? after) := by
  have hnone : a.textAttr? before = none :=
    textAttr?_eq_none fun l hl w hw => by simp [hbefore l hl] at hw
  rw [textAttr?] at hnone ⊢
  rw [List.findSome?_append, hnone, Option.none_or, List.findSome?_cons, hk, Option.bind_some,
    ElementValue.firstText?_eq_head?, textAttr?]
  cases v.texts.head? <;> rfl

end FirstPresent

lemma textAttr?_of_textList_ne_nil (h : a.textList keys ≠ []) :
    a.textAttr? keys = (a.textList keys).head? := by
  rcases a.exists_first_present keys with habsent | ⟨before, k, after, v, rfl, hk, hbefore⟩
  · exact absurd (textList_of_absent habsent) h
  · rw [textList_of_first hk hbefore] at h ⊢
    rw [textAttr?_of_first hk hbefore, List.head?_eq_some_head h, Option.some_or]

lemma textAttr?_eq_head? (h : a.HasAtMostOne keys) :
    a.textAttr? keys = (a.textList keys).head? := by
  by_cases hlist : a.textList keys = []
  · rw [hlist, List.head?_nil]
    apply textAttr?_eq_none
    intro l hl w hw
    rcases a.exists_first_present keys with habsent | ⟨before, k, after, v, rfl, hk, hbefore⟩
    · simp [habsent l hl] at hw
    · -- Both keys are present, so they are the same key and have the same value.
      have hpresent {key : String} {x : ElementValue} (hx : a.attr? key = some x) :
          key ∈ a.keys := by
        by_contra habsent
        simp [attr?_eq_none_iff.mpr habsent] at hx
      obtain rfl : k = l := h k (by simp) l hl (hpresent hk) (hpresent hw)
      obtain rfl : v = w := Option.some.inj (hk.symm.trans hw)
      rw [← textList_of_first hk hbefore, hlist]
  · exact textAttr?_of_textList_ne_nil hlist

end AnnotationUse

end Java

/-! ### A place for an annotation -/

/-- A place for annotations on a method of a class: the class, the methods before and after the
method, and the annotations of the method before and after the place. -/
structure AnnotationPlace where
  view : ClassView
  before : List Method
  method : Method
  after : List Method
  earlier : List AnnotationUse
  later : List AnnotationUse

namespace AnnotationPlace

def filledMethod (p : AnnotationPlace) (uses : List AnnotationUse) : Method :=
  { p.method with annotations := p.earlier ++ uses ++ p.later }

def filled (p : AnnotationPlace) (uses : List AnnotationUse) : ClassView :=
  { p.view with
    decl := { p.view.decl with methods := p.before ++ p.filledMethod uses :: p.after } }

/-- Every annotation on a method of a class stands at a place of the class. -/
lemma exists_filled {v : ClassView} {m : Method} {a : AnnotationUse} (hm : m ∈ v.decl.methods)
    (ha : a ∈ m.annotations) : ∃ p : AnnotationPlace, p.view = v ∧ p.filled [a] = v := by
  obtain ⟨before, after, hmethods⟩ := List.append_of_mem hm
  obtain ⟨earlier, later, hannotations⟩ := List.append_of_mem ha
  refine ⟨⟨v, before, m, after, earlier, later⟩, rfl, ?_⟩
  have hmethod : filledMethod ⟨v, before, m, after, earlier, later⟩ [a] = m := by
    simp only [filledMethod, List.append_assoc, List.singleton_append, ← hannotations]
  simp only [filled, hmethod, ← hmethods]
  rcases v with ⟨d, _, _, _⟩
  cases d
  rfl

variable (p : AnnotationPlace) (uses : List AnnotationUse)

/-- Annotations declare no type variables. -/
lemma typeVars_filled : (p.filled uses).typeVars = (p.filled []).typeVars := by
  rw [ClassView.typeVars, ClassView.declarations, Decl.selfAndNested_eq, ClassView.typeVars,
    ClassView.declarations, Decl.selfAndNested_eq (p.filled []).decl]
  simp only [filled, filledMethod, List.flatMap_cons, List.flatMap_append]

lemma resolveType?_filled : (p.filled uses).resolveType? = (p.filled []).resolveType? := by
  funext t
  rw [ClassView.resolveType?, typeVars_filled]
  rfl

lemma collaborators_filled (role : String) (kind : Kind) :
    Rules.collaborators (p.filled uses) role kind =
      Rules.collaborators (p.filled []) role kind := by
  rw [Rules.collaborators, resolveType?_filled]
  rfl

lemma repositoryEntity_filled :
    Rules.repositoryEntity (p.filled uses) = Rules.repositoryEntity (p.filled []) := by
  rw [Rules.repositoryEntity, resolveType?_filled]
  rfl

end AnnotationPlace

/-! ### The findings of a mapping annotation -/

namespace Rules

def pathFinding (path : String) : Finding := ⟨"Path:" ++ path, .requestBinding⟩

/-- A path is recorded even if it is blank. -/
lemma emit_path (path : String) : emit ("Path:" ++ path) .requestBinding = [pathFinding path] := by
  have hblank : isBlankText ("Path:" ++ path) = false := by
    rw [isBlankText, List.all_eq_false]
    exact ⟨'P', by simp, by decide⟩
  rw [emit, hblank]
  rfl

/-- The findings of the parameters that a method binds to parts of the request. -/
def boundParams (m : Method) : List Finding :=
  m.params.flatMap fun q => q.annotations.flatMap (binding q)

/-- The findings of the paths of mapping annotations. -/
def mappedPaths (annotations : List AnnotationUse) : List Finding :=
  (annotations.filter isMapping).flatMap fun a => (a.textList ["value", "path"]).map pathFinding

lemma mappedPaths_append (as bs : List AnnotationUse) :
    mappedPaths (as ++ bs) = mappedPaths as ++ mappedPaths bs := by
  rw [mappedPaths, List.filter_append, List.flatMap_append]
  rfl

lemma mappedPaths_nil : mappedPaths [] = [] := rfl

lemma mappedPaths_singleton {a : AnnotationUse} (h : isMapping a = true) :
    mappedPaths [a] = (a.textList ["value", "path"]).map pathFinding := by
  rw [mappedPaths, List.filter_cons_of_pos h, List.filter_nil, List.flatMap_singleton]

/-- The findings of a method of a controller. -/
def methodFindings (m : Method) : List Finding := mappedPaths m.annotations ++ boundParams m

lemma requestBinding_eq (v : ClassView) :
    requestBinding v = v.decl.methods.flatMap methodFindings := by
  unfold methodFindings
  simp only [requestBinding, emit_path, mappedPaths, boundParams, List.map_eq_flatMap]

end Rules

/-- The mappings of annotations on a method, below the path of the controller. -/
def mappingsOf (base : String) (id : ClassId) (annotations : List AnnotationUse) : List Mapping :=
  annotations.filterMap fun a =>
    (mappingVerb? a).map fun verb => ⟨id, combinePaths base (mappingPath a), verb⟩

lemma Java.Decl.mappings_eq (d : Decl) (id : ClassId) :
    d.mappings id = d.methods.flatMap fun m => mappingsOf d.basePath id m.annotations := rfl

namespace AnnotationPlace

open Rules

variable (p : AnnotationPlace)

lemma requestBinding_filled (uses : List AnnotationUse) :
    requestBinding (p.filled uses) =
      p.before.flatMap methodFindings ++
        (mappedPaths p.earlier ++ mappedPaths uses ++ mappedPaths p.later ++
          boundParams p.method) ++
        p.after.flatMap methodFindings := by
  have hmethod : methodFindings (p.filledMethod uses) =
      mappedPaths p.earlier ++ mappedPaths uses ++ mappedPaths p.later ++ boundParams p.method := by
    rw [← mappedPaths_append, ← mappedPaths_append]
    rfl
  rw [requestBinding_eq, ← hmethod, List.append_assoc, ← List.flatMap_cons, ← List.flatMap_append]
  rfl

/-- The annotations at the place add the findings of their paths, and the findings around these are
the same for all annotations. -/
lemma exists_layering_filled (h : p.view.isController = true) :
    ∃ front back, ∀ uses, layering (p.filled uses) = front ++ mappedPaths uses ++ back := by
  refine ⟨collaborators (p.filled []) "Service" .controllerToService ++
      (p.before.flatMap methodFindings ++ mappedPaths p.earlier),
    mappedPaths p.later ++ (boundParams p.method ++
      (p.after.flatMap methodFindings ++
        ((if p.view.isService then
          collaborators (p.filled []) "Repository" .serviceToRepository else []) ++
          ((if p.view.isRepository then repositoryEntity (p.filled []) else []) ++
            (if p.view.isTest then testSlices p.view else []))))), ?_⟩
  intro uses
  have hcontroller : (p.filled uses).isController = true := h
  rw [layering, if_pos hcontroller, requestBinding_filled, collaborators_filled p uses "Service",
    collaborators_filled p uses "Repository", repositoryEntity_filled]
  simp only [List.append_assoc]
  rfl

/-- The annotations at the place add their mappings, and those around them are the same for all
annotations. -/
lemma exists_mappings_filled (id : ClassId) :
    ∃ first last, ∀ uses, (p.filled uses).decl.mappings id =
      first ++ mappingsOf p.view.decl.basePath id uses ++ last := by
  refine ⟨p.before.flatMap (fun m => mappingsOf p.view.decl.basePath id m.annotations) ++
      mappingsOf p.view.decl.basePath id p.earlier,
    mappingsOf p.view.decl.basePath id p.later ++
      p.after.flatMap fun m => mappingsOf p.view.decl.basePath id m.annotations, ?_⟩
  intro uses
  have hbase : (p.filled uses).decl.basePath = p.view.decl.basePath := rfl
  rw [Decl.mappings_eq, hbase]
  simp only [filled, filledMethod, List.flatMap_append, List.flatMap_cons, mappingsOf,
    List.filterMap_append, List.append_assoc]

end AnnotationPlace

/-- The first text under some keys is the first of the texts under the first key that is present, if
there are any, and also if there are none but at most one of the keys is present. So it is for the
path of a mapping annotation that does not give both `value` and `path`. Every annotation on a
method stands at a place of its class, and wherever a mapping annotation is put on a method of a
controller, it adds the findings of some paths and one endpoint: the path of the endpoint is the
first of these paths, or empty if there are none. -/
theorem mapping_path_is_first_recorded :
    (∀ (a : AnnotationUse) (keys : List String) (h : a.textList keys ≠ []),
      a.textAttr? keys = some ((a.textList keys).head h)) ∧
    (∀ (a : AnnotationUse) (keys : List String), a.HasAtMostOne keys →
      a.textAttr? keys = (a.textList keys).head?) ∧
    (∀ (v : ClassView) (m : Method) (a : AnnotationUse), m ∈ v.decl.methods →
      a ∈ m.annotations → ∃ p : AnnotationPlace, p.view = v ∧ p.filled [a] = v) ∧
    ∀ (p : AnnotationPlace) (id : ClassId), p.view.isController = true →
      ∃ (front back : List Finding) (first last : List Mapping),
        Rules.layering (p.filled []) = front ++ back ∧
        (p.filled []).decl.mappings id = first ++ last ∧
        ∀ a : AnnotationUse, isMapping a = true → a.HasAtMostOne ["value", "path"] →
          ∃ (paths : List String) (verb : Verb),
            Rules.layering (p.filled [a]) = front ++ paths.map Rules.pathFinding ++ back ∧
            (p.filled [a]).decl.mappings id =
              first ++ ⟨id, combinePaths p.view.decl.basePath (mappingPath a), verb⟩ :: last ∧
            mappingPath a = paths.head?.getD "" := by
  refine ⟨?_, ?_, ?_, ?_⟩
  · intro a keys h
    rw [AnnotationUse.textAttr?_of_textList_ne_nil h, List.head?_eq_some_head h]
  · intro a keys h
    exact AnnotationUse.textAttr?_eq_head? h
  · intro v m a hm ha
    exact AnnotationPlace.exists_filled hm ha
  · intro p id hcontroller
    obtain ⟨front, back, hlayering⟩ := p.exists_layering_filled hcontroller
    obtain ⟨first, last, hmappings⟩ := p.exists_mappings_filled id
    refine ⟨front, back, first, last, ?_, ?_, ?_⟩
    · rw [hlayering, Rules.mappedPaths_nil, List.append_nil]
    · rw [hmappings, mappingsOf, List.filterMap_nil, List.append_nil]
    · intro a ha hone
      obtain ⟨verb, hverb⟩ := isMapping_iff.mp ha
      refine ⟨a.textList ["value", "path"], verb, ?_, ?_, ?_⟩
      · rw [hlayering, Rules.mappedPaths_singleton ha]
      · rw [hmappings, mappingsOf, List.filterMap_cons_some (by rw [hverb, Option.map_some]),
          List.filterMap_nil, List.append_assoc, List.singleton_append]
      · rw [mappingPath, AnnotationUse.textAttr?_eq_head? hone]

/-- The paths of a mapping stand in a list within a list, behind a constant. -/
theorem mapping_path_is_first_recorded_orders :
    let paths : ElementValue := .array [.code "ROOT", .array [.text "/all", .text "/list"]]
    let a : AnnotationUse := ⟨"web.GetMapping", .pairs [("path", paths)]⟩
    let orders : Decl :=
      { name := "Orders", kind := .classType
        annotations := [⟨"RequestMapping", .single (.text "/orders")⟩, .marker "RestController"] }
    let p : AnnotationPlace :=
      ⟨⟨orders, "shop.Orders", .ofUnit {}, { registry := .ofUnits "" [] }⟩, [],
        ⟨"all", {}, [], [], .void, [], [], {}, 1⟩, [], [], []⟩
    (isMapping a = true ∧ a.HasAtMostOne ["value", "path"] ∧ p.view.isController = true) ∧
      a.textList ["value", "path"] ≠ [] ∧ a.textAttr? ["value", "path"] = some "/all" ∧
      ∃ (front back : List Finding) (first last : List Mapping) (texts : List String) (verb : Verb),
        Rules.layering (p.filled [a]) = front ++ texts.map Rules.pathFinding ++ back ∧
        (p.filled [a]).decl.mappings 0 =
          first ++ ⟨0, combinePaths "/orders" (mappingPath a), verb⟩ :: last ∧
        mappingPath a = texts.head?.getD "" := by
  intro paths a orders p
  have htexts : a.textList ["value", "path"] = ["/all", "/list"] := by decide
  have hne : a.textList ["value", "path"] ≠ [] := by simp [htexts]
  have hhyps : isMapping a = true ∧ a.HasAtMostOne ["value", "path"] ∧
      p.view.isController = true := by
    decide +kernel
  have hbase : p.view.decl.basePath = "/orders" := by decide
  obtain ⟨hfirst, -, -, hplace⟩ := mapping_path_is_first_recorded
  obtain ⟨front, back, first, last, -, -, hmapping⟩ := hplace p 0 hhyps.2.2
  obtain ⟨texts, verb, hfindings, hmappings, hpath⟩ := hmapping a hhyps.1 hhyps.2.1
  rw [hbase] at hmappings
  refine ⟨hhyps, hne, ?_, front, back, first, last, texts, verb, hfindings, hmappings, hpath⟩
  simp only [hfirst a _ hne, htexts, List.head_cons]

/-- With both keys present, the path may be found under a key that is not the first one. -/
example :
    let a : AnnotationUse := ⟨"GetMapping", .pairs [("value", .array []), ("path", .text "/a")]⟩
    a.textList ["value", "path"] = [] ∧ a.textAttr? ["value", "path"] = some "/a" := by
  decide

end Cartograph
