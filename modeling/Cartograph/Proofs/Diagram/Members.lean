import Cartograph.Proofs.Analysis.References
import Cartograph.Proofs.Graph.FirstEdges
import Cartograph.Proofs.Project.Places

/-!
# The members of a class in a diagram

A class with captured members shows these, each once. For any other class members are inferred by a
scan of its edges: one for each other class of the selection that an edge leads to, named after the
kind of the first such edge. What the scan remembers are targets, but what it shows depends on edges;
the two are brought together by looking for the first edge to each target.
-/

namespace Cartograph

open Text Java

def Member.info (m : Member) : MemberInfo := ⟨m.name, m.typeName, m.visibility, m.kind⟩

/-- The member stands for a class to which an edge of the kind leads. -/
structure MemberInfo.StandsFor (m : MemberInfo) (c : ClassRecord) (k : Kind) : Prop where
  typeName_eq : m.typeName = some c.fqn
  visibility_eq : m.visibility = .privateAccess
  constructor_injection : k = .constructorInjection → m.name = c.simpleName ∧ m.kind = .constructor
  setter_injection : k = .setterInjection → m.name = "set" ++ c.simpleName ∧ m.kind = .method
  other_kind : k ≠ .constructorInjection → k ≠ .setterInjection →
    m.name = lowerFirst c.simpleName ∧ m.kind = .field

namespace Diagram

/-- The member that is inferred from an edge of the kind to the class. -/
def inferredMember (k : Kind) (c : ClassRecord) : MemberInfo :=
  ⟨(inferredName k c.simpleName).1, some c.fqn, .privateAccess, (inferredName k c.simpleName).2⟩

lemma standsFor_inferredMember (k : Kind) (c : ClassRecord) :
    (inferredMember k c).StandsFor c k where
  typeName_eq := rfl
  visibility_eq := rfl
  constructor_injection hk := by simp [inferredMember, inferredName, hk]
  setter_injection hk := by simp [inferredMember, inferredName, hk]
  other_kind hne hne' := by simp [inferredMember, inferredName, hne, hne']

/-- The target of an edge for which a member can be inferred. -/
def inferredTarget? (p : ProjectData) (id : ClassId) (selected : List ClassId) (e : Edge) :
    Option ClassId :=
  e.targetClass.filter fun t => t ≠ id ∧ t ∈ selected ∧ (p.registry.class? t).isSome

section Scan

variable {p : ProjectData} {id : ClassId} {selected : List ClassId} {e : Edge} {t : ClassId}

lemma inferredTarget?_eq_some_iff :
    inferredTarget? p id selected e = some t ↔
      e.targetClass = some t ∧ t ≠ id ∧ t ∈ selected ∧ ∃ c, p.registry.class? t = some c := by
  simp [inferredTarget?, Option.filter_eq_some_iff, Option.isSome_iff_exists]

/-- An edge without such a target infers nothing. At most a class that is not registered counts as
met from now on. -/
lemma inferred_cons_of_none (h : inferredTarget? p id selected e = none) (met : List ClassId)
    (es : List Edge) :
    inferred p id selected met (e :: es) = inferred p id selected met es ∨
      ∃ t, p.registry.class? t = none ∧
        inferred p id selected met (e :: es) = inferred p id selected (t :: met) es := by
  cases htarget : e.targetClass with
  | none => exact .inl (by simp [inferred, htarget])
  | some t =>
    by_cases hskip : t = id ∨ t ∉ selected ∨ t ∈ met
    · exact .inl (by simp [inferred, htarget, hskip])
    · cases hclass : p.registry.class? t with
      | none => exact .inr ⟨t, hclass, by simp [inferred, htarget, hskip, hclass]⟩
      | some c =>
        simp only [not_or, not_not] at hskip
        have hsome := inferredTarget?_eq_some_iff.mpr ⟨htarget, hskip.1, hskip.2.1, c, hclass⟩
        simp [h] at hsome

lemma inferred_cons_of_mem (h : inferredTarget? p id selected e = some t) {met : List ClassId}
    (hmet : t ∈ met) (es : List Edge) :
    inferred p id selected met (e :: es) = inferred p id selected met es := by
  simp [inferred, (inferredTarget?_eq_some_iff.mp h).1, hmet]

/-- The first edge to a target infers a member, and the target counts as met from now on. -/
lemma inferred_cons_of_not_mem (h : inferredTarget? p id selected e = some t) {met : List ClassId}
    (hmet : t ∉ met) {c : ClassRecord} (hc : p.registry.class? t = some c) (es : List Edge) :
    inferred p id selected met (e :: es) =
      inferredMember e.kind c :: inferred p id selected (t :: met) es := by
  obtain ⟨htarget, hne, hselected, -⟩ := inferredTarget?_eq_some_iff.mp h
  simp [inferred, htarget, hne, hselected, hmet, hc, inferredMember]

/-- The member that the edges infer for a target: by the first edge to it. -/
def firstMember? (p : ProjectData) (id : ClassId) (selected : List ClassId) (es : List Edge)
    (t : ClassId) : Option MemberInfo :=
  (es.find? (inferredTarget? p id selected · = some t)).bind fun e =>
    (p.registry.class? t).map (inferredMember e.kind)

lemma firstMember?_cons_of_ne (h : inferredTarget? p id selected e ≠ some t) (es : List Edge) :
    firstMember? p id selected (e :: es) t = firstMember? p id selected es t := by
  rw [firstMember?, List.find?_cons_of_neg (by simpa using h), firstMember?]

/-- The whole scan, from any targets met before: each further target has the member of the first edge
to it. -/
lemma inferred_eq_filterMap (met : List ClassId) (es : List Edge) :
    inferred p id selected met es =
      (fresh met (es.filterMap (inferredTarget? p id selected))).filterMap
        (firstMember? p id selected es) := by
  induction es generalizing met with
  | nil => rfl
  | cons e es ih =>
    cases htarget : inferredTarget? p id selected e with
    | none =>
      have hrest : firstMember? p id selected (e :: es) = firstMember? p id selected es :=
        funext fun t => firstMember?_cons_of_ne (by simp [htarget]) es
      rw [List.filterMap_cons_none htarget, hrest]
      obtain hsame | ⟨t, hclass, hmore⟩ := inferred_cons_of_none htarget met es
      · rw [hsame, ih]
      · have hnot : t ∉ es.filterMap (inferredTarget? p id selected) := by
          intro hmem
          obtain ⟨e', -, ht⟩ := List.mem_filterMap.mp hmem
          obtain ⟨-, -, -, c, hc⟩ := inferredTarget?_eq_some_iff.mp ht
          simp [hclass] at hc
        rw [hmore, ih, fresh_met_cons_of_not_mem hnot]
    | some t =>
      obtain ⟨-, -, -, c, hc⟩ := inferredTarget?_eq_some_iff.mp htarget
      -- Targets met before are not asked for, so their first edges do not matter.
      have hrest : ∀ met, t ∈ met →
          (fresh met (es.filterMap (inferredTarget? p id selected))).filterMap
              (firstMember? p id selected (e :: es)) =
            (fresh met (es.filterMap (inferredTarget? p id selected))).filterMap
              (firstMember? p id selected es) := by
        intro met hmet
        apply List.filterMap_congr
        intro s hs
        apply firstMember?_cons_of_ne
        rw [htarget]
        rintro ⟨rfl⟩
        exact (mem_fresh.mp hs).2 hmet
      rw [List.filterMap_cons_some htarget]
      by_cases hmet : t ∈ met
      · rw [inferred_cons_of_mem htarget hmet, fresh_cons_of_mem hmet, hrest met hmet, ih]
      · have hfirst : firstMember? p id selected (e :: es) t = some (inferredMember e.kind c) := by
          rw [firstMember?, List.find?_cons_of_pos (by simpa using htarget), hc]
          rfl
        rw [inferred_cons_of_not_mem htarget hmet hc, fresh_cons_of_not_mem hmet,
          List.filterMap_cons_some hfirst, hrest _ List.mem_cons_self, ih]

end Scan

/-! ### The edges of the project -/

section Edges

variable {p : ProjectData} {id : ClassId} {selected : List ClassId} {t : ClassId}

/-- The classes for which members are inferred, in the order of the first edges to them. -/
def inferredTargets (p : ProjectData) (id : ClassId) (selected : List ClassId) : List ClassId :=
  fresh [] ((p.edgesFrom id).filterMap (inferredTarget? p id selected))

lemma mem_inferredTargets :
    t ∈ inferredTargets p id selected ↔
      (∃ c, p.registry.class? t = some c) ∧ t ∈ selected ∧ t ≠ id ∧ p.edgesBetween id t ≠ [] := by
  have hedges : p.edgesBetween id t ≠ [] ↔
      ∃ e ∈ p.edges, e.source = id ∧ e.targetClass = some t := by
    simp [ProjectData.edgesBetween, List.filter_eq_nil_iff]
  rw [inferredTargets, mem_fresh, p.edgesFrom_eq_filter, hedges]
  simp only [List.mem_filterMap, List.mem_filter, beq_iff_eq, inferredTarget?_eq_some_iff]
  constructor
  · rintro ⟨⟨e, ⟨he, hsource⟩, htarget, hne, hselected, hclass⟩, -⟩
    exact ⟨hclass, hselected, hne, e, he, hsource, htarget⟩
  · rintro ⟨hclass, hselected, hne, e, he, hsource, htarget⟩
    exact ⟨⟨e, ⟨he, hsource⟩, htarget, hne, hselected, hclass⟩, List.not_mem_nil⟩

/-- Of the edges from the class, those to a target are known by it. -/
lemma source_and_inferredTarget?_iff (ht : t ∈ inferredTargets p id selected) {e : Edge} :
    e.source = id ∧ inferredTarget? p id selected e = some t ↔
      e.source = id ∧ e.targetClass = some t := by
  obtain ⟨hclass, hselected, hne, -⟩ := mem_inferredTargets.mp ht
  rw [inferredTarget?_eq_some_iff]
  tauto

/-- The target of any edge of the project, if it starts at the class and a member can be inferred. -/
def targetFrom? (p : ProjectData) (id : ClassId) (selected : List ClassId) (e : Edge) :
    Option ClassId :=
  if e.source = id then inferredTarget? p id selected e else none

lemma inferredTargets_eq_fresh :
    inferredTargets p id selected = fresh [] (p.edges.filterMap (targetFrom? p id selected)) := by
  rw [inferredTargets, p.edgesFrom_eq_filter, List.filterMap_filter]
  simp only [beq_iff_eq]
  rfl

lemma findIdx_targetFrom? (ht : t ∈ inferredTargets p id selected) :
    p.edges.findIdx (targetFrom? p id selected · = some t) = p.firstEdge id t := by
  rw [ProjectData.firstEdge]
  congr 1
  funext e
  rw [decide_eq_decide, targetFrom?, Option.ite_none_right_eq_some,
    source_and_inferredTarget?_iff ht]

lemma pairwise_firstEdge_inferredTargets :
    (inferredTargets p id selected).Pairwise fun s t => p.firstEdge id s < p.firstEdge id t := by
  have horder := pairwise_findIdx_fresh (targetFrom? p id selected) p.edges
  rw [← inferredTargets_eq_fresh] at horder
  refine horder.imp_of_mem fun {s t} hs ht hlt => ?_
  rwa [findIdx_targetFrom? hs, findIdx_targetFrom? ht] at hlt

/-- The member for a target is that of the first edge to it. -/
lemma firstMember?_edgesFrom (ht : t ∈ inferredTargets p id selected) :
    ∃ m, firstMember? p id selected (p.edgesFrom id) t = some m ∧
      ∃ e c, (p.edgesBetween id t).head? = some e ∧ p.registry.class? t = some c ∧
        m.StandsFor c e.kind := by
  obtain ⟨⟨c, hc⟩, -, -, hne⟩ := mem_inferredTargets.mp ht
  obtain ⟨e, he⟩ := Option.isSome_iff_exists.mp (List.isSome_head?.mpr hne)
  have hfind : (p.edgesFrom id).find? (inferredTarget? p id selected · = some t) = some e := by
    rw [p.edgesFrom_eq_filter, List.find?_filter, ← he, ProjectData.edgesBetween, List.head?_filter]
    congr 1
    funext e'
    rw [Bool.eq_iff_iff]
    simp only [beq_iff_eq, decide_eq_true_eq]
    exact source_and_inferredTarget?_iff ht
  refine ⟨inferredMember e.kind c, ?_, e, c, he, hc, standsFor_inferredMember e.kind c⟩
  rw [firstMember?, hfind, Option.bind_some, hc, Option.map_some]

end Edges

/-- A class with captured members shows them without repeats, each at its first place. Any other class
shows one member for each other registered class that is selected and to which an edge leads from it,
in the order of the first such edges, and by the kind of the first such edge. -/
theorem membersOf_captured_or_inferred (p : ProjectData) (selected : List ClassId) (id : ClassId) :
    ((∃ m ∈ p.members, m.classId = id) →
      membersOf p selected id =
        ((p.members.filter (·.classId = id)).map Member.info).eraseDups) ∧
    ((∀ m ∈ p.members, m.classId ≠ id) →
      ∃ targets : List ClassId,
        (∀ t, t ∈ targets ↔ (∃ c, p.registry.class? t = some c) ∧ t ∈ selected ∧ t ≠ id ∧
          p.edgesBetween id t ≠ []) ∧
        (targets.Pairwise fun s t => p.firstEdge id s < p.firstEdge id t) ∧
        List.Forall₂
          (fun t m => ∃ e c, (p.edgesBetween id t).head? = some e ∧
            p.registry.class? t = some c ∧ m.StandsFor c e.kind)
          targets (membersOf p selected id)) := by
  constructor
  · rintro ⟨m, hm, hid⟩
    have hcaptured : p.hasMembers id = true := by
      rw [p.hasMembers_eq_any]
      exact List.any_eq_true.mpr ⟨m, hm, by simpa using hid⟩
    rw [membersOf, if_pos hcaptured, fresh_eq_eraseDups, p.membersOf_eq_filter]
    rfl
  · intro hnone
    have hcaptured : p.hasMembers id = false := by
      rw [p.hasMembers_eq_any, List.any_eq_false]
      exact fun m hm => by simpa using hnone m hm
    refine ⟨inferredTargets p id selected, fun t => mem_inferredTargets,
      pairwise_firstEdge_inferredTargets, ?_⟩
    rw [membersOf, hcaptured, if_neg Bool.false_ne_true, inferred_eq_filterMap]
    exact forall₂_filterMap fun t ht => firstMember?_edgesFrom ht

/-- A drawer with a member that was captured twice, and a till whose edges lead to itself, to a class
that is not selected, to one that is not registered and twice to the drawer. -/
def till : ProjectData where
  id := .ofNat 0
  root := "/till"
  registry := .ofRegistrations
    [.type "shop" "Till" .classType none, .type "shop" "Drawer" .classType none,
      .type "shop" "Coin" .classType none]
  members :=
    [⟨1, "open", none, .publicAccess, .method, []⟩,
      ⟨1, "open", none, .publicAccess, .method, [⟨"Deprecated", []⟩]⟩]
  edges :=
    [(0, 0, .dataTransfer), (0, 2, .composition), (0, 7, .composition), (0, 1, .setterInjection),
      (0, 1, .composition)].map fun (source, target, kind) =>
        ⟨source, "", "", some target, kind, .ofNat 1⟩
  endpoints := []
  batch := .ofNat 1

/-- The repeated member is shown once, and the till shows the setter of the first edge. -/
theorem membersOf_captured_or_inferred_till :
    (∃ m ∈ till.members, m.classId = 1) ∧ (∀ m ∈ till.members, m.classId ≠ 0) ∧
      membersOf till [0, 1, 7] 1 = [⟨"open", none, .publicAccess, .method⟩] ∧
      ∃ m ∈ membersOf till [0, 1, 7] 0,
        m.name = "setDrawer" ∧ m.kind = .method ∧ m.typeName = some "shop.Drawer" := by
  have hdrawer : ∃ m ∈ till.members, m.classId = 1 := by decide +kernel
  have htill : ∀ m ∈ till.members, m.classId ≠ 0 := by decide +kernel
  refine ⟨hdrawer, htill, ?_, ?_⟩
  · rw [(membersOf_captured_or_inferred till [0, 1, 7] 1).1 hdrawer]
    decide +kernel
  · obtain ⟨targets, htargets, -, hmembers⟩ :=
      (membersOf_captured_or_inferred till [0, 1, 7] 0).2 htill
    have hmem : 1 ∈ targets := by
      rw [htargets, Registry.exists_class?_iff]
      decide +kernel
    obtain ⟨i, hi⟩ := List.get_of_mem hmem
    have hshown : i.1 < (membersOf till [0, 1, 7] 0).length := hmembers.length_eq ▸ i.2
    obtain ⟨e, c, he, hc, hstands⟩ := hi ▸ hmembers.get i.2 hshown
    have hkind : ((till.edgesBetween 0 1).head?).map (·.kind) = some .setterInjection := by
      decide +kernel
    have hnames : (till.registry.class? 1).map (fun c => (c.simpleName, c.fqn)) =
        some ("Drawer", "shop.Drawer") := by decide +kernel
    rw [he] at hkind
    simp only [hc, Option.map_some, Option.some.injEq, Prod.mk.injEq] at hkind hnames
    obtain ⟨hname, hcallable⟩ := hstands.setter_injection hkind
    refine ⟨_, List.get_mem _ ⟨i, hshown⟩, ?_, hcallable, ?_⟩
    · rw [hname, hnames.1]
      decide +kernel
    · rw [hstands.typeName_eq, hnames.2]

end Diagram

end Cartograph
