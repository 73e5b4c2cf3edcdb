import Cartograph.Diagram
import Cartograph.Proofs.Graph.BreadthFirst
import Cartograph.Proofs.Registry.Registrations
import Cartograph.Proofs.Text.Ascending

/-!
# The tables of a diagram

The tables of a diagram have one entry for each selected class, in strictly ascending order of the
keys. The table of dependencies is the aggregation of the stored edges: what a class leads to are
the selected classes to which an edge goes from it, and the labels are those of the kinds of these
edges, each kind once and at its first place.

Nothing is assumed of the edges. The registry is one that registrations build, so that its keys are
distinct, and the class of the endpoint is registered.
-/

namespace Cartograph

open Text

/-- The edges from one class to another, in their order. -/
def ProjectData.edgesBetween (p : ProjectData) (source target : ClassId) : List Edge :=
  p.edges.filter fun e => e.source = source ∧ e.targetClass = some target

/-- The labels of the kinds of edges, each kind once and at its first place. -/
def kindLabels (edges : List Edge) : List String :=
  (edges.map (·.kind)).eraseDups.map Kind.label

lemma kindLabels_ne_nil {edges : List Edge} (h : edges ≠ []) : kindLabels edges ≠ [] := by
  obtain ⟨e, es, rfl⟩ := List.exists_cons_of_ne_nil h
  simp [kindLabels, List.eraseDups_cons]

namespace Graph

variable {p : ProjectData} {a b : ClassId}

/-- Between registered classes the pair of an edge is its source and its target. -/
lemma pair?_eq_some_iff_of_lt (ha : a < p.registry.classes.length)
    (hb : b < p.registry.classes.length) {e : Edge} :
    e.pair? p.registry.classes.length = some (a, b) ↔
      e.source = a ∧ e.targetClass = some b := by
  rw [Edge.pair?_eq_some_iff]
  simp only [ha, hb, and_true]

lemma mem_pairs_iff_edgesBetween (ha : a < p.registry.classes.length)
    (hb : b < p.registry.classes.length) :
    (a, b) ∈ pairs p.registry.classes.length p.edges ↔ p.edgesBetween a b ≠ [] := by
  simp only [mem_pairs, pair?_eq_some_iff_of_lt ha hb, ProjectData.edgesBetween, ne_eq,
    List.filter_eq_nil_iff, decide_eq_true_eq]
  push Not
  rfl

lemma kindsOf_eq_eraseDups (ha : a < p.registry.classes.length)
    (hb : b < p.registry.classes.length) :
    kindsOf p.registry.classes.length p.edges (a, b) =
      ((p.edgesBetween a b).map (·.kind)).eraseDups := by
  simp only [kindsOf, ProjectData.edgesBetween, pair?_eq_some_iff_of_lt ha hb, fresh_eq_eraseDups]

lemma map_label_kindsOf (ha : a < p.registry.classes.length)
    (hb : b < p.registry.classes.length) :
    (kindsOf p.registry.classes.length p.edges (a, b)).map Kind.label =
      kindLabels (p.edgesBetween a b) := by
  rw [kindsOf_eq_eraseDups ha hb, kindLabels]

end Graph

namespace Diagram

/-- The entries of a table stand in strictly ascending order of their keys. -/
def IsTable {α : Type} (entries : List (String × α)) : Prop :=
  (entries.map (·.1)).Pairwise (· < ·)

lemma byKey_perm {α : Type} (entries : List (String × α)) : (byKey entries).Perm entries :=
  List.mergeSort_perm entries _

lemma isTable_byKey {α : Type} {entries : List (String × α)}
    (h : (entries.map (·.1)).Nodup) : IsTable (byKey entries) := by
  rw [IsTable, byKey, map_fst_mergeSort]
  exact pairwise_lt_mergeSort h

/-- The classes that the diagram of an endpoint shows. -/
def selected (p : ProjectData) (depth : Nat) (e : Endpoint) : List ClassId :=
  (Graph.ofProject p).reachable p.registry e.classId depth

section Selected

variable {p : ProjectData} {depth : Nat} {e : Endpoint}

lemma exists_search (p : ProjectData) (depth : Nat) (e : Endpoint) :
    ∃ last, Graph.Search p e.classId depth (selected p depth e) last := by
  have rounds := (Graph.Search.start p e.classId).rounds depth
  rwa [Nat.zero_add] at rounds

lemma nodup_selected (p : ProjectData) (depth : Nat) (e : Endpoint) :
    (selected p depth e).Nodup := by
  obtain ⟨last, search⟩ := exists_search p depth e
  exact search.nodup

/-- Only the seed could be unregistered, since a step ends at a registered class. -/
lemma registered_of_mem_selected (he : ∃ c, p.registry.class? e.classId = some c) {id : ClassId}
    (h : id ∈ selected p depth e) : ∃ c, p.registry.class? id = some c := by
  obtain ⟨last, search⟩ := exists_search p depth e
  obtain ⟨k, -, chain⟩ := (search.mem_met id).mp h
  cases chain with
  | start => exact he
  | step _ step =>
    obtain ⟨c, hc, -⟩ := step.target_registered
    exact ⟨c, hc⟩

end Selected

/-! ### The classes -/

lemma mem_infos {p : ProjectData} {ids : List ClassId} {c : ClassInfo} :
    c ∈ infos p ids ↔
      c.id ∈ ids ∧ ∃ r, p.registry.class? c.id = some r ∧
        c.fqn = r.fqn ∧ c.simpleName = r.simpleName := by
  simp only [infos, List.mem_filterMap, Option.map_eq_some_iff]
  constructor
  · rintro ⟨id, hid, r, hr, rfl⟩
    exact ⟨hid, r, hr, rfl, rfl⟩
  · rintro ⟨hid, r, hr, hfqn, hsimple⟩
    exact ⟨c.id, hid, r, hr, by rw [← hfqn, ← hsimple]⟩

/-- The selected classes have distinct keys. -/
lemma nodup_map_fqn_infos {p : ProjectData} (hp : p.registry.fqns.Nodup) {ids : List ClassId}
    (hids : ids.Nodup) : ((infos p ids).map (·.fqn)).Nodup := by
  have hfqns : (infos p ids).map (·.fqn) = ids.filterMap p.registry.fqn? := by
    rw [infos, List.map_filterMap]
    simp only [Option.map_map]
    rfl
  rw [hfqns]
  exact hids.filterMap fun a b key ha hb => Registry.eq_of_fqn?_eq hp ha hb

/-! ### The targets of a class -/

section Targets

variable {p : ProjectData} {ids : List ClassId} {id : ClassId}

lemma mem_targetsOf (hid : id < p.registry.classes.length) {t : ClassRecord}
    {labels : List String} :
    (t, labels) ∈ targetsOf p (Graph.ofProject p) ids id ↔
      ∃ target ∈ ids, p.registry.class? target = some t ∧ p.edgesBetween id target ≠ [] ∧
        labels = kindLabels (p.edgesBetween id target) := by
  simp only [targetsOf, List.mem_filterMap, Option.ite_none_right_eq_some,
    Option.map_eq_some_iff, Prod.mk.injEq]
  constructor
  · rintro ⟨⟨target, kinds⟩, hdep, hmem, t, ht, rfl, rfl⟩
    have hlt := Registry.exists_class?_iff.mp ⟨t, ht⟩
    obtain ⟨hpair, rfl⟩ := Graph.mem_dependencies.mp hdep
    exact ⟨target, hmem, ht, (Graph.mem_pairs_iff_edgesBetween hid hlt).mp hpair,
      Graph.map_label_kindsOf hid hlt⟩
  · rintro ⟨target, hmem, ht, hedges, rfl⟩
    have hlt := Registry.exists_class?_iff.mp ⟨t, ht⟩
    refine ⟨(target, _), Graph.mem_dependencies.mpr ⟨?_, rfl⟩, hmem, t, ht, rfl, ?_⟩
    · exact (Graph.mem_pairs_iff_edgesBetween hid hlt).mpr hedges
    · exact Graph.map_label_kindsOf hid hlt

/-- No target comes without a label. -/
lemma labels_ne_nil (hid : id < p.registry.classes.length) {x : ClassRecord × List String}
    (h : x ∈ targetsOf p (Graph.ofProject p) ids id) : x.2 ≠ [] := by
  obtain ⟨target, -, -, hedges, hlabels⟩ := (mem_targetsOf hid).mp h
  rw [hlabels]
  exact kindLabels_ne_nil hedges

/-- The targets of a class have distinct keys. -/
lemma nodup_map_fqn_targetsOf (hp : p.registry.fqns.Nodup) (ids : List ClassId) (id : ClassId) :
    ((targetsOf p (Graph.ofProject p) ids id).map (·.1.fqn)).Nodup := by
  have hfqns : (targetsOf p (Graph.ofProject p) ids id).map (·.1.fqn) =
      (((Graph.ofProject p).dependencies id).map (·.1)).filterMap
        fun target => if target ∈ ids then p.registry.fqn? target else none := by
    rw [targetsOf, List.map_filterMap, List.filterMap_map]
    apply List.filterMap_congr
    rintro ⟨target, kinds⟩ -
    simp only [Function.comp_apply, Registry.fqn?]
    split_ifs
    · rw [Option.map_map]
      rfl
    · rfl
  rw [hfqns]
  refine (Graph.nodup_dependencies p id).filterMap ?_
  intro a b key ha hb
  rw [Option.mem_def, Option.ite_none_right_eq_some] at ha hb
  exact Registry.eq_of_fqn?_eq hp ha.2 hb.2

end Targets

/-! ### The tables -/

section Tables

variable {p : ProjectData} {depth : Nat} {e : Endpoint}

/-- The class that an entry of a diagram shows is registered and selected. -/
lemma mem_classes_build {c : ClassInfo} :
    c ∈ (build p depth e).classes ↔
      c.id ∈ selected p depth e ∧ ∃ r, p.registry.class? c.id = some r ∧
        c.fqn = r.fqn ∧ c.simpleName = r.simpleName :=
  mem_infos

lemma lt_of_mem_classes_build {c : ClassInfo} (h : c ∈ (build p depth e).classes) :
    c.id < p.registry.classes.length := by
  obtain ⟨-, r, hr, -⟩ := mem_classes_build.mp h
  exact Registry.exists_class?_iff.mp ⟨r, hr⟩

lemma exists_info_of_mem_selected (he : ∃ c, p.registry.class? e.classId = some c) {id : ClassId}
    (h : id ∈ selected p depth e) :
    ∃ c ∈ (build p depth e).classes, c.id = id ∧ p.registry.fqn? id = some c.fqn := by
  obtain ⟨r, hr⟩ := registered_of_mem_selected he h
  refine ⟨⟨id, r.fqn, r.simpleName⟩, mem_classes_build.mpr ⟨h, r, hr, rfl, rfl⟩, rfl, ?_⟩
  rw [Registry.fqn?, hr, Option.map_some]

lemma fqn?_of_mem_classes_build {c : ClassInfo} (h : c ∈ (build p depth e).classes) :
    p.registry.fqn? c.id = some c.fqn := by
  obtain ⟨-, r, hr, hfqn, -⟩ := mem_classes_build.mp h
  rw [Registry.fqn?, hr, Option.map_some, hfqn]

lemma ofEndpoint_eq_ok (he : ∃ c, p.registry.class? e.classId = some c) :
    ofEndpoint p depth e = .ok (build p depth e) := by
  obtain ⟨c, hc⟩ := he
  simp only [ofEndpoint, hc]

/-- A table with one entry for each class of a diagram. -/
def tableOf {α : Type} (classes : List ClassInfo) (entry : ClassInfo → α) : List (String × α) :=
  byKey (classes.map fun c => (c.fqn, entry c))

lemma mem_tableOf {α : Type} {classes : List ClassInfo} {entry : ClassInfo → α}
    {x : String × α} : x ∈ tableOf classes entry ↔ ∃ c ∈ classes, (c.fqn, entry c) = x := by
  rw [tableOf, (byKey_perm _).mem_iff, List.mem_map]

lemma keys_tableOf_perm {α : Type} (classes : List ClassInfo) (entry : ClassInfo → α) :
    ((tableOf classes entry).map (·.1)).Perm (classes.map (·.fqn)) := by
  have h := (byKey_perm (classes.map fun c => (c.fqn, entry c))).map (·.1)
  rwa [List.map_map] at h

lemma isTable_tableOf_classes_build {α : Type} (hp : p.registry.Built) (entry : ClassInfo → α) :
    IsTable (tableOf (build p depth e).classes entry) := by
  apply isTable_byKey
  rw [List.map_map]
  exact nodup_map_fqn_infos hp.nodup_fqns (nodup_selected p depth e)

/-- The targets that a diagram shows for a class, with their labels. -/
def targets (p : ProjectData) (depth : Nat) (e : Endpoint) (c : ClassInfo) :
    List (ClassRecord × List String) :=
  targetsOf p (Graph.ofProject p) (selected p depth e) c.id

/-- The entry of a class in the table of dependencies. -/
def dependenciesOf (p : ProjectData) (depth : Nat) (e : Endpoint) (c : ClassInfo) :
    List (String × List String) :=
  byKey ((targets p depth e c).map fun x => (x.1.fqn, x.2))

lemma dependencies_build (p : ProjectData) (depth : Nat) (e : Endpoint) :
    (build p depth e).dependencies =
      tableOf (build p depth e).classes (dependenciesOf p depth e) :=
  rfl

lemma mem_dependenciesOf {c : ClassInfo} (hc : c ∈ (build p depth e).classes) {key : String}
    {labels : List String} :
    (key, labels) ∈ dependenciesOf p depth e c ↔
      ∃ t ∈ selected p depth e, p.registry.fqn? t = some key ∧ p.edgesBetween c.id t ≠ [] ∧
        labels = kindLabels (p.edgesBetween c.id t) := by
  have hlt := lt_of_mem_classes_build hc
  rw [dependenciesOf, (byKey_perm _).mem_iff, List.mem_map]
  constructor
  · rintro ⟨⟨r, labels'⟩, hx, heq⟩
    obtain ⟨rfl, rfl⟩ := Prod.mk.inj heq
    obtain ⟨t, ht, hr, hedges, hlabels⟩ := (mem_targetsOf hlt).mp hx
    exact ⟨t, ht, by rw [Registry.fqn?, hr, Option.map_some], hedges, hlabels⟩
  · rintro ⟨t, ht, hkey, hedges, hlabels⟩
    obtain ⟨r, hr, rfl⟩ := Option.map_eq_some_iff.mp hkey
    exact ⟨(r, labels), (mem_targetsOf hlt).mpr ⟨t, ht, hr, hedges, hlabels⟩, rfl⟩

lemma isTable_dependenciesOf (hp : p.registry.Built) (c : ClassInfo) :
    IsTable (dependenciesOf p depth e c) := by
  apply isTable_byKey
  rw [List.map_map]
  exact nodup_map_fqn_targetsOf hp.nodup_fqns _ _

def arrowLine (source target : String) (labels : List String) : String :=
  "    " ++ sanitizeName source ++ " --> " ++ sanitizeName target ++ " : " ++
    escapeLabel (",<br>".intercalate labels)

/-- Each arrow of a diagram has a label. -/
lemma arrowLines_targets {c : ClassInfo} (hc : c ∈ (build p depth e).classes) :
    arrowLines c (targets p depth e c) =
      (targets p depth e c).map fun x => arrowLine c.simpleName x.1.simpleName x.2 := by
  apply List.map_congr_left
  rintro ⟨target, labels⟩ hx
  have hlabels := labels_ne_nil (lt_of_mem_classes_build hc) hx
  exact if_neg (by simpa using hlabels)

end Tables

/-- The table of dependencies is the aggregation of the edges. Its keys are those of the selected
classes; below a class stand the selected classes to which an edge goes from it, with the labels
of the kinds of these edges. So no target is without a label, and no arrow is. -/
theorem dependencies_aggregate_edges (p : ProjectData) (hp : p.registry.Built) (depth : Nat)
    (e : Endpoint) (he : ∃ c, p.registry.class? e.classId = some c) :
    ∃ d, ofEndpoint p depth e = .ok d ∧ IsTable d.dependencies ∧
      (∀ key, key ∈ d.dependencies.map (·.1) ↔
        ∃ s ∈ selected p depth e, p.registry.fqn? s = some key) ∧
      (∀ s ∈ selected p depth e, ∃ key row, p.registry.fqn? s = some key ∧
        (key, row) ∈ d.dependencies ∧ IsTable row ∧
        ∀ target labels, (target, labels) ∈ row ↔
          ∃ t ∈ selected p depth e, p.registry.fqn? t = some target ∧
            p.edgesBetween s t ≠ [] ∧ labels = kindLabels (p.edgesBetween s t)) ∧
      (∀ entry ∈ d.dependencies, ∀ x ∈ entry.2, x.2 ≠ []) ∧
      ∀ c ∈ d.classes, arrowLines c (targets p depth e c) =
        (targets p depth e c).map fun x => arrowLine c.simpleName x.1.simpleName x.2 := by
  refine ⟨build p depth e, ofEndpoint_eq_ok he, ?_, ?_, ?_, ?_, fun c => arrowLines_targets⟩
  · exact isTable_tableOf_classes_build hp _
  · intro key
    rw [dependencies_build, (keys_tableOf_perm _ _).mem_iff, List.mem_map]
    constructor
    · rintro ⟨c, hc, rfl⟩
      exact ⟨c.id, (mem_classes_build.mp hc).1, fqn?_of_mem_classes_build hc⟩
    · rintro ⟨s, hs, hkey⟩
      obtain ⟨c, hc, -, hfqn⟩ := exists_info_of_mem_selected he hs
      rw [hkey] at hfqn
      exact ⟨c, hc, (Option.some.inj hfqn).symm⟩
  · intro s hs
    obtain ⟨c, hc, rfl, hkey⟩ := exists_info_of_mem_selected he hs
    refine ⟨c.fqn, dependenciesOf p depth e c, hkey, ?_, isTable_dependenciesOf hp c, ?_⟩
    · exact mem_tableOf.mpr ⟨c, hc, rfl⟩
    · exact fun target labels => mem_dependenciesOf hc
  · intro entry hentry x hx
    obtain ⟨c, hc, rfl⟩ := mem_tableOf.mp hentry
    obtain ⟨t, -, -, hedges, hlabels⟩ := (mem_dependenciesOf hc).mp hx
    rw [hlabels]
    exact kindLabels_ne_nil hedges

/-- Two registered classes, with edges to each other, to itself and to a class that is not
registered. -/
def bills : ProjectData where
  id := .ofNat 0
  root := "/bills"
  registry := .ofRegistrations
    [.type "shop" "Ledger" .interfaceType none, .type "shop" "Bill" .classType none]
  members := []
  edges :=
    [(1, some 0, .methodCall), (1, some 1, .staticCall), (1, some 0, .implementing),
      (1, none, .methodCall), (1, some 0, .methodCall)].map fun (source, target, kind) =>
        ⟨source, "", "", target, kind, .ofNat 1⟩
  endpoints := []
  batch := .ofNat 1

/-- The calls of the ledger count once, and the call of itself counts too. -/
theorem dependencies_aggregate_bills :
    let e : Endpoint := ⟨.ofNat 2, 1, "/bill", .get⟩
    bills.registry.Built ∧ (∃ c, bills.registry.class? e.classId = some c) ∧
      ∃ d row, ofEndpoint bills 1 e = .ok d ∧ ("shop.Bill", row) ∈ d.dependencies ∧
        ("shop.Ledger", [Kind.methodCall.label, Kind.implementing.label]) ∈ row ∧
        ("shop.Bill", [Kind.staticCall.label]) ∈ row := by
  intro e
  have hp : bills.registry.Built := ⟨_, rfl⟩
  have he : ∃ c, bills.registry.class? e.classId = some c := ⟨_, rfl⟩
  refine ⟨hp, he, ?_⟩
  obtain ⟨d, hd, -, -, hrows, -⟩ := dependencies_aggregate_edges bills hp 1 e he
  obtain ⟨key, row, hkey, hmem, -, hrow⟩ := hrows 1 (by decide +kernel)
  have hbill : bills.registry.fqn? 1 = some "shop.Bill" := by decide +kernel
  obtain rfl : "shop.Bill" = key := Option.some.inj (hbill.symm.trans hkey)
  refine ⟨d, row, hd, hmem, (hrow _ _).mpr ⟨0, ?_⟩, (hrow _ _).mpr ⟨1, ?_⟩⟩
  · decide +kernel
  · decide +kernel

end Diagram

end Cartograph
