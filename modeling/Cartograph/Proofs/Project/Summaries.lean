import Cartograph.Proofs.Project.Places
import Cartograph.Proofs.Registry.Representation
import Mathlib.Algebra.BigOperators.Group.List.Basic
import Mathlib.Algebra.GroupWithZero.Nat
import Mathlib.Data.List.Chain

/-!
# Sums of packages

The summaries of a project are a census of its packages: each package that has classes is summed up
once, and its sum tells how many classes it has, what they are called and how many edges of each kind
start at them. Classes are found by the names of their packages, edges by their sources and kinds by
their codes; nothing is counted twice or left out, as names, places and codes are all distinct.
-/

namespace Cartograph

open Text

/-! ### Counting by keys -/

section Counting

variable {α κ : Type} [DecidableEq κ]

lemma sum_indicator {keys : List κ} (h : keys.Nodup) (k : κ) :
    (keys.map fun k' => if k = k' then 1 else 0).sum = if k ∈ keys then 1 else 0 := by
  induction keys with
  | nil => rfl
  | cons k' keys ih =>
    obtain ⟨hk', hkeys⟩ := List.nodup_cons.mp h
    rw [List.map_cons, List.sum_cons, ih hkeys]
    by_cases hk : k = k'
    · simp [hk, hk']
    · simp [hk]

/-- Counted by distinct keys, every entry with one of the keys counts once. -/
lemma sum_map_countP {keys : List κ} (h : keys.Nodup) (key? : α → Option κ) (xs : List α) :
    (keys.map fun k => xs.countP (key? · = some k)).sum =
      xs.countP fun x => (key? x).any (· ∈ keys) := by
  induction xs with
  | nil => simp
  | cons x xs ih =>
    simp only [List.countP_cons, List.sum_map_add, ih]
    congr 1
    cases key? x with
    | none => simp
    | some k => simpa using sum_indicator h k

lemma sum_map_filter_ne_zero (f : α → Nat) (xs : List α) :
    ((xs.filter (f · ≠ 0)).map f).sum = (xs.map f).sum := by
  induction xs with
  | nil => rfl
  | cons x xs ih => by_cases hx : f x = 0 <;> simpa [hx] using ih

end Counting

/-! ### Texts in order -/

namespace ProjectData

lemma mem_distinct {texts : List String} {t : String} : t ∈ distinct texts ↔ t ∈ texts := by
  rw [distinct, mem_fresh, (List.mergeSort_perm _ _).mem_iff]
  simp

lemma pairwise_lt_distinct (texts : List String) : (distinct texts).Pairwise (· < ·) :=
  pairwise_lt_of_le_of_nodup ((pairwise_le_mergeSort texts).sublist (fresh_sublist _ _))
    (nodup_fresh _ _)

end ProjectData

/-! ### Kinds and their codes -/

namespace Kind

lemma mem_all (k : Kind) : k ∈ all := by
  cases k <;> decide

lemma pairwise_code_all : (all.map code).Pairwise (· < ·) := by
  have htrans : Trans ((· < ·) : String → String → Prop) (· < ·) (· < ·) := ⟨String.lt_trans⟩
  have hchain : (all.map code).IsChain (· < ·) := by decide +kernel
  exact hchain.pairwise

lemma nodup_code_all : (all.map code).Nodup := by
  refine pairwise_code_all.imp ?_
  rintro a b hlt rfl
  exact String.lt_irrefl a hlt

lemma nodup_all : all.Nodup := nodup_code_all.of_map code

lemma code_inj {k k' : Kind} : k.code = k'.code ↔ k = k' :=
  ⟨fun h => List.inj_on_of_nodup_map nodup_code_all (mem_all k) (mem_all k') h, congrArg code⟩

/-- The codes of the kinds of edges, each with the number of edges. -/
def table (edges : List Edge) : List (String × Nat) :=
  (all.filter fun k => edges.countP (·.kind == k) ≠ 0).map fun k =>
    (k.code, edges.countP (·.kind == k))

variable {edges : List Edge}

lemma table_congr {edges' : List Edge}
    (h : ∀ q : Edge → Bool, edges.countP q = edges'.countP q) : table edges = table edges' := by
  simp only [table, h]

lemma pairwise_table (edges : List Edge) : ((table edges).map (·.1)).Pairwise (· < ·) := by
  rw [table, List.map_map]
  exact pairwise_code_all.sublist (List.filter_sublist.map code)

lemma mem_table {code : String} {n : Nat} :
    (code, n) ∈ table edges ↔ 0 < n ∧ edges.countP (·.kind.code = code) = n := by
  have hcount : ∀ k : Kind, edges.countP (·.kind.code = k.code) = edges.countP (·.kind == k) := by
    intro k
    simp only [code_inj, beq_eq_decide]
  simp only [table, List.mem_map, List.mem_filter, decide_eq_true_eq, Prod.mk.injEq]
  constructor
  · rintro ⟨k, ⟨-, hne⟩, rfl, rfl⟩
    exact ⟨Nat.pos_of_ne_zero hne, hcount k⟩
  · rintro ⟨hpos, rfl⟩
    -- Some edge has the code, and its kind is the one that stands in the table.
    obtain ⟨e, -, he⟩ := List.countP_pos_iff.mp hpos
    obtain rfl : e.kind.code = code := by simpa using he
    rw [hcount] at hpos ⊢
    exact ⟨e.kind, ⟨mem_all e.kind, Nat.ne_of_gt hpos⟩, rfl, rfl⟩

/-- Every edge is counted in the table once. -/
lemma sum_table (edges : List Edge) : ((table edges).map (·.2)).sum = edges.length := by
  have hsum := sum_map_countP nodup_all (fun e : Edge => some e.kind) edges
  simp only [Option.some.injEq, Option.any_some, mem_all, decide_true, List.countP_true] at hsum
  rw [table, List.map_map, ← hsum]
  simp only [← beq_eq_decide]
  exact sum_map_filter_ne_zero (fun k => edges.countP (·.kind == k)) all

end Kind

/-! ### Packages of classes and edges -/

namespace Registry

variable {r : Registry} {id : ClassId} {pid : PackageId} {name : String}

/-- The classes of a package, in the order of their registration. -/
def classesOf (r : Registry) (pid : PackageId) : List ClassRecord :=
  r.classes.filter (·.package = pid)

/-- The package of a class in a registry that is built is registered. -/
lemma Built.exists_package? (h : r.Built) {c : ClassRecord} (hc : c ∈ r.classes) :
    ∃ name, r.package? c.package = some name := by
  obtain ⟨rs, rfl⟩ := h
  obtain ⟨x, -, -, hname⟩ := ((records_ofRegistrations rs).sumsUp c hc).first
  exact ⟨x.packageName, hname⟩

lemma Built.exists_packageNameOf? (h : r.Built) (hid : ∃ c, r.class? id = some c) :
    ∃ name, r.packageNameOf? id = some name := by
  obtain ⟨c, hc⟩ := hid
  obtain ⟨name, hname⟩ := h.exists_package? (List.mem_of_getElem? hc)
  exact ⟨name, by rw [packageNameOf?, hc, Option.bind_some, hname]⟩

/-- Where no name stands twice, a package can be told by its name. -/
lemma package?_inj (hr : r.packages.Nodup) {pid' : PackageId} (h : r.package? pid = some name)
    (h' : r.package? pid' = some name) : pid = pid' := by
  rw [← packageNamed?_eq_some_iff hr] at h h'
  exact Option.some.inj (h.symm.trans h')

lemma packageNameOf?_eq_some_iff (hr : r.packages.Nodup) (hpid : r.package? pid = some name) :
    r.packageNameOf? id = some name ↔ ∃ c, r.class? id = some c ∧ c.package = pid := by
  rw [packageNameOf?, Option.bind_eq_some_iff]
  constructor
  · rintro ⟨c, hc, hname⟩
    exact ⟨c, hc, package?_inj hr hname hpid⟩
  · rintro ⟨c, hc, rfl⟩
    exact ⟨c, hc, hpid⟩

lemma packageOf?_eq_some_iff (hpid : r.package? pid = some name) :
    r.packageOf? id = some pid ↔ ∃ c, r.class? id = some c ∧ c.package = pid := by
  have hlt : pid < r.packages.length := (List.getElem?_eq_some_iff.mp hpid).1
  rw [packageOf?, Option.bind_eq_some_iff]
  constructor
  · rintro ⟨c, hc, hpackage⟩
    exact ⟨c, hc, Option.some.inj (Option.ite_none_right_eq_some.mp hpackage).2⟩
  · rintro ⟨c, hc, rfl⟩
    exact ⟨c, hc, if_pos hlt⟩

end Registry

namespace ProjectData

variable {p : ProjectData} {id : ClassId} {pid : PackageId} {name : String}

/-- The edges that start at classes of a package, in order. -/
def edgesOf (p : ProjectData) (pid : PackageId) : List Edge :=
  p.edges.filter fun e => p.registry.packageOf? e.source = some pid

lemma mem_classesIn : id ∈ p.classesIn name ↔ p.registry.packageNameOf? id = some name := by
  rw [classesIn, List.mem_filter, List.mem_range, beq_iff_eq]
  refine and_iff_right_of_imp fun h => ?_
  obtain ⟨c, hc, -⟩ := Option.bind_eq_some_iff.mp h
  exact Registry.exists_class?_iff.mp ⟨c, hc⟩

lemma nodup_classesIn (p : ProjectData) (name : String) : (p.classesIn name).Nodup :=
  List.nodup_range.filter _

lemma length_classesIn (p : ProjectData) (name : String) :
    (p.classesIn name).length =
      (List.range p.registry.classes.length).countP
        (p.registry.packageNameOf? · = some name) := by
  rw [classesIn, ← List.countP_eq_length_filter]
  simp only [beq_eq_decide]

lemma filterMap_classesIn (hr : p.registry.packages.Nodup)
    (hpid : p.registry.package? pid = some name) :
    (p.classesIn name).filterMap p.registry.class? = p.registry.classesOf pid := by
  have hat : ∀ id, (if (p.registry.packageNameOf? id == some name) = true
      then p.registry.class? id else none) =
        (p.registry.class? id).bind fun c => if c.package = pid then some c else none := by
    intro id
    cases hc : p.registry.class? id with
    | none => simp
    | some c => simp [Registry.packageNameOf?_eq_some_iff hr hpid, hc]
  have hfilter : (p.registry.classes.filterMap fun c => if c.package = pid then some c else none) =
      p.registry.classesOf pid := by
    rw [Registry.classesOf, ← List.filterMap_eq_filter]
    simp [Option.guard_def]
  rw [classesIn, List.filterMap_filter]
  simp only [hat]
  exact (Registry.filterMap_range_getElem? _ _).trans hfilter

/-- The edges of classes, class by class, are the edges that start at one of them. -/
lemma countP_flatMap_edgesFrom {ids : List ClassId} (h : ids.Nodup) (q : Edge → Bool) :
    (ids.flatMap p.edgesFrom).countP q = (p.edges.filter (·.source ∈ ids)).countP q := by
  have hclass : ∀ id, (p.edgesFrom id).countP q =
      (p.edges.filter q).countP (some ·.source = some id) := by
    intro id
    rw [p.edgesFrom_eq_filter, List.countP_filter, List.countP_filter]
    congr 1
    funext e
    simp [Bool.and_comm, beq_eq_decide]
  calc (ids.flatMap p.edgesFrom).countP q
      = (ids.map fun id => (p.edges.filter q).countP (some ·.source = some id)).sum := by
        rw [List.countP_flatMap]
        simp only [Function.comp_def, hclass]
    _ = (p.edges.filter q).countP (·.source ∈ ids) := by
        rw [sum_map_countP h]
        simp
    _ = (p.edges.filter (·.source ∈ ids)).countP q := by
        rw [List.countP_filter, List.countP_filter]
        simp only [Bool.and_comm]

lemma countP_flatMap_classesIn (hr : p.registry.packages.Nodup)
    (hpid : p.registry.package? pid = some name) (q : Edge → Bool) :
    ((p.classesIn name).flatMap p.edgesFrom).countP q = (p.edgesOf pid).countP q := by
  rw [countP_flatMap_edgesFrom (p.nodup_classesIn name), edgesOf]
  simp only [mem_classesIn, Registry.packageNameOf?_eq_some_iff hr hpid,
    Registry.packageOf?_eq_some_iff hpid]

/-! ### The sum of one package -/

lemma kindCounts_summary (p : ProjectData) (name : String) :
    (p.summary name).kindCounts = Kind.table ((p.classesIn name).flatMap p.edgesFrom) := by
  rw [Kind.table, ← List.filterMap_eq_map, List.filterMap_filter]
  apply List.filterMap_congr
  intro k _
  rw [Function.comp_apply]
  generalize ((p.classesIn name).flatMap p.edgesFrom).countP (·.kind == k) = count
  by_cases h : count = 0 <;> simp [h]

end ProjectData

/-- The summary tells of a package how many classes it has, their simple names in strictly ascending
order and, by the codes of the kinds, how many edges start at them. -/
structure PackageSummary.IsOf (s : PackageSummary) (p : ProjectData) (pid : PackageId) :
    Prop where
  package_eq : p.registry.package? pid = some s.package
  classCount_eq : s.classCount = (p.registry.classesOf pid).length
  classes_ascending : s.classes.Pairwise (· < ·)
  mem_classes : ∀ name, name ∈ s.classes ↔ ∃ c ∈ p.registry.classesOf pid, c.simpleName = name
  codes_ascending : (s.kindCounts.map (·.1)).Pairwise (· < ·)
  mem_kindCounts : ∀ code n, (code, n) ∈ s.kindCounts ↔
    0 < n ∧ (p.edgesOf pid).countP (·.kind.code = code) = n

namespace ProjectData

variable {p : ProjectData} {pid : PackageId} {name : String}

lemma isOf_summary (hr : p.registry.packages.Nodup)
    (hpid : p.registry.package? pid = some name) : (p.summary name).IsOf p pid := by
  have hclasses := filterMap_classesIn hr hpid
  have hkinds : (p.summary name).kindCounts = Kind.table (p.edgesOf pid) := by
    rw [kindCounts_summary]
    exact Kind.table_congr (countP_flatMap_classesIn hr hpid)
  refine ⟨hpid, ?_, pairwise_lt_distinct _, fun name' => ?_, ?_, fun code n => ?_⟩
  · have hall : ∀ id ∈ p.classesIn name, (p.registry.class? id).isSome = true := by
      intro id hid
      obtain ⟨c, hc, -⟩ :=
        (Registry.packageNameOf?_eq_some_iff hr hpid).mp (mem_classesIn.mp hid)
      simp [hc]
    rw [← hclasses, List.length_filterMap_eq_countP, List.countP_eq_length.mpr hall]
    rfl
  · rw [← hclasses, summary, mem_distinct]
    simp only [List.mem_filterMap, Option.map_eq_some_iff]
    constructor
    · rintro ⟨id, hid, c, hc, hname⟩
      exact ⟨c, ⟨id, hid, hc⟩, hname⟩
    · rintro ⟨c, ⟨id, hid, hc⟩, hname⟩
      exact ⟨id, hid, c, hc, hname⟩
  · rw [hkinds]
    exact Kind.pairwise_table _
  · rw [hkinds]
    exact Kind.mem_table

/-! ### All packages -/

def packageNames (p : ProjectData) : List String :=
  distinct ((List.range p.registry.classes.length).filterMap p.registry.packageNameOf?)

lemma mem_packageNames : name ∈ p.packageNames ↔ ∃ id, p.registry.packageNameOf? id = some name := by
  rw [packageNames, mem_distinct, List.mem_filterMap]
  constructor
  · rintro ⟨id, -, hid⟩
    exact ⟨id, hid⟩
  · rintro ⟨id, hid⟩
    exact ⟨id, (List.mem_filter.mp (mem_classesIn.mpr hid)).1, hid⟩

lemma mem_packageNames_iff_classesOf (hr : p.registry.packages.Nodup)
    (hpid : p.registry.package? pid = some name) :
    name ∈ p.packageNames ↔ p.registry.classesOf pid ≠ [] := by
  simp only [mem_packageNames, Registry.packageNameOf?_eq_some_iff hr hpid, Registry.classesOf, ne_eq,
    List.filter_eq_nil_iff, decide_eq_true_eq, not_forall, not_not]
  constructor
  · rintro ⟨id, c, hc, hpackage⟩
    exact ⟨c, List.mem_of_getElem? hc, hpackage⟩
  · rintro ⟨c, hc, hpackage⟩
    obtain ⟨id, hid⟩ := List.mem_iff_getElem?.mp hc
    exact ⟨id, c, hid, hpackage⟩

lemma nodup_packageNames (p : ProjectData) : p.packageNames.Nodup := nodup_fresh _ _

lemma map_package_summaries (p : ProjectData) :
    p.summaries.map (·.package) = p.packageNames := by
  rw [summaries, List.map_map]
  exact List.map_id _

/-- Entries with a class each are counted by the names of the packages once. -/
lemma sum_packageNames {α : Type} (hp : p.registry.Built) (classOf : α → ClassId) {xs : List α}
    (h : ∀ x ∈ xs, ∃ c, p.registry.class? (classOf x) = some c) :
    (p.packageNames.map fun name =>
      xs.countP fun x => p.registry.packageNameOf? (classOf x) = some name).sum = xs.length := by
  rw [sum_map_countP p.nodup_packageNames fun x => p.registry.packageNameOf? (classOf x),
    List.countP_eq_length]
  intro x hx
  obtain ⟨name, hname⟩ := hp.exists_packageNameOf? (h x hx)
  simpa [hname] using mem_packageNames.mpr ⟨_, hname⟩

lemma sum_classCount_summaries (hp : p.registry.Built) :
    (p.summaries.map (·.classCount)).sum = p.registry.classes.length := by
  have hall : ∀ id ∈ List.range p.registry.classes.length, ∃ c, p.registry.class? id = some c :=
    fun id hid => Registry.exists_class?_iff.mpr (List.mem_range.mp hid)
  calc (p.summaries.map (·.classCount)).sum
      = (p.packageNames.map fun name => (p.classesIn name).length).sum := by
        rw [summaries, List.map_map]
        rfl
    _ = (List.range p.registry.classes.length).length := by
        simp only [length_classesIn]
        exact sum_packageNames hp (fun id => id) hall
    _ = p.registry.classes.length := List.length_range

lemma length_flatMap_classesIn (p : ProjectData) (name : String) :
    ((p.classesIn name).flatMap p.edgesFrom).length =
      p.edges.countP (p.registry.packageNameOf? ·.source = some name) := by
  rw [← List.countP_true, countP_flatMap_edgesFrom (p.nodup_classesIn name), List.countP_true,
    ← List.countP_eq_length_filter]
  simp only [mem_classesIn]

lemma sum_kindCounts_summaries (hp : p.registry.Built)
    (hsources : ∀ e ∈ p.edges, ∃ c, p.registry.class? e.source = some c) :
    ((p.summaries.flatMap (·.kindCounts)).map (·.2)).sum = p.edges.length := by
  calc ((p.summaries.flatMap (·.kindCounts)).map (·.2)).sum
      = (p.packageNames.map fun name => ((p.summary name).kindCounts.map (·.2)).sum).sum := by
        rw [List.map_flatMap, List.flatMap_def, List.sum_flatten, summaries, List.map_map,
          List.map_map]
        rfl
    _ = (p.packageNames.map fun name =>
          p.edges.countP (p.registry.packageNameOf? ·.source = some name)).sum := by
        simp only [kindCounts_summary, Kind.sum_table, length_flatMap_classesIn]
    _ = p.edges.length := sum_packageNames hp Edge.source hsources

/-- The summaries are a census of the packages. They stand in strictly ascending order of the names
of the packages; each package that has classes is summed up by one of them, and each of them sums up
one such package. So every class and every edge is counted once. -/
theorem summaries_census (p : ProjectData) (hp : p.registry.Built)
    (hsources : ∀ e ∈ p.edges, ∃ c, p.registry.class? e.source = some c) :
    (p.summaries.map (·.package)).Pairwise (· < ·) ∧
    (∀ pid, p.registry.classesOf pid ≠ [] → ∃! s, s ∈ p.summaries ∧ s.IsOf p pid) ∧
    (∀ s ∈ p.summaries, ∃! pid, p.registry.classesOf pid ≠ [] ∧ s.IsOf p pid) ∧
    (p.summaries.map (·.classCount)).sum = p.registry.classes.length ∧
    ((p.summaries.flatMap (·.kindCounts)).map (·.2)).sum = p.edges.length := by
  have hr := hp.nodup_packages
  refine ⟨?_, ?_, ?_, sum_classCount_summaries hp, sum_kindCounts_summaries hp hsources⟩
  · rw [map_package_summaries]
    exact pairwise_lt_distinct _
  · intro pid hne
    obtain ⟨c, hc⟩ := List.exists_mem_of_ne_nil _ hne
    obtain ⟨hmem, hpackage⟩ := List.mem_filter.mp hc
    obtain ⟨name, hname⟩ := hp.exists_package? hmem
    rw [decide_eq_true_eq.mp hpackage] at hname
    have hnames := (mem_packageNames_iff_classesOf hr hname).mpr hne
    refine ⟨p.summary name, ⟨List.mem_map_of_mem hnames, isOf_summary hr hname⟩, ?_⟩
    rintro s ⟨hs, hof⟩
    obtain ⟨name', -, rfl⟩ := List.mem_map.mp hs
    obtain rfl : name' = name := Option.some.inj (hof.package_eq.symm.trans hname)
    rfl
  · intro s hs
    obtain ⟨name, hname, rfl⟩ := List.mem_map.mp hs
    obtain ⟨id, hid⟩ := mem_packageNames.mp hname
    obtain ⟨c, -, hpid⟩ := Option.bind_eq_some_iff.mp hid
    refine ⟨c.package, ⟨(mem_packageNames_iff_classesOf hr hpid).mp hname, isOf_summary hr hpid⟩, ?_⟩
    rintro pid ⟨-, hof⟩
    exact Registry.package?_inj hr hof.package_eq hpid

/-- Two packages that have classes and one that has none. -/
def market : ProjectData where
  id := .ofNat 0
  root := "/market"
  registry := .ofRegistrations
    [.type "shop.web" "Desk" .classType none, .type "shop" "Order" .classType none,
      .package "shop.api", .type "shop" "Item" .classType none]
  members := []
  edges :=
    [(1, some 2, .composition), (0, some 1, .methodCall), (1, none, .valueInjection),
      (2, some 2, .composition)].map fun (source, target, kind) =>
        ⟨source, "", "", target, kind, .ofNat 1⟩
  endpoints := []
  batch := .ofNat 1

/-- The sum of a package takes the edges of its two classes together. -/
theorem summaries_census_market :
    market.registry.Built ∧
      (∀ e ∈ market.edges, ∃ c, market.registry.class? e.source = some c) ∧
      (∃ s ∈ market.summaries, s.package = "shop" ∧ s.classCount = 2 ∧ "Item" ∈ s.classes ∧
        (Kind.composition.code, 2) ∈ s.kindCounts) ∧
      (market.summaries.map (·.classCount)).sum = 3 ∧
      ((market.summaries.flatMap (·.kindCounts)).map (·.2)).sum = 4 := by
  have hp : market.registry.Built := ⟨_, rfl⟩
  have hsources : ∀ e ∈ market.edges, ∃ c, market.registry.class? e.source = some c := by
    have hlt : ∀ e ∈ market.edges, e.source < market.registry.classes.length := by decide +kernel
    exact fun e he => Registry.exists_class?_iff.mpr (hlt e he)
  obtain ⟨-, hone, -, hclasses, hedges⟩ := summaries_census market hp hsources
  obtain ⟨s, ⟨hs, hof⟩, -⟩ := hone 1 (by decide +kernel)
  have hname : market.registry.package? 1 = some "shop" := by decide +kernel
  refine ⟨hp, hsources, ⟨s, hs, ?_, hof.classCount_eq.trans ?_, (hof.mem_classes _).mpr ?_,
    (hof.mem_kindCounts _ _).mpr ?_⟩, hclasses.trans ?_, hedges.trans ?_⟩
  · exact Option.some.inj (hof.package_eq.symm.trans hname)
  all_goals decide +kernel

end ProjectData

end Cartograph
