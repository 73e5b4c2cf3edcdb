import Cartograph.Proofs.Diagram.Tables

/-!
# The graph as a scan of the edges

What the graph of a project tells is what a plain scan of the edges tells. Between two classes stand
the kinds of the edges from one to the other; what a class depends on and what depends on it stand
in the order in which the first edges occur, and the two views are transposes of each other. Edges
may be of any kind and number, and their ends need not be registered.
-/

namespace Cartograph

open Text

/-! ### The order of first occurrences -/

section FirstOccurrences

variable {α β : Type} [DecidableEq β] {value? : α → Option β}

/-- A value that occurs is found no later when the entries go on. -/
lemma findIdx_append_of_mem {entries : List α} {b : β} (h : b ∈ entries.filterMap value?)
    (more : List α) :
    (entries ++ more).findIdx (value? · = some b) = entries.findIdx (value? · = some b) := by
  obtain ⟨a, ha, hvalue⟩ := List.mem_filterMap.mp h
  rw [List.findIdx_append, if_pos (List.findIdx_lt_length_of_exists ⟨a, ha, by simpa using hvalue⟩)]

lemma findIdx_of_not_mem {entries : List α} {b : β} (h : b ∉ entries.filterMap value?) :
    entries.findIdx (value? · = some b) = entries.length := by
  rw [List.findIdx_eq_length]
  intro a ha
  simpa using fun hvalue => h (List.mem_filterMap.mpr ⟨a, ha, hvalue⟩)

/-- First occurrences stand in the order of the first entries that have them. The induction is on
the entries from the last one backwards, as a new value comes behind all others. -/
lemma pairwise_findIdx_fresh (value? : α → Option β) (entries : List α) :
    (fresh [] (entries.filterMap value?)).Pairwise fun b c =>
      entries.findIdx (value? · = some b) < entries.findIdx (value? · = some c) := by
  induction entries using List.reverseRecOn with
  | nil => exact List.Pairwise.nil
  | append_singleton entries a ih =>
    have hold : (fresh [] (entries.filterMap value?)).Pairwise fun b c =>
        (entries ++ [a]).findIdx (value? · = some b) <
          (entries ++ [a]).findIdx (value? · = some c) := by
      refine ih.imp_of_mem fun {b c} hb hc hlt => ?_
      rwa [findIdx_append_of_mem (mem_fresh.mp hb).1, findIdx_append_of_mem (mem_fresh.mp hc).1]
    cases hvalue : value? a with
    | none => simpa [hvalue] using hold
    | some d =>
      have hconcat : (entries ++ [a]).filterMap value? = entries.filterMap value? ++ [d] := by
        simp [hvalue]
      rw [hconcat, fresh_concat]
      split_ifs with hmem
      · exact hold
      · rw [List.pairwise_append]
        refine ⟨hold, List.pairwise_singleton _ d, ?_⟩
        intro b hb c hc
        obtain rfl : c = d := List.mem_singleton.mp hc
        have hb := (mem_fresh.mp hb).1
        obtain ⟨x, hx, hxb⟩ := List.mem_filterMap.mp hb
        calc (entries ++ [a]).findIdx (value? · = some b)
            = entries.findIdx (value? · = some b) := findIdx_append_of_mem hb [a]
          _ < entries.length := List.findIdx_lt_length_of_exists ⟨x, hx, by simpa using hxb⟩
          _ = entries.findIdx (value? · = some c) := (findIdx_of_not_mem hmem).symm
          _ ≤ (entries ++ [a]).findIdx (value? · = some c) := by
            rw [findIdx_of_not_mem hmem, List.findIdx_append, findIdx_of_not_mem hmem]
            simp

end FirstOccurrences

/-- The place of the first edge from one class to another. -/
def ProjectData.firstEdge (p : ProjectData) (source target : ClassId) : Nat :=
  p.edges.findIdx fun e => e.source = source ∧ e.targetClass = some target

namespace Graph

variable {p : ProjectData} {a b : ClassId} {kinds : List Kind}

/-! ### Pairs and kinds -/

lemma lt_of_mem_pairs {size : Nat} {edges : List Edge} (h : (a, b) ∈ pairs size edges) :
    a < size ∧ b < size := by
  obtain ⟨e, -, hpair⟩ := mem_pairs.mp h
  exact (Edge.pair?_eq_some_iff.mp hpair).2.2

lemma mem_pairs_iff :
    (a, b) ∈ pairs p.registry.classes.length p.edges ↔
      (∃ c, p.registry.class? a = some c) ∧ (∃ c, p.registry.class? b = some c) ∧
        p.edgesBetween a b ≠ [] := by
  simp only [Registry.exists_class?_iff]
  constructor
  · intro h
    obtain ⟨ha, hb⟩ := lt_of_mem_pairs h
    exact ⟨ha, hb, (mem_pairs_iff_edgesBetween ha hb).mp h⟩
  · rintro ⟨ha, hb, hedges⟩
    exact (mem_pairs_iff_edgesBetween ha hb).mpr hedges

lemma kindsBetween?_eq_some_iff :
    (ofProject p).kindsBetween? a b = some kinds ↔
      (a, b) ∈ pairs p.registry.classes.length p.edges ∧
        kinds = kindsOf p.registry.classes.length p.edges (a, b) := by
  rw [kindsBetween?]
  cases hfind : (ofProject p).links.find? fun l => l.source == a && l.target == b with
  | none =>
    simp only [Option.map_none, reduceCtorEq, false_iff]
    rintro ⟨hpair, -⟩
    have hlink : ⟨a, b, kindsOf p.registry.classes.length p.edges (a, b)⟩ ∈ (ofProject p).links :=
      mem_links.mpr ⟨hpair, rfl⟩
    simpa using List.find?_eq_none.mp hfind _ hlink
  | some l =>
    have hends := List.find?_some hfind
    simp only [Bool.and_eq_true, beq_iff_eq] at hends
    obtain ⟨rfl, rfl⟩ := hends
    obtain ⟨hpair, hkinds⟩ := mem_links.mp (List.mem_of_find?_eq_some hfind)
    rw [Option.map_some, Option.some.injEq, ← hkinds, eq_comm]
    exact (and_iff_right hpair).symm

/-! ### Order -/

lemma firstEdge_eq_findIdx (h : (a, b) ∈ pairs p.registry.classes.length p.edges) :
    p.firstEdge a b = p.edges.findIdx (·.pair? p.registry.classes.length = some (a, b)) := by
  obtain ⟨ha, hb⟩ := lt_of_mem_pairs h
  simp only [ProjectData.firstEdge, pair?_eq_some_iff_of_lt ha hb]

/-- The links stand in the order in which their first edges occur. -/
lemma pairwise_firstEdge_links (p : ProjectData) :
    (ofProject p).links.Pairwise fun l m =>
      p.firstEdge l.source l.target < p.firstEdge m.source m.target := by
  rw [ofProject, foldl_addEdge, List.pairwise_map]
  refine (pairwise_findIdx_fresh (·.pair? p.registry.classes.length) p.edges).imp_of_mem ?_
  intro s t hs ht hlt
  rwa [← firstEdge_eq_findIdx hs, ← firstEdge_eq_findIdx ht] at hlt

/-- What a class is linked to stands in the order in which the first edges occur. -/
lemma pairwise_firstEdge_linked (p : ProjectData) (d : Direction) (a : ClassId) :
    ((ofProject p).linked d a).Pairwise fun x y =>
      p.firstEdge (d.pair a x.1).1 (d.pair a x.1).2 <
        p.firstEdge (d.pair a y.1).1 (d.pair a y.1).2 := by
  have hpair (l : Link) (hl : l.near d = a) : d.pair a (l.far d) = (l.source, l.target) := by
    subst hl
    cases d <;> rfl
  rw [linked, List.pairwise_map]
  refine ((pairwise_firstEdge_links p).filter _).imp_of_mem ?_
  intro l m hl hm hlt
  simp only [hpair l (eq_of_beq (List.mem_filter.mp hl).2),
    hpair m (eq_of_beq (List.mem_filter.mp hm).2)]
  exact hlt

/-- The graph of a project has one node for each class, and it tells of each two classes what a scan
of the edges tells: the kinds of the edges between them if there are any, each at its first place.
The classes that a class depends on, and those that depend on it, stand in the order of their first
edges, and each view is the transpose of the other. -/
theorem ofProject_scans_edges (p : ProjectData) :
    let g := ofProject p
    (g.size = p.registry.classes.length ∧
      ∀ id n, g.node? id = some n ↔ n = id ∧ ∃ c, p.registry.class? id = some c) ∧
    (∀ a b kinds, g.kindsBetween? a b = some kinds ↔
      ((∃ c, p.registry.class? a = some c) ∧ (∃ c, p.registry.class? b = some c) ∧
        p.edgesBetween a b ≠ []) ∧
      kinds = ((p.edgesBetween a b).map (·.kind)).eraseDups) ∧
    (∀ a, (∀ b kinds, (b, kinds) ∈ g.dependencies a ↔ g.kindsBetween? a b = some kinds) ∧
      (g.dependencies a).Pairwise fun x y => p.firstEdge a x.1 < p.firstEdge a y.1) ∧
    (∀ b, (∀ a kinds, (a, kinds) ∈ g.dependents b ↔ g.kindsBetween? a b = some kinds) ∧
      (g.dependents b).Pairwise fun x y => p.firstEdge x.1 b < p.firstEdge y.1 b) ∧
    ∀ a b kinds, (b, kinds) ∈ g.dependencies a ↔ (a, kinds) ∈ g.dependents b := by
  refine ⟨⟨rfl, ?_⟩, ?_, fun a => ⟨?_, pairwise_firstEdge_linked p .outgoing a⟩,
    fun b => ⟨?_, pairwise_firstEdge_linked p .incoming b⟩, ?_⟩
  · intro id n
    rw [node?, Option.ite_none_right_eq_some, Registry.exists_class?_iff]
    constructor
    · rintro ⟨hlt, hn⟩
      exact ⟨(Option.some.inj hn).symm, hlt⟩
    · rintro ⟨rfl, hlt⟩
      exact ⟨hlt, rfl⟩
  · intro a b kinds
    rw [kindsBetween?_eq_some_iff, ← mem_pairs_iff]
    refine and_congr_right fun hpair => ?_
    obtain ⟨ha, hb⟩ := lt_of_mem_pairs hpair
    rw [kindsOf_eq_eraseDups ha hb]
  · exact fun b kinds => mem_dependencies.trans kindsBetween?_eq_some_iff.symm
  · exact fun a kinds => mem_dependents.trans kindsBetween?_eq_some_iff.symm
  · exact fun a b kinds => mem_dependencies.trans mem_dependents.symm

end Graph

end Cartograph
