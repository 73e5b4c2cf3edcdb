import Cartograph.Graph
import Cartograph.Proofs.Text.Fresh
import Mathlib.Data.List.Induction

/-!
# Links as aggregated edges

The links of a graph are those pairs of registered classes that an edge joins, in the order in which
they first occur, and the kinds of a link are the kinds of the edges of its pair, each once and in
the order in which they first occur. What a class depends on, and what depends on it, is read off
this form.
-/

namespace Cartograph

open Text

/-- The pair of registered classes that an edge joins. -/
def Edge.pair? (size : Nat) (e : Edge) : Option (ClassId × ClassId) :=
  e.targetClass.bind fun target =>
    if e.source < size ∧ target < size then some (e.source, target) else none

lemma Edge.pair?_eq_some_iff {size : Nat} {e : Edge} {a b : ClassId} :
    e.pair? size = some (a, b) ↔
      e.source = a ∧ e.targetClass = some b ∧ a < size ∧ b < size := by
  unfold Edge.pair?
  cases htarget : e.targetClass with
  | none => simp
  | some target =>
    simp only [Option.bind_some, Option.some.injEq]
    split_ifs with hsize
    · simp only [Option.some.injEq, Prod.mk.injEq]
      constructor
      · rintro ⟨rfl, rfl⟩
        exact ⟨rfl, rfl, hsize⟩
      · rintro ⟨ha, hb, -⟩
        exact ⟨ha, hb⟩
    · simp only [false_iff]
      rintro ⟨rfl, rfl, hlt⟩
      exact hsize hlt

/-- The pair of classes of a link that leads from one class to the other in a direction. -/
def Direction.pair (d : Direction) (near far : ClassId) : ClassId × ClassId :=
  match d with
  | .outgoing => (near, far)
  | .incoming => (far, near)

namespace Graph

/-- The pairs that edges join, each at its first place. -/
def pairs (size : Nat) (edges : List Edge) : List (ClassId × ClassId) :=
  fresh [] (edges.filterMap (·.pair? size))

/-- The kinds of the edges that join a pair, each at its first place. -/
def kindsOf (size : Nat) (edges : List Edge) (pair : ClassId × ClassId) : List Kind :=
  fresh [] ((edges.filter fun e => e.pair? size = some pair).map (·.kind))

def linkOf (kinds : ClassId × ClassId → List Kind) (pair : ClassId × ClassId) : Link :=
  ⟨pair.1, pair.2, kinds pair⟩

lemma mem_pairs {size : Nat} {edges : List Edge} {pair : ClassId × ClassId} :
    pair ∈ pairs size edges ↔ ∃ e ∈ edges, e.pair? size = some pair := by
  simp [pairs]

lemma mem_kindsOf {size : Nat} {edges : List Edge} {pair : ClassId × ClassId} {kind : Kind} :
    kind ∈ kindsOf size edges pair ↔ ∃ e ∈ edges, e.pair? size = some pair ∧ e.kind = kind := by
  simp [kindsOf, and_assoc]

/-! ### One more edge -/

lemma addEdge_of_none {size : Nat} {e : Edge} (h : e.pair? size = none) (links : List Link) :
    addEdge size links e = links := by
  unfold Edge.pair? at h
  unfold addEdge
  cases htarget : e.targetClass with
  | none => rfl
  | some target =>
    rw [htarget, Option.bind_some] at h
    split_ifs at h with hsize
    exact if_neg hsize

lemma addEdge_of_some {size : Nat} {e : Edge} {pair : ClassId × ClassId}
    (h : e.pair? size = some pair) (links : List Link) :
    addEdge size links e = addLink pair.1 pair.2 e.kind links := by
  obtain ⟨a, b⟩ := pair
  obtain ⟨rfl, htarget, hsize⟩ := Edge.pair?_eq_some_iff.mp h
  simp only [addEdge, htarget]
  exact if_pos hsize

/-- A pair without a link gets one at the end. -/
lemma addLink_of_not_mem {pair : ClassId × ClassId} (kind : Kind)
    (kinds : ClassId × ClassId → List Kind) {ps : List (ClassId × ClassId)} (h : pair ∉ ps) :
    addLink pair.1 pair.2 kind (ps.map (linkOf kinds)) =
      ps.map (linkOf kinds) ++ [⟨pair.1, pair.2, [kind]⟩] := by
  induction ps with
  | nil => rfl
  | cons p ps ih =>
    simp only [List.mem_cons, not_or] at h
    have hne : ¬((linkOf kinds p).source = pair.1 ∧ (linkOf kinds p).target = pair.2) :=
      fun heq => h.1 (Prod.ext heq.1 heq.2).symm
    rw [List.map_cons, addLink, if_neg hne, ih h.2, List.cons_append]

/-- A pair with a link gets the kind, and no other link changes. -/
lemma addLink_of_mem {pair : ClassId × ClassId} (kind : Kind)
    (kinds kinds' : ClassId × ClassId → List Kind) {ps : List (ClassId × ClassId)}
    (hps : ps.Nodup) (h : pair ∈ ps)
    (hpair : kinds' pair = if kind ∈ kinds pair then kinds pair else kinds pair ++ [kind])
    (hother : ∀ p, p ≠ pair → kinds' p = kinds p) :
    addLink pair.1 pair.2 kind (ps.map (linkOf kinds)) = ps.map (linkOf kinds') := by
  induction ps with
  | nil => simp at h
  | cons p ps ih =>
    obtain ⟨hp, hnodup⟩ := List.nodup_cons.mp hps
    rw [List.map_cons, List.map_cons, addLink]
    by_cases heq : p = pair
    · subst heq
      have htail : ps.map (linkOf kinds) = ps.map (linkOf kinds') := by
        apply List.map_congr_left
        intro q hq
        have hqp : q ≠ p := fun heq => hp (heq ▸ hq)
        simp only [linkOf, hother q hqp]
      rw [if_pos ⟨rfl, rfl⟩, htail]
      congr 1
      by_cases hkind : kind ∈ (linkOf kinds p).kinds
      · rw [if_pos hkind]
        simp only [linkOf, hpair.trans (if_pos hkind)]
      · rw [if_neg hkind]
        simp only [linkOf, hpair.trans (if_neg hkind)]
    · have hne : ¬((linkOf kinds p).source = pair.1 ∧ (linkOf kinds p).target = pair.2) :=
        fun h => heq (Prod.ext h.1 h.2)
      rw [if_neg hne, ih hnodup ((List.mem_cons.mp h).resolve_left (Ne.symm heq))]
      simp only [linkOf, hother p heq]

lemma kindsOf_concat_of_ne {size : Nat} (edges : List Edge) {e : Edge}
    {pair : ClassId × ClassId} (h : e.pair? size ≠ some pair) :
    kindsOf size (edges ++ [e]) pair = kindsOf size edges pair := by
  simp [kindsOf, h]

lemma kindsOf_concat_of_eq {size : Nat} (edges : List Edge) {e : Edge}
    {pair : ClassId × ClassId} (h : e.pair? size = some pair) :
    kindsOf size (edges ++ [e]) pair =
      if e.kind ∈ kindsOf size edges pair then kindsOf size edges pair
      else kindsOf size edges pair ++ [e.kind] := by
  have hmem : e.kind ∈ kindsOf size edges pair ↔
      e.kind ∈ (edges.filter fun e => e.pair? size = some pair).map (·.kind) := by
    simp [kindsOf]
  simp only [hmem]
  simp [kindsOf, h, fresh_concat]

/-- The links are the pairs that edges join, each with the kinds of its edges. The induction is on
the edges from the last one backwards, since a new edge is put in after all those before it. -/
lemma foldl_addEdge (size : Nat) (edges : List Edge) :
    edges.foldl (addEdge size) [] = (pairs size edges).map (linkOf (kindsOf size edges)) := by
  induction edges using List.reverseRecOn with
  | nil => rfl
  | append_singleton edges e ih =>
    rw [List.foldl_append, ih, List.foldl_cons, List.foldl_nil]
    cases hpair : e.pair? size with
    | none =>
      have hkinds : kindsOf size (edges ++ [e]) = kindsOf size edges := by
        funext p
        exact kindsOf_concat_of_ne edges (by simp [hpair])
      have hpairs : pairs size (edges ++ [e]) = pairs size edges := by
        simp [pairs, hpair]
      rw [addEdge_of_none hpair, hkinds, hpairs]
    | some pair =>
      have hother : ∀ p, p ≠ pair → kindsOf size (edges ++ [e]) p = kindsOf size edges p := by
        intro p hp
        apply kindsOf_concat_of_ne
        rw [hpair]
        exact fun h => hp (Option.some.inj h).symm
      have hpairs : pairs size (edges ++ [e]) =
          if pair ∈ pairs size edges then pairs size edges else pairs size edges ++ [pair] := by
        simp [pairs, hpair, fresh_concat]
      rw [addEdge_of_some hpair, hpairs]
      split_ifs with hmem
      · exact addLink_of_mem e.kind _ _ (nodup_fresh _ _) hmem
          (kindsOf_concat_of_eq edges hpair) hother
      · have hnone : kindsOf size edges pair = [] := by
          rw [List.eq_nil_iff_forall_not_mem]
          intro kind hkind
          obtain ⟨e', he', hpair', -⟩ := mem_kindsOf.mp hkind
          exact hmem (mem_pairs.mpr ⟨e', he', hpair'⟩)
        have hold : (pairs size edges).map (linkOf (kindsOf size edges)) =
            (pairs size edges).map (linkOf (kindsOf size (edges ++ [e]))) := by
          apply List.map_congr_left
          intro p hp
          have hne : p ≠ pair := fun heq => hmem (heq ▸ hp)
          simp only [linkOf, hother p hne]
        rw [addLink_of_not_mem e.kind _ hmem, hold, List.map_append]
        simp [linkOf, kindsOf_concat_of_eq edges hpair, hnone]

/-! ### The graph of a project -/

variable {p : ProjectData} {a b : ClassId} {kinds : List Kind}

lemma mem_links {l : Link} :
    l ∈ (ofProject p).links ↔
      (l.source, l.target) ∈ pairs p.registry.classes.length p.edges ∧
        l.kinds = kindsOf p.registry.classes.length p.edges (l.source, l.target) := by
  simp only [ofProject, foldl_addEdge, List.mem_map]
  constructor
  · rintro ⟨⟨a, b⟩, hpair, rfl⟩
    exact ⟨hpair, rfl⟩
  · rintro ⟨hpair, hkinds⟩
    refine ⟨_, hpair, ?_⟩
    rw [linkOf, ← hkinds]

/-- What a class is linked to in a direction is the other end of a pair. -/
lemma mem_linked {d : Direction} :
    (b, kinds) ∈ (ofProject p).linked d a ↔
      d.pair a b ∈ pairs p.registry.classes.length p.edges ∧
        kinds = kindsOf p.registry.classes.length p.edges (d.pair a b) := by
  have hlink : (b, kinds) ∈ (ofProject p).linked d a ↔
      ⟨(d.pair a b).1, (d.pair a b).2, kinds⟩ ∈ (ofProject p).links := by
    simp only [linked, List.mem_map, List.mem_filter, beq_iff_eq, Prod.mk.injEq]
    constructor
    · rintro ⟨l, ⟨hl, rfl⟩, rfl, rfl⟩
      cases d <;> exact hl
    · intro hl
      exact ⟨_, ⟨hl, by cases d <;> rfl⟩, by cases d <;> rfl, rfl⟩
  rw [hlink, mem_links]

lemma mem_dependencies :
    (b, kinds) ∈ (ofProject p).dependencies a ↔
      (a, b) ∈ pairs p.registry.classes.length p.edges ∧
        kinds = kindsOf p.registry.classes.length p.edges (a, b) :=
  mem_linked

lemma mem_dependents :
    (a, kinds) ∈ (ofProject p).dependents b ↔
      (a, b) ∈ pairs p.registry.classes.length p.edges ∧
        kinds = kindsOf p.registry.classes.length p.edges (a, b) :=
  mem_linked

/-- A class depends on another one by one link at most. -/
lemma nodup_dependencies (p : ProjectData) (a : ClassId) :
    (((ofProject p).dependencies a).map (·.1)).Nodup := by
  have hpairs : (pairs p.registry.classes.length p.edges).Nodup := nodup_fresh _ _
  simp only [dependencies, linked, ofProject, foldl_addEdge, List.filter_map, List.map_map]
  refine List.Nodup.map_on ?_ (hpairs.filter _)
  rintro ⟨s, t⟩ hst ⟨s', t'⟩ hst' htarget
  simp only [List.mem_filter, Function.comp_apply, linkOf, Link.near, Link.far, beq_iff_eq]
    at hst hst' htarget
  rw [hst.2, hst'.2, htarget]

end Graph

end Cartograph
