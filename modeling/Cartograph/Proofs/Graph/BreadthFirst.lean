import Cartograph.Proofs.Graph.Aggregation
import Cartograph.Proofs.Graph.Queue
import Cartograph.Proofs.Registry.Keys
import Mathlib.Order.Lattice.Nat

/-!
# The search goes breadth first

The search from a class is compared with chains of steps between classes, which are stated on the
edges of the project and not on its graph. A class is found exactly if a chain that is not too long
leads to it, it is found once, and the classes are in ascending order of the length of their
shortest chains.

The invariant of the search, `Search`, says of a number of rounds which classes have been met, and
that those met in the last round are the ones whose shortest chain has exactly that length.
-/

namespace Cartograph

open Text

/-! ### Chains of steps -/

/-- One step from a class to another one that is registered and not a test: along an edge, or
against an edge of implementation. -/
structure ProjectData.Step (p : ProjectData) (a b : ClassId) : Prop where
  source_registered : ∃ c, p.registry.class? a = some c
  target_registered : ∃ c, p.registry.class? b = some c ∧ c.isTest = false
  joined : (∃ e ∈ p.edges, e.source = a ∧ e.targetClass = some b) ∨
    ∃ e ∈ p.edges, e.kind = .implementing ∧ e.source = b ∧ e.targetClass = some a

/-- A chain of so many steps leads from the first class to the second. -/
inductive ProjectData.Chain (p : ProjectData) (seed : ClassId) : Nat → ClassId → Prop
  | start : Chain p seed 0 seed
  | step {k : Nat} {a b : ClassId} (chain : Chain p seed k a) (step : p.Step a b) :
      Chain p seed (k + 1) b

/-- The length of the shortest chain from the first class to the second. -/
noncomputable def ProjectData.distance (p : ProjectData) (seed c : ClassId) : Nat :=
  sInf {k | p.Chain seed k c}

namespace ProjectData

variable {p : ProjectData} {seed : ClassId}

lemma chain_zero_iff {c : ClassId} : p.Chain seed 0 c ↔ c = seed := by
  constructor
  · intro h
    cases h
    rfl
  · rintro rfl
    exact .start

lemma chain_succ_iff {k : Nat} {c : ClassId} :
    p.Chain seed (k + 1) c ↔ ∃ a, p.Chain seed k a ∧ p.Step a c := by
  constructor
  · rintro (_ | ⟨chain, step⟩)
    exact ⟨_, chain, step⟩
  · rintro ⟨a, chain, step⟩
    exact .step chain step

lemma distance_le {k : Nat} {c : ClassId} (h : p.Chain seed k c) : p.distance seed c ≤ k :=
  Nat.sInf_le h

/-- Where a chain leads, one of the least length does. -/
lemma chain_distance {k : Nat} {c : ClassId} (h : p.Chain seed k c) :
    p.Chain seed (p.distance seed c) c := by
  have hmem : p.distance seed c ∈ {k | p.Chain seed k c} := Nat.sInf_mem ⟨k, h⟩
  exact hmem

lemma distance_eq {k : Nat} {c : ClassId} (h : p.Chain seed k c)
    (hleast : ∀ j < k, ¬p.Chain seed j c) : p.distance seed c = k := by
  have hle : p.distance seed c ≤ k := distance_le h
  by_contra hne
  exact hleast _ (lt_of_le_of_ne hle hne) (chain_distance h)

end ProjectData

namespace Registry

lemma admits_iff {r : Registry} {id : ClassId} :
    r.admits id = true ↔ ∃ c, r.class? id = some c ∧ c.isTest = false := by
  unfold admits
  cases r.class? id <;> simp

end Registry

namespace Graph

variable {p : ProjectData} {seed : ClassId}

/-- A class depends on those that its edges lead to. -/
lemma exists_mem_dependencies {a b : ClassId} :
    (∃ kinds, (b, kinds) ∈ (ofProject p).dependencies a) ↔
      (∃ e ∈ p.edges, e.source = a ∧ e.targetClass = some b) ∧
        a < p.registry.classes.length ∧ b < p.registry.classes.length := by
  simp only [mem_dependencies, mem_pairs, Edge.pair?_eq_some_iff]
  constructor
  · rintro ⟨kinds, ⟨e, he, hsource, htarget, hsize⟩, -⟩
    exact ⟨⟨e, he, hsource, htarget⟩, hsize⟩
  · rintro ⟨⟨e, he, hsource, htarget⟩, hsize⟩
    exact ⟨_, ⟨e, he, hsource, htarget, hsize⟩, rfl⟩

/-- The dependents of a kind are those that an edge of this kind leads from. -/
lemma exists_mem_dependents {kind : Kind} {a b : ClassId} :
    (∃ kinds, (b, kinds) ∈ (ofProject p).dependents a ∧ kind ∈ kinds) ↔
      (∃ e ∈ p.edges, e.kind = kind ∧ e.source = b ∧ e.targetClass = some a) ∧
        b < p.registry.classes.length ∧ a < p.registry.classes.length := by
  simp only [mem_dependents, mem_pairs]
  constructor
  · rintro ⟨kinds, ⟨-, rfl⟩, hkind⟩
    obtain ⟨e, he, hpair, hkind⟩ := mem_kindsOf.mp hkind
    obtain ⟨hsource, htarget, hsize⟩ := Edge.pair?_eq_some_iff.mp hpair
    exact ⟨⟨e, he, hkind, hsource, htarget⟩, hsize⟩
  · rintro ⟨⟨e, he, hkind, hsource, htarget⟩, hsize⟩
    have hpair := Edge.pair?_eq_some_iff.mpr ⟨hsource, htarget, hsize⟩
    exact ⟨_, ⟨⟨e, he, hpair⟩, rfl⟩, mem_kindsOf.mpr ⟨e, he, hpair, hkind⟩⟩

/-- The neighbours of a class in the graph are the classes one step away. -/
lemma mem_neighbours {a b : ClassId} :
    b ∈ (ofProject p).neighbours p.registry a ↔ p.Step a b := by
  have hmem : b ∈ (ofProject p).neighbours p.registry a ↔
      ((∃ kinds, (b, kinds) ∈ (ofProject p).dependencies a) ∨
        ∃ kinds, (b, kinds) ∈ (ofProject p).dependents a ∧ .implementing ∈ kinds) ∧
      p.registry.admits b = true := by
    simp [neighbours, or_and_right]
  rw [hmem, exists_mem_dependencies, exists_mem_dependents, Registry.admits_iff]
  constructor
  · rintro ⟨⟨hedge, ha, -⟩ | ⟨hedge, -, ha⟩, hb⟩
    · exact ⟨Registry.exists_class?_iff.mpr ha, hb, Or.inl hedge⟩
    · exact ⟨Registry.exists_class?_iff.mpr ha, hb, Or.inr hedge⟩
  · rintro ⟨ha, ⟨c, hc, htest⟩, hedge⟩
    have ha := Registry.exists_class?_iff.mp ha
    have hb := Registry.exists_class?_iff.mp ⟨c, hc⟩
    refine ⟨?_, c, hc, htest⟩
    rcases hedge with hedge | hedge
    · exact Or.inl ⟨hedge, ha, hb⟩
    · exact Or.inr ⟨hedge, hb, ha⟩

/-! ### Rounds -/

/-- What has been met after so many rounds, and what the last round has met. -/
structure Search (p : ProjectData) (seed : ClassId) (k : Nat) (met last : List ClassId) :
    Prop where
  nodup : met.Nodup
  head : met.head? = some seed
  mem_met : ∀ c, c ∈ met ↔ ∃ j ≤ k, p.Chain seed j c
  mem_last : ∀ c, c ∈ last ↔ p.Chain seed k c ∧ ∀ j < k, ¬p.Chain seed j c
  ascending : met.Pairwise fun a b => p.distance seed a ≤ p.distance seed b

lemma Search.start (p : ProjectData) (seed : ClassId) : Search p seed 0 [seed] [seed] where
  nodup := List.nodup_singleton seed
  head := rfl
  mem_met c := by simp [ProjectData.chain_zero_iff]
  mem_last c := by simp [ProjectData.chain_zero_iff]
  ascending := List.pairwise_singleton _ seed

/-- The classes that a round newly meets are those whose shortest chain is one step longer. -/
lemma Search.mem_next {k : Nat} {met last : List ClassId} (s : Search p seed k met last)
    (c : ClassId) :
    c ∈ fresh met (last.flatMap ((ofProject p).neighbours p.registry)) ↔
      p.Chain seed (k + 1) c ∧ ∀ j < k + 1, ¬p.Chain seed j c := by
  have hunmet : c ∉ met ↔ ∀ j < k + 1, ¬p.Chain seed j c := by
    rw [s.mem_met]
    simp only [Nat.lt_succ_iff]
    push Not
    rfl
  rw [mem_fresh, hunmet, List.mem_flatMap]
  simp only [mem_neighbours, s.mem_last]
  constructor
  · rintro ⟨⟨a, ⟨chain, -⟩, step⟩, hleast⟩
    exact ⟨.step chain step, hleast⟩
  · rintro ⟨hchain, hleast⟩
    obtain ⟨a, chain, step⟩ := ProjectData.chain_succ_iff.mp hchain
    -- A shorter chain to the class before would give a shorter chain to this one.
    exact ⟨⟨a, ⟨chain, fun j hj hshort => hleast (j + 1) (by omega) (.step hshort step)⟩, step⟩,
      hleast⟩

/-- One more round keeps the invariant. -/
lemma Search.next {k : Nat} {met last : List ClassId} (s : Search p seed k met last) :
    Search p seed (k + 1)
      (met ++ fresh met (last.flatMap ((ofProject p).neighbours p.registry)))
      (fresh met (last.flatMap ((ofProject p).neighbours p.registry))) where
  nodup := by
    rw [List.nodup_append]
    refine ⟨s.nodup, nodup_fresh _ _, ?_⟩
    rintro a ha b hb rfl
    exact (mem_fresh.mp hb).2 ha
  head := by
    rw [List.head?_append, s.head, Option.some_or]
  mem_met c := by
    rw [List.mem_append, s.mem_met, s.mem_next]
    constructor
    · rintro (⟨j, hj, chain⟩ | ⟨chain, -⟩)
      · exact ⟨j, by omega, chain⟩
      · exact ⟨k + 1, le_rfl, chain⟩
    · rintro ⟨j, hj, chain⟩
      by_cases hshort : ∃ i ≤ k, p.Chain seed i c
      · exact Or.inl hshort
      · push Not at hshort
        have hjk : j = k + 1 := by
          by_contra hne
          exact hshort j (by omega) chain
        subst hjk
        exact Or.inr ⟨chain, fun i hi => hshort i (by omega)⟩
  mem_last := s.mem_next
  ascending := by
    rw [List.pairwise_append]
    have hnext : ∀ b ∈ fresh met (last.flatMap ((ofProject p).neighbours p.registry)),
        p.distance seed b = k + 1 := by
      intro b hb
      obtain ⟨chain, hleast⟩ := (s.mem_next b).mp hb
      exact ProjectData.distance_eq chain hleast
    refine ⟨s.ascending, ?_, ?_⟩
    · apply List.pairwise_of_forall_mem_list
      intro a ha b hb
      rw [hnext a ha, hnext b hb]
    · intro a ha b hb
      obtain ⟨j, hj, chain⟩ := (s.mem_met a).mp ha
      have hle := ProjectData.distance_le chain
      rw [hnext b hb]
      omega

/-- When a round meets nothing, no later round does. -/
lemma Search.stay {k : Nat} {met : List ClassId} (s : Search p seed k met []) (n : Nat) :
    Search p seed (k + n) met [] := by
  induction n with
  | zero => exact s
  | succ n ih => simpa [Nat.add_assoc] using ih.next

lemma Search.rounds {k : Nat} {met last : List ClassId} (s : Search p seed k met last)
    (depth : Nat) :
    ∃ last', Search p seed (k + depth) ((ofProject p).rounds p.registry depth met last) last' := by
  induction depth generalizing k met last with
  | zero => exact ⟨last, s⟩
  | succ depth ih =>
    have hnext := s.next
    rw [show k + (depth + 1) = k + 1 + depth by omega]
    unfold Graph.rounds
    split
    · rename_i hnone
      rw [hnone, List.append_nil] at hnext
      exact ⟨[], hnext.stay depth⟩
    · exact ih hnext

/-- The search from a class finds, without repeats and beginning with the class itself, exactly the
classes to which a chain of at most so many steps leads, in ascending order of the length of their
shortest chains. The search with a queue ends, with just these classes. -/
theorem reachable_breadthFirst (p : ProjectData) (seed : ClassId) (depth : Nat) :
    let found := (ofProject p).reachable p.registry seed depth
    found.Nodup ∧ found.head? = some seed ∧
      (∀ c, c ∈ found ↔ ∃ k ≤ depth, p.Chain seed k c) ∧
      (found.Pairwise fun a b => p.distance seed a ≤ p.distance seed b) ∧
      ∀ result, QueueSearch.Ends (ofProject p) p.registry depth (.start seed) result ↔
        result = found := by
  obtain ⟨last, s⟩ := (Search.start p seed).rounds depth
  rw [Nat.zero_add] at s
  exact ⟨s.nodup, s.head, s.mem_met, s.ascending, QueueSearch.ends_start_iff _ _ seed depth⟩

end Graph

end Cartograph
