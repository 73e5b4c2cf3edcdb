import Cartograph.Proofs.Diagram.Tables

/-!
# Searching deeper

A search that may go deeper finds the classes of the shallower one first, in the same order, and
then the classes that lie further away. This holds of any graph, cyclic or not: both searches have
met the same classes as long as both are running, and a round never takes back what was met. For
diagrams it means that a greater depth only appends classes.
-/

namespace Cartograph

namespace Graph

variable (g : Graph) (r : Registry)

/-- Rounds keep what was met before them, in front. -/
lemma isPrefix_rounds (depth : Nat) (met last : List ClassId) :
    met <+: g.rounds r depth met last := by
  induction depth generalizing met last with
  | zero => exact List.prefix_refl met
  | succ depth ih =>
    unfold rounds
    split
    · exact List.prefix_refl met
    · exact (List.prefix_append met _).trans (ih _ _)

/-- One more round at the end only appends. The induction is on the rounds that both searches
make, so that they start from the same classes again after the first one. -/
lemma rounds_isPrefix_succ (depth : Nat) (met last : List ClassId) :
    g.rounds r depth met last <+: g.rounds r (depth + 1) met last := by
  induction depth generalizing met last with
  | zero => exact g.isPrefix_rounds r 1 met last
  | succ depth ih =>
    rw [rounds, rounds.eq_def g r (depth + 1 + 1)]
    dsimp only
    split
    · exact List.prefix_refl met
    · exact ih _ _

lemma reachable_isPrefix (seed : ClassId) {d d' : Nat} (h : d ≤ d') :
    g.reachable r seed d <+: g.reachable r seed d' := by
  induction d', h using Nat.le_induction with
  | base => exact List.prefix_refl _
  | succ n _ ih => exact ih.trans (g.rounds_isPrefix_succ r n [seed] [seed])

end Graph

namespace Diagram

variable {p : ProjectData} {e : Endpoint} {d d' : Nat}

/-- A selected class that was not selected with a smaller depth lies further away. -/
lemma lt_distance_of_not_mem_selected {id : ClassId} (hid : id ∈ selected p d' e)
    (hnew : id ∉ selected p d e) : d < p.distance e.classId id := by
  obtain ⟨_, search⟩ := exists_search p d e
  obtain ⟨_, search'⟩ := exists_search p d' e
  obtain ⟨k, -, chain⟩ := (search'.mem_met id).mp hid
  by_contra hle
  exact hnew ((search.mem_met id).mpr ⟨_, not_lt.mp hle, ProjectData.chain_distance chain⟩)

lemma ofEndpoint_eq_ok_iff {D : Diagram} :
    ofEndpoint p d e = .ok D ↔
      (∃ c, p.registry.class? e.classId = some c) ∧ D = build p d e := by
  constructor
  · intro h
    cases hc : p.registry.class? e.classId with
    | none =>
      rw [ofEndpoint, hc] at h
      cases h
    | some c =>
      rw [ofEndpoint_eq_ok ⟨c, hc⟩] at h
      exact ⟨⟨c, rfl⟩, (Except.ok.inj h).symm⟩
  · rintro ⟨he, rfl⟩
    exact ofEndpoint_eq_ok he

end Diagram

/-- With a greater depth the search from a class finds the same classes first, in the same order. So
a diagram of greater depth has the classes of the shallower one and behind them others, whose
shortest chains are longer than the smaller depth. -/
theorem deeper_search_appends {d d' : Nat} (h : d ≤ d') :
    (∀ (g : Graph) (r : Registry) (seed : ClassId),
      g.reachable r seed d <+: g.reachable r seed d') ∧
    ∀ (p : ProjectData) (e : Endpoint) (D : Diagram), Diagram.ofEndpoint p d e = .ok D →
      ∃ D' more, Diagram.ofEndpoint p d' e = .ok D' ∧ D'.classes = D.classes ++ more ∧
        ∀ c ∈ more, d < p.distance e.classId c.id := by
  refine ⟨fun g r seed => g.reachable_isPrefix r seed h, ?_⟩
  intro p e D hD
  obtain ⟨he, rfl⟩ := Diagram.ofEndpoint_eq_ok_iff.mp hD
  obtain ⟨ids, hids⟩ := (Graph.ofProject p).reachable_isPrefix p.registry e.classId h
  have hselected : Diagram.selected p d' e = Diagram.selected p d e ++ ids := hids.symm
  refine ⟨Diagram.build p d' e, Diagram.infos p ids, Diagram.ofEndpoint_eq_ok he, ?_, ?_⟩
  · calc (Diagram.build p d' e).classes = Diagram.infos p (Diagram.selected p d' e) := rfl
      _ = Diagram.infos p (Diagram.selected p d e) ++ Diagram.infos p ids := by
        rw [hselected, Diagram.infos, List.filterMap_append]
        rfl
  · intro c hc
    have hnodup := Diagram.nodup_selected p d' e
    rw [hselected] at hnodup
    have hid : c.id ∈ ids := (Diagram.mem_infos.mp hc).1
    refine Diagram.lt_distance_of_not_mem_selected
      (hselected ▸ List.mem_append_right _ hid) ?_
    intro hold
    exact (List.nodup_append.mp hnodup).2.2 _ hold _ hid rfl

/-- Three classes, each of which uses the next one and the last one the first. -/
def ring : ProjectData where
  id := .ofNat 0
  root := "/ring"
  registry := .ofRegistrations
    [.type "ring" "A" .classType none, .type "ring" "B" .classType none,
      .type "ring" "C" .classType none]
  members := []
  edges := [(0, 1), (1, 2), (2, 0)].map fun (source, target) =>
    ⟨source, "", "", some target, .composition, .ofNat 1⟩
  endpoints := []
  batch := .ofNat 1

/-- From one step to three only the last class of the ring is new: the third step leads back. -/
theorem deeper_search_appends_ring :
    let e : Endpoint := ⟨.ofNat 2, 0, "/ring", .get⟩
    1 ≤ 3 ∧
      (Graph.ofProject ring).reachable ring.registry 0 1 <+:
        (Graph.ofProject ring).reachable ring.registry 0 3 ∧
      ∃ D D' more, Diagram.ofEndpoint ring 1 e = .ok D ∧ Diagram.ofEndpoint ring 3 e = .ok D' ∧
        D.classes.map (·.id) = [0, 1] ∧ D'.classes.map (·.id) = [0, 1, 2] ∧
        D'.classes = D.classes ++ more ∧ ∀ c ∈ more, 1 < ring.distance 0 c.id := by
  intro e
  obtain ⟨hsearch, hdiagram⟩ := deeper_search_appends (show 1 ≤ 3 by decide)
  have he : ∃ c, ring.registry.class? e.classId = some c := ⟨_, rfl⟩
  have hD : Diagram.ofEndpoint ring 1 e = .ok (Diagram.build ring 1 e) :=
    Diagram.ofEndpoint_eq_ok he
  obtain ⟨D', more, hD', happend, hfar⟩ := hdiagram ring e _ hD
  obtain ⟨-, rfl⟩ := Diagram.ofEndpoint_eq_ok_iff.mp hD'
  exact ⟨by decide, hsearch _ _ _, _, _, more, hD, hD', by decide +kernel, by decide +kernel,
    happend, hfar⟩

end Cartograph
