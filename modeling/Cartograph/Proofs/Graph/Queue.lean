import Cartograph.Proofs.Loop
import Cartograph.Proofs.Text.Fresh
import Cartograph.Reach

/-!
# Searching with a queue

The search can be run one class at a time, with a queue of the classes that wait for their turn and
the depths at which they were met. The queue always holds the rest of one round in front of what is
known of the next, so taking classes from it until it is empty makes the same rounds, and it meets
the same classes in the same order.
-/

namespace Cartograph

open Text

/-- A search that is under way: the classes met so far, as a set and in order, and those that wait
for their turn, with their depths. -/
structure QueueSearch where
  visited : Std.HashSet ClassId
  order : List ClassId
  queue : List (ClassId × Nat)

namespace QueueSearch

def start (seed : ClassId) : QueueSearch :=
  ⟨(∅ : Std.HashSet ClassId).insert seed, [seed], [(seed, 0)]⟩

/-- A class is met at a depth, unless it may not be entered or was met before. -/
def meet (r : Registry) (depth : Nat) (s : QueueSearch) (id : ClassId) : QueueSearch :=
  if r.admits id && !s.visited.contains id then
    ⟨s.visited.insert id, s.order ++ [id], s.queue ++ [(id, depth)]⟩
  else s

/-- The first class of the queue has its turn: targets of links and then implementations are met,
unless the class is too deep. -/
def step? (g : Graph) (r : Registry) (maxDepth : Nat) (s : QueueSearch) : Option QueueSearch :=
  match s.queue with
  | [] => none
  | (id, depth) :: queue =>
    if maxDepth ≤ depth then some { s with queue }
    else
      let forward := (g.dependencies id).map (·.1)
      let backward :=
        ((g.dependents id).filter fun (_, kinds) => kinds.contains .implementing).map (·.1)
      some ((forward ++ backward).foldl (meet r (depth + 1)) { s with queue })

/-- The search ends, with the classes in the order in which they were met. -/
def Ends (g : Graph) (r : Registry) (maxDepth : Nat) : QueueSearch → List ClassId → Prop :=
  Loop.Ends (step? g r maxDepth) order

/-- The search has met the classes in this order, and its queue is the given one. -/
structure At (s : QueueSearch) (order : List ClassId) (queue : List (ClassId × Nat)) : Prop where
  order_eq : s.order = order
  queue_eq : s.queue = queue
  mem_visited : ∀ id, id ∈ s.visited ↔ id ∈ order

variable {g : Graph} {r : Registry} {maxDepth depth : Nat} {s : QueueSearch}
  {order found : List ClassId} {queue : List (ClassId × Nat)}

lemma at_start (seed : ClassId) : (start seed).At [seed] [(seed, 0)] :=
  ⟨rfl, rfl, fun id => by simp [start, eq_comm (a := seed)]⟩

lemma At.meet_of_not_mem (h : s.At order queue) (depth : Nat) {id : ClassId}
    (hadmits : r.admits id = true) (hnew : id ∉ order) :
    (s.meet r depth id).At (order ++ [id]) (queue ++ [(id, depth)]) := by
  have hvisited : s.visited.contains id = false := by
    rw [← Bool.not_eq_true, Std.HashSet.contains_iff_mem, h.mem_visited]
    exact hnew
  rw [meet, hadmits, hvisited]
  refine ⟨by rw [← h.order_eq]; rfl, by rw [← h.queue_eq]; rfl, fun c => ?_⟩
  change c ∈ s.visited.insert id ↔ c ∈ order ++ [id]
  rw [Std.HashSet.mem_insert, h.mem_visited, beq_iff_eq, List.mem_append, List.mem_singleton,
    or_comm, eq_comm]

/-- The classes that are newly met come at the end, of the order and of the queue. -/
lemma At.foldl_meet (h : s.At order queue) (ids : List ClassId) :
    (ids.foldl (meet r depth) s).At (order ++ fresh order (ids.filter r.admits))
      (queue ++ (fresh order (ids.filter r.admits)).map (·, depth)) := by
  induction ids generalizing s order queue with
  | nil => simpa using h
  | cons id ids ih =>
    rw [List.foldl_cons]
    by_cases hadmits : r.admits id = true
    · rw [List.filter_cons_of_pos hadmits]
      by_cases hmem : id ∈ order
      · have hsame : s.meet r depth id = s := by
          simp [meet, h.mem_visited, hmem]
        rw [hsame, fresh_cons_of_mem hmem]
        exact ih h
      · have hset : ∀ c, c ∈ order ++ [id] ↔ c ∈ id :: order := by
          simp [or_comm]
        have hnext := ih (h.meet_of_not_mem depth hadmits hmem)
        rw [fresh_congr hset] at hnext
        simpa [fresh_cons_of_not_mem hmem] using hnext
    · have hsame : s.meet r depth id = s := by simp [meet, hadmits]
      rw [List.filter_cons_of_neg hadmits, hsame]
      exact ih h

/-- A class that is not too deep meets its neighbours. -/
lemma At.step {id : ClassId} (h : s.At order ((id, depth) :: queue)) (hdepth : depth < maxDepth) :
    ∃ s', s.step? g r maxDepth = some s' ∧
      s'.At (order ++ fresh order (g.neighbours r id))
        (queue ++ (fresh order (g.neighbours r id)).map (·, depth + 1)) := by
  have hrest : QueueSearch.At { s with queue } order queue := ⟨h.order_eq, rfl, h.mem_visited⟩
  refine ⟨_, ?_, hrest.foldl_meet _⟩
  rw [step?, h.queue_eq]
  exact if_neg (by omega)

/-- The rest of a round meets the neighbours of its classes one after the other. The induction is on
these classes, which stand in front of those of the next round. -/
lemma At.ends_of_round {ids : List ClassId} (h : s.At order (ids.map (·, depth) ++ queue))
    (hdepth : depth < maxDepth)
    (hends : ∀ s' : QueueSearch,
      s'.At (order ++ fresh order (ids.flatMap (g.neighbours r)))
        (queue ++ (fresh order (ids.flatMap (g.neighbours r))).map (·, depth + 1)) →
      Ends g r maxDepth s' found) :
    Ends g r maxDepth s found := by
  induction ids generalizing s order queue with
  | nil => exact hends s (by simpa using h)
  | cons id ids ih =>
    obtain ⟨s', hstep, hs'⟩ := h.step hdepth (g := g) (r := r)
    refine Loop.Ends.step hstep (ih (by simpa using hs') fun s'' hs'' => hends s'' ?_)
    have hnew : fresh order (g.neighbours r id) ++
        fresh (order ++ fresh order (g.neighbours r id)) (ids.flatMap (g.neighbours r)) =
        fresh order ((id :: ids).flatMap (g.neighbours r)) := by
      have happend := append_fresh_append order (g.neighbours r id) (ids.flatMap (g.neighbours r))
      rw [List.append_assoc] at happend
      exact List.append_cancel_left happend
    rw [← hnew]
    simpa using hs''

/-- Classes that are too deep leave the queue without a trace. -/
lemma At.ends_of_deep {ids : List ClassId} (h : s.At order (ids.map (·, maxDepth))) :
    Ends g r maxDepth s order := by
  induction ids generalizing s with
  | nil =>
    rw [← h.order_eq]
    exact Loop.Ends.done (by rw [step?, h.queue_eq]; rfl)
  | cons id ids ih =>
    have hstep : s.step? g r maxDepth = some { s with queue := ids.map (·, maxDepth) } := by
      rw [step?, h.queue_eq]
      exact if_pos (Nat.le_refl maxDepth)
    exact Loop.Ends.step hstep (ih ⟨h.order_eq, rfl, h.mem_visited⟩)

lemma At.ends_rounds {rounds : Nat} {last : List ClassId} (h : s.At order (last.map (·, depth)))
    (hdepth : depth + rounds = maxDepth) :
    Ends g r maxDepth s (g.rounds r rounds order last) := by
  induction rounds generalizing s depth order last with
  | zero =>
    obtain rfl : depth = maxDepth := hdepth
    exact h.ends_of_deep
  | succ rounds ih =>
    have hround : s.At order (last.map (·, depth) ++ []) := by simpa using h
    refine hround.ends_of_round (by omega) fun s' hs' => ?_
    unfold Graph.rounds
    split
    · rename_i hnone
      have hdone : s'.At order ([].map (·, maxDepth)) := by simpa [hnone] using hs'
      exact hdone.ends_of_deep
    · exact ih hs' (by omega)

/-- The search with a queue ends, and it ends with the classes that the rounds meet. -/
lemma ends_start_iff (g : Graph) (r : Registry) (seed : ClassId) (maxDepth : Nat)
    (found : List ClassId) :
    Ends g r maxDepth (start seed) found ↔ found = g.reachable r seed maxDepth := by
  have hstart : (start seed).At [seed] ([seed].map (·, 0)) := at_start seed
  have hends : Ends g r maxDepth (start seed) (g.reachable r seed maxDepth) :=
    hstart.ends_rounds (Nat.zero_add maxDepth)
  exact Loop.Ends.iff_eq hends

end QueueSearch

end Cartograph
