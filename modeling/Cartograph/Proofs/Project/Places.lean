import Cartograph.Project
import Mathlib.Data.List.Basic

/-!
# Questions answered from the index

A project answers questions about a class from its index, which only knows places. The answers are
those that a search through the whole lists would give: all edges and members of the class, in the
order of the lists.
-/

namespace Cartograph

namespace Places

variable {α : Type} {key? : α → Option ClassId}

lemma lookup_addTo (id other : ClassId) (place : Nat) (rows : List (ClassId × List Nat)) :
    (addTo id place rows).lookup other =
      if other = id then some ((rows.lookup other).getD [] ++ [place]) else rows.lookup other := by
  fun_induction addTo id place rows with
  | case1 =>
    by_cases h : other = id
    · simp [h]
    · simp [List.lookup_cons, beq_false_of_ne h, h]
  | case2 places rows =>
    by_cases h : other = id
    · simp [h]
    · simp [List.lookup_cons, beq_false_of_ne h, h]
  | case3 first places rows hne ih =>
    by_cases h : other = first
    · subst h
      simp [hne]
    · simp [List.lookup_cons, beq_false_of_ne h, ih]

/-- One step of the pass over the list: the row of a class grows by the place of its entry. -/
lemma lookup_add (t : Places) (id? : Option ClassId) (place : Nat) (id : ClassId) :
    (t.add id? place).rows.lookup id =
      if id? = some id then some (t.placesOf id ++ [place]) else t.rows.lookup id := by
  cases id? with
  | none => simp [add]
  | some other => simp [add, lookup_addTo, placesOf, eq_comm]

lemma placesOf_add (t : Places) (id? : Option ClassId) (place : Nat) (id : ClassId) :
    (t.add id? place).placesOf id =
      t.placesOf id ++ if id? = some id then [place] else [] := by
  rw [placesOf, lookup_add]
  split_ifs <;> simp [placesOf]

lemma contains_add (t : Places) (id? : Option ClassId) (place : Nat) (id : ClassId) :
    (t.add id? place).contains id = (t.contains id || id? == some id) := by
  rw [contains, lookup_add]
  split_ifs with h <;> simp [contains, h]

/-- The whole pass: to the places that are there come those of the entries, in order. -/
lemma placesOf_foldl (entries : List (α × Nat)) (t : Places) (id : ClassId) :
    (entries.foldl (fun t (entry, place) => t.add (key? entry) place) t).placesOf id =
      t.placesOf id ++ (entries.filter fun x => key? x.1 == some id).map (·.2) := by
  induction entries generalizing t with
  | nil => simp
  | cons x entries ih =>
    rw [List.foldl_cons, ih, placesOf_add, List.append_assoc]
    by_cases h : key? x.1 = some id <;> simp [h]

lemma contains_foldl (entries : List (α × Nat)) (t : Places) (id : ClassId) :
    (entries.foldl (fun t (entry, place) => t.add (key? entry) place) t).contains id =
      (t.contains id || entries.any fun x => key? x.1 == some id) := by
  induction entries generalizing t with
  | nil => simp
  | cons x entries ih => rw [List.foldl_cons, ih, contains_add, Bool.or_assoc, List.any_cons]

/-- At the places that are kept for a class stand its entries and no others. -/
lemma entriesOf_of (key? : α → Option ClassId) (entries : List α) (id : ClassId) :
    (Places.of key? entries).entriesOf entries id = entries.filter (key? · == some id) := by
  have hplaces : (Places.of key? entries).placesOf id =
      (entries.zipIdx.filter fun x => key? x.1 == some id).map (·.2) := by
    rw [of, placesOf_foldl]
    rfl
  have hread : ∀ x ∈ entries.zipIdx.filter (fun x => key? x.1 == some id),
      entries[x.2]? = some x.1 := by
    intro x hx
    exact List.mem_zipIdx_iff_getElem?.mp (List.mem_of_mem_filter hx)
  calc (Places.of key? entries).entriesOf entries id
      = (entries.zipIdx.filter fun x => key? x.1 == some id).filterMap
          fun x => entries[x.2]? := by rw [entriesOf, hplaces, List.filterMap_map]; rfl
    _ = (entries.zipIdx.filter fun x => key? x.1 == some id).map (·.1) := by
        rw [List.filterMap_congr hread, ← List.filterMap_eq_map]; rfl
    _ = (entries.zipIdx.map (·.1)).filter (key? · == some id) := by
        rw [List.filter_map]; rfl
    _ = entries.filter (key? · == some id) := by rw [List.zipIdx_map_fst]

lemma contains_of (key? : α → Option ClassId) (entries : List α) (id : ClassId) :
    (Places.of key? entries).contains id = entries.any (key? · == some id) := by
  rw [of, contains_foldl]
  conv_rhs => rw [← List.zipIdx_map_fst 0 entries, List.any_map]
  rfl

end Places

namespace ProjectData

variable (p : ProjectData) (id : ClassId)

lemma edgesFrom_eq_filter : p.edgesFrom id = p.edges.filter (·.source == id) := by
  rw [edgesFrom, p.index_eq]
  exact Places.entriesOf_of _ _ _

lemma edgesTo_eq_filter : p.edgesTo id = p.edges.filter (·.targetClass == some id) := by
  rw [edgesTo, p.index_eq]
  exact Places.entriesOf_of _ _ _

lemma membersOf_eq_filter : p.membersOf id = p.members.filter (·.classId == id) := by
  rw [membersOf, p.index_eq]
  exact Places.entriesOf_of _ _ _

lemma hasMembers_eq_any : p.hasMembers id = p.members.any (·.classId == id) := by
  rw [hasMembers, p.index_eq]
  exact Places.contains_of _ _ _

end ProjectData

end Cartograph
