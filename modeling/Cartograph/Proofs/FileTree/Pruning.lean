import Cartograph.Proofs.FileTree.Walk

/-!
# Pruned trees

A tree is pruned by giving up some of its files; the directories stay. Paths to what is kept lead
there as before. If each file that is given up has an extension, no rule is lost, as no file of
rules has one: a walk then finds what it found before, but for these files.
-/

namespace Cartograph

open Text Ignore

namespace FileTree

mutual

/-- The tree without the files at the parts that are given up; `here` are the parts that lead to
it. -/
def prune (gone : List String → Bool) (here : List String) : FileTree → FileTree
  | .file content => .file content
  | .directory es => .directory (pruneEntries gone here es)

/-- The entries of a directory without the files that are given up. -/
def pruneEntries (gone : List String → Bool) (here : List String) :
    List (String × FileTree) → List (String × FileTree)
  | [] => []
  | (name, node) :: rest =>
    if node.isDirectory || !gone (here ++ [name]) then
      (name, node.prune gone (here ++ [name])) :: pruneEntries gone here rest
    else pruneEntries gone here rest

end

variable {gone : List String → Bool}

@[simp] lemma isDirectory_prune (here : List String) (t : FileTree) :
    (t.prune gone here).isDirectory = t.isDirectory := by
  cases t <;> simp [prune, isDirectory]

lemma mem_names_pruneEntries {here : List String} {es : List (String × FileTree)} {name : String}
    (h : name ∈ (pruneEntries gone here es).map (·.1)) : name ∈ es.map (·.1) := by
  induction es with
  | nil => exact h
  | cons e rest ih =>
    obtain ⟨other, node⟩ := e
    rw [pruneEntries] at h
    split_ifs at h
    · rcases List.mem_cons.mp h with rfl | h
      · exact List.mem_cons_self
      · exact List.mem_cons_of_mem _ (ih h)
    · exact List.mem_cons_of_mem _ (ih h)

mutual

lemma WellFormed.prune (t : FileTree) (here : List String) (h : t.WellFormed) :
    (t.prune gone here).WellFormed := by
  match t with
  | .file _ =>
    rw [FileTree.prune]
    exact h
  | .directory es =>
    rw [FileTree.prune]
    exact EntriesWellFormed.prune es here h

lemma EntriesWellFormed.prune (es : List (String × FileTree)) (here : List String)
    (h : EntriesWellFormed es) : EntriesWellFormed (pruneEntries gone here es) := by
  match es with
  | [] =>
    rw [pruneEntries]
    exact h
  | (name, node) :: rest =>
    obtain ⟨hname, hnew, hnode, hrest⟩ := h
    rw [pruneEntries]
    split_ifs
    · exact ⟨hname, fun hmem => hnew (mem_names_pruneEntries hmem),
        WellFormed.prune node _ hnode, EntriesWellFormed.prune rest here hrest⟩
    · exact EntriesWellFormed.prune rest here hrest

end

lemma lookup_pruneEntries_of_not_mem {here : List String} {es : List (String × FileTree)}
    {p : String} (h : p ∉ es.map (·.1)) : (pruneEntries gone here es).lookup p = none := by
  rw [List.lookup_eq_none_iff]
  intro e he
  have hmem := mem_names_pruneEntries (List.mem_map_of_mem he)
  rw [bne_iff_ne]
  rintro rfl
  exact h hmem

lemma lookup_pruneEntries {es : List (String × FileTree)} (hwf : EntriesWellFormed es)
    (here : List String) (p : String) :
    (pruneEntries gone here es).lookup p =
      ((es.lookup p).filter fun node => node.isDirectory || !gone (here ++ [p])).map
        fun node => node.prune gone (here ++ [p]) := by
  induction es with
  | nil => simp [pruneEntries]
  | cons e rest ih =>
    obtain ⟨name, node⟩ := e
    obtain ⟨-, hnew, -, hrest⟩ := hwf
    rw [pruneEntries]
    by_cases hp : p = name
    · subst hp
      rw [List.lookup_cons_self]
      split_ifs with hkept
      · simp [Option.filter, hkept]
      · simp [Option.filter, hkept, lookup_pruneEntries_of_not_mem hnew]
    · rw [List.lookup_cons, beq_false_of_ne hp]
      split_ifs
      · rw [List.lookup_cons, beq_false_of_ne hp]
        exact ih hrest
      · exact ih hrest

/-- What the parts lead to in the pruned tree. -/
lemma at?_prune {t : FileTree} (hwf : t.WellFormed) (here : List String) {ps : List String}
    (hne : ps ≠ []) :
    (t.prune gone here).at? ps =
      ((t.at? ps).filter fun node => node.isDirectory || !gone (here ++ ps)).map
        fun node => node.prune gone (here ++ ps) := by
  induction ps generalizing t here with
  | nil => exact absurd rfl hne
  | cons p ps ih =>
    cases t with
    | file content => simp [FileTree.prune, at?, entries]
    | directory es =>
      rw [FileTree.prune, at?, at?, entries, entries, lookup_pruneEntries hwf]
      cases hlookup : es.lookup p with
      | none => rfl
      | some child =>
        have hchild := (hwf.of_mem (mem_of_lookup hlookup)).2.1
        cases ps with
        | nil =>
          simp only [at?, Option.bind_some]
          cases hkept : child.isDirectory || !gone (here ++ [p]) <;> simp [Option.filter, hkept]
        | cons q qs =>
          have hrest := ih hchild (here ++ [p]) (List.cons_ne_nil q qs)
          rw [List.append_assoc, List.singleton_append] at hrest
          cases hkept : child.isDirectory || !gone (here ++ [p]) with
          | true => simpa [Option.filter, hkept] using hrest
          | false =>
            cases child with
            | file content => simp [Option.filter, hkept, at?, entries]
            | directory => cases hkept

lemma at?_prune_of_kept {t node : FileTree} (hwf : t.WellFormed) {ps : List String}
    (hnode : t.at? ps = some node) (hkept : node.isDirectory = true ∨ gone ps = false) :
    (t.prune gone []).at? ps = some (node.prune gone ps) := by
  cases ps with
  | nil =>
    cases hnode
    rfl
  | cons p ps =>
    rw [at?_prune hwf [] (List.cons_ne_nil p ps), hnode, List.nil_append]
    rcases hkept with hkept | hkept <;> simp [Option.filter, hkept]

/-- If a path leads to something that is kept, so is everything on the way. -/
lemma kept_of_follow {t node child : FileTree} {here ps parts : List String}
    (h : t.follow here ps = .ok parts) (hnode : t.at? parts = some node)
    (hkept : node.isDirectory = true ∨ gone parts = false)
    (hchild : t.at? here.reverse = some child) :
    child.isDirectory = true ∨ gone here.reverse = false := by
  cases ps with
  | nil =>
    cases h
    cases hnode.symm.trans hchild
    exact hkept
  | cons p ps =>
    rw [follow, hchild] at h
    cases child with
    | file => cases h
    | directory => exact .inl rfl

lemma follow_prune {t node : FileTree} (hwf : t.WellFormed) {here ps parts : List String}
    (h : t.follow here ps = .ok parts) (hnode : t.at? parts = some node)
    (hkept : node.isDirectory = true ∨ gone parts = false) :
    (t.prune gone []).follow here ps = .ok parts := by
  induction ps generalizing here with
  | nil => exact h
  | cons p ps ih =>
    rw [follow] at h
    split at h
    · rename_i es hdirectory
      have hpruned : (t.prune gone []).at? here.reverse =
          some (.directory (pruneEntries gone here.reverse es)) := by
        rw [at?_prune_of_kept hwf hdirectory (.inl rfl), FileTree.prune]
      rw [follow, hpruned]
      split_ifs at h with hfiller hup hfound
      · simp only [hfiller, if_true]
        exact ih h
      · simp only [hup, if_true]
        exact ih h
      · obtain ⟨child, hlookup⟩ := Option.isSome_iff_exists.mp hfound
        have hat : t.at? (p :: here).reverse = some child := by
          rw [List.reverse_cons, at?_concat hdirectory]
          exact hlookup
        have hstays : ((pruneEntries gone here.reverse es).lookup p).isSome = true := by
          have hthere := kept_of_follow h hnode hkept hat
          rw [List.reverse_cons] at hthere
          rw [lookup_pruneEntries (hwf.at? hdirectory), hlookup]
          rcases hthere with hthere | hthere <;> simp [Option.filter, hthere]
        simp only [hfiller, hup, hstays, if_true, if_false, Bool.false_eq_true]
        exact ih h
    · cases h

/-! ### Walks -/

/-- Only files with an extension are given up. -/
def WithExtension (gone : List String → Bool) : Prop :=
  ∀ above name, gone (above ++ [name]) = true → '.' ∈ name.toList.drop 1

lemma WithExtension.not_gone (h : WithExtension gone) (above : List String) (name : String)
    (hname : '.' ∉ name.toList.drop 1) : gone (above ++ [name]) = false := by
  rw [← Bool.not_eq_true]
  exact fun hgone => hname (h above name hgone)

lemma rulesAt_prune {t : FileTree} (hwf : t.WellFormed) {here ps : List String} (hne : ps ≠ [])
    (hkept : gone (here ++ ps) = false) : rulesAt (t.prune gone here) ps = rulesAt t ps := by
  rw [rulesAt, rulesAt, at?_prune hwf here hne, hkept]
  cases t.at? ps with
  | none => rfl
  | some node => cases node <;> simp [FileTree.prune, Option.filter]

/-- The rules of a directory are kept. -/
lemma ofDirectory_prune {t : FileTree} (hwf : t.WellFormed) (hgone : WithExtension gone)
    (withVersioned : Bool) (depth : Nat) (here : List String) :
    RuleSet.ofDirectory withVersioned depth (t.prune gone here) =
      RuleSet.ofDirectory withVersioned depth t := by
  have hown := hgone.not_gone here ".atlasignore" (by decide)
  have hgeneral := hgone.not_gone here ".ignore" (by decide)
  have hversioned := hgone.not_gone here ".gitignore" (by decide)
  have hrepository := hgone.not_gone (here ++ [".git", "info"]) "exclude" (by decide)
  have htop := hgone.not_gone here ".git" (by decide)
  rw [List.append_assoc, List.cons_append, List.cons_append, List.nil_append] at hrepository
  have hdirectory : ((t.prune gone here).at? [".git"]).isSome = (t.at? [".git"]).isSome := by
    rw [at?_prune hwf here (List.cons_ne_nil _ _), htop]
    cases t.at? [".git"] <;> simp
  rw [RuleSet.ofDirectory, RuleSet.ofDirectory, hdirectory,
    rulesAt_prune hwf (List.cons_ne_nil _ _) hown,
    rulesAt_prune hwf (List.cons_ne_nil _ _) hgeneral,
    rulesAt_prune hwf (List.cons_ne_nil _ _) hversioned,
    rulesAt_prune hwf (List.cons_ne_nil _ _) hrepository]

mutual

/-- A walk through the pruned tree passes over the files that are given up, and over nothing
else. -/
lemma walk_prune (t : FileTree) (hwf : t.WellFormed) (hgone : WithExtension gone)
    (withVersioned : Bool) (sets : List RuleSet) (here : List String)
    (hkept : t.isDirectory = true ∨ gone here = false) :
    (t.prune gone here).walk withVersioned sets here =
      (t.walk withVersioned sets here).filter fun parts => !gone parts := by
  match t with
  | .file content =>
    have hhere : gone here = false := hkept.resolve_left Bool.false_ne_true
    simp [FileTree.prune, walk, hhere]
  | .directory es =>
    have hrules := ofDirectory_prune hwf hgone withVersioned here.length here
    rw [FileTree.prune] at hrules
    rw [FileTree.prune, walk, walk, hrules]
    exact walkEntries_prune es hwf hgone withVersioned _ here

lemma walkEntries_prune (es : List (String × FileTree)) (hwf : EntriesWellFormed es)
    (hgone : WithExtension gone) (withVersioned : Bool) (sets : List RuleSet)
    (here : List String) :
    walkEntries withVersioned sets here (pruneEntries gone here es) =
      (walkEntries withVersioned sets here es).filter fun parts => !gone parts := by
  match es with
  | [] => simp [pruneEntries, walkEntries]
  | (name, node) :: rest =>
    obtain ⟨-, -, hnode, hrest⟩ := hwf
    have ih := walkEntries_prune rest hrest hgone withVersioned sets here
    rw [pruneEntries, walkEntries, List.filter_append]
    split_ifs with hkept hignored
    · rw [walkEntries, isDirectory_prune, if_pos hignored, ih, List.filter_nil]
    · rw [walkEntries, isDirectory_prune, if_neg hignored, ih]
      rw [walk_prune node hnode hgone withVersioned sets (here ++ [name]) (by simpa using hkept)]
    · rw [ih, List.filter_nil, List.nil_append]
    · cases node with
      | file content =>
        have hgiven : gone (here ++ [name]) = true := by simpa [isDirectory] using hkept
        rw [ih, walk]
        simp [hgiven]
      | directory => exact absurd rfl hkept

end

/-- The rules above a directory are kept. -/
lemma setsAbove_prune {t : FileTree} (hwf : t.WellFormed) (hgone : WithExtension gone)
    (withVersioned : Bool) {parts : List String} {es : List (String × FileTree)}
    (hes : t.at? parts = some (.directory es)) :
    (t.prune gone []).setsAbove withVersioned parts = t.setsAbove withVersioned parts := by
  apply List.filterMap_congr
  intro depth hdepth
  rw [List.mem_reverse, List.mem_range] at hdepth
  rw [← List.take_append_drop depth parts, at?_append] at hes
  obtain ⟨node, hnode, hbelow⟩ := Option.bind_eq_some_iff.mp hes
  have hdirectory : node.isDirectory = true :=
    isDirectory_of_at? (List.drop_eq_nil_iff.not.mpr (Nat.not_le.mpr hdepth)) hbelow
  rw [at?_prune_of_kept hwf hnode (.inl hdirectory), hnode, Option.map_some, Option.map_some,
    ofDirectory_prune (hwf.at? hnode) hgone]

end FileTree

end Cartograph
