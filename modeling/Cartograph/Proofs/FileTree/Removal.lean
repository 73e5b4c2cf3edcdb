import Cartograph.Proofs.FileTree.Pruning
import Cartograph.Proofs.Text.Ascending

/-!
# Removed files

Removing files one after the other leaves the tree in which they are pruned. What can still be read
is read as before, and the source files that are left are those that were not removed, in the same
order.
-/

namespace Cartograph

open Text

/-! ### Removing a file -/

namespace FileTree

variable {gone : List String → Bool}

mutual

lemma prune_eq_self (t : FileTree) (here : List String)
    (h : ∀ name below, gone (here ++ name :: below) = false) : t.prune gone here = t := by
  match t with
  | .file _ => rw [FileTree.prune]
  | .directory es => rw [FileTree.prune, pruneEntries_eq_self es here fun name _ => h name]

lemma pruneEntries_eq_self (es : List (String × FileTree)) (here : List String)
    (h : ∀ name ∈ es.map (·.1), ∀ below, gone (here ++ name :: below) = false) :
    pruneEntries gone here es = es := by
  match es with
  | [] => rw [pruneEntries]
  | (name, node) :: rest =>
    have hname := h name List.mem_cons_self
    have hnode : node.prune gone (here ++ [name]) = node := by
      apply prune_eq_self node
      intro next below
      rw [List.append_assoc]
      exact hname (next :: below)
    rw [pruneEntries, hname [], hnode, Bool.not_false, Bool.or_true, if_pos rfl,
      pruneEntries_eq_self rest here fun other hmem => h other (List.mem_cons_of_mem _ hmem)]

end

mutual

lemma prune_prune (gone' : List String → Bool) (t : FileTree) (here : List String) :
    (t.prune gone here).prune gone' here =
      t.prune (fun parts => gone parts || gone' parts) here := by
  match t with
  | .file _ => simp only [FileTree.prune]
  | .directory es => simp only [FileTree.prune, pruneEntries_pruneEntries gone' es here]

lemma pruneEntries_pruneEntries (gone' : List String → Bool) (es : List (String × FileTree))
    (here : List String) :
    pruneEntries gone' here (pruneEntries gone here es) =
      pruneEntries (fun parts => gone parts || gone' parts) here es := by
  match es with
  | [] => simp only [pruneEntries]
  | (name, node) :: rest =>
    have ih := pruneEntries_pruneEntries gone' rest here
    have hnode := prune_prune gone' node (here ++ [name])
    cases hdirectory : node.isDirectory <;> cases hgone : gone (here ++ [name]) <;>
      cases hgone' : gone' (here ++ [name]) <;>
      simp [pruneEntries, hdirectory, hgone, hgone', ih, hnode]

end

/-- Of a directory, only what lies at or below one entry is given up. -/
def OnlyAt (gone : List String → Bool) (here : List String) (p : String) : Prop :=
  ∀ name below, name ≠ p → gone (here ++ name :: below) = false

section

variable {here : List String} {p : String} {es : List (String × FileTree)} {node : FileTree}

lemma prune_other (h : OnlyAt gone here p) {name : String} (hname : name ≠ p) (t : FileTree) :
    t.prune gone (here ++ [name]) = t := by
  apply prune_eq_self
  intro next below
  rw [List.append_assoc]
  exact h name _ hname

lemma pruneEntries_others (h : OnlyAt gone here p) (hp : p ∉ es.map (·.1)) :
    pruneEntries gone here es = es := by
  apply pruneEntries_eq_self
  intro name hname below
  exact h name below fun heq => hp (heq ▸ hname)

lemma pruneEntries_of_kept (h : OnlyAt gone here p) (hwf : EntriesWellFormed es)
    (hlookup : es.lookup p = some node)
    (hkept : (node.isDirectory || !gone (here ++ [p])) = true) :
    pruneEntries gone here es = setEntry p (node.prune gone (here ++ [p])) es := by
  induction es with
  | nil => cases hlookup
  | cons e rest ih =>
    obtain ⟨name, first⟩ := e
    obtain ⟨-, hnew, -, hrest⟩ := hwf
    rw [pruneEntries, setEntry]
    by_cases hname : name = p
    · subst hname
      rw [List.lookup_cons_self] at hlookup
      cases hlookup
      rw [if_pos hkept, if_pos rfl, pruneEntries_others h hnew]
    · rw [List.lookup_cons, beq_false_of_ne (Ne.symm hname)] at hlookup
      rw [h name [] hname, prune_other h hname, if_neg hname, Bool.not_false, Bool.or_true,
        if_pos rfl, ih hrest hlookup]

lemma pruneEntries_of_gone (h : OnlyAt gone here p) (hwf : EntriesWellFormed es)
    (hlookup : es.lookup p = some node)
    (hgone : (node.isDirectory || !gone (here ++ [p])) = false) :
    pruneEntries gone here es = es.filter fun e => e.1 != p := by
  induction es with
  | nil => cases hlookup
  | cons e rest ih =>
    obtain ⟨name, first⟩ := e
    obtain ⟨-, hnew, -, hrest⟩ := hwf
    rw [pruneEntries, List.filter_cons]
    by_cases hname : name = p
    · subst hname
      rw [List.lookup_cons_self] at hlookup
      cases hlookup
      have hothers : rest.filter (fun e => e.1 != name) = rest := by
        rw [List.filter_eq_self]
        intro e he
        rw [bne_iff_ne]
        rintro rfl
        exact hnew (List.mem_map_of_mem he)
      rw [hgone, if_neg Bool.false_ne_true, bne_self_eq_false, if_neg Bool.false_ne_true, hothers,
        pruneEntries_others h hnew]
    · rw [List.lookup_cons, beq_false_of_ne (Ne.symm hname)] at hlookup
      rw [h name [] hname, prune_other h hname, bne_iff_ne.mpr hname, Bool.not_false,
        Bool.or_true, if_pos rfl, if_pos rfl, ih hrest hlookup]

/-- Removing a file is pruning it. -/
lemma remove?_eq_prune {t : FileTree} {ps : List String} {content : Except IoFault ByteArray}
    (hwf : t.WellFormed) (hne : ps ≠ []) (hfile : t.at? ps = some (.file content))
    (here : List String) : t.remove? ps = some (t.prune (· == here ++ ps) here) := by
  induction ps generalizing t here with
  | nil => exact absurd rfl hne
  | cons p ps ih =>
    cases t with
    | file => cases hfile
    | directory es =>
      obtain ⟨child, hlookup, hfile⟩ := Option.bind_eq_some_iff.mp hfile
      have hlookup : es.lookup p = some child := hlookup
      have honly : OnlyAt (· == here ++ p :: ps) here p := by
        intro name below hname
        simp [hname]
      have hchild := (hwf.of_mem (mem_of_lookup hlookup)).2.1
      cases ps with
      | nil =>
        cases hfile
        have hpruned : pruneEntries (· == here ++ [p]) here es = es.filter fun e => e.1 != p :=
          pruneEntries_of_gone honly hwf hlookup (by simp [isDirectory])
        rw [remove?, hlookup, FileTree.prune, hpruned]
        rfl
      | cons q qs =>
        have hdirectory := isDirectory_of_at? (List.cons_ne_nil q qs) hfile
        have hrest := ih hchild (List.cons_ne_nil q qs) hfile (here ++ [p])
        rw [List.append_assoc, List.singleton_append] at hrest
        rw [remove?, hlookup, Option.bind_some, hrest, Option.map_some, FileTree.prune,
          pruneEntries_of_kept honly hwf hlookup (by rw [hdirectory, Bool.true_or])]

end

end FileTree

/-! ### The order of files -/

namespace Path

lemma inOrder_cons_cons {a b : String} {as bs : List String} :
    inOrder (a :: as) (b :: bs) = true ↔ a < b ∨ a = b ∧ inOrder as bs = true := by
  simp [inOrder]

lemma inOrder_trans (as bs cs : List String) (hab : inOrder as bs = true)
    (hbc : inOrder bs cs = true) : inOrder as cs = true := by
  induction as generalizing bs cs with
  | nil => rfl
  | cons a as ih =>
    cases bs with
    | nil => cases hab
    | cons b bs =>
      cases cs with
      | nil => cases hbc
      | cons c cs =>
        rw [inOrder_cons_cons] at hab hbc ⊢
        rcases hab with hab | ⟨rfl, hab⟩ <;> rcases hbc with hbc | ⟨rfl, hbc⟩
        · exact .inl (String.lt_trans hab hbc)
        · exact .inl hab
        · exact .inl hbc
        · exact .inr ⟨rfl, ih bs cs hab hbc⟩

lemma inOrder_total (as bs : List String) : (inOrder as bs || inOrder bs as) = true := by
  induction as generalizing bs with
  | nil => rfl
  | cons a as ih =>
    cases bs with
    | nil => rfl
    | cons b bs =>
      have hrest := ih bs
      rw [Bool.or_eq_true] at hrest ⊢
      rw [inOrder_cons_cons, inOrder_cons_cons]
      by_cases hab : a = b
      · subst hab
        exact hrest.imp (fun h => .inr ⟨rfl, h⟩) fun h => .inr ⟨rfl, h⟩
      · rcases String.le_total a b with hle | hle
        · exact .inl (.inl (String.not_le.mp fun hge => hab (String.le_antisymm hle hge)))
        · exact .inr (.inl (String.not_le.mp fun hge => hab (String.le_antisymm hge hle)))

lemma inOrder_antisymm (as bs : List String) (hab : inOrder as bs = true)
    (hba : inOrder bs as = true) : as = bs := by
  induction as generalizing bs with
  | nil =>
    cases bs with
    | nil => rfl
    | cons => cases hba
  | cons a as ih =>
    cases bs with
    | nil => cases hab
    | cons b bs =>
      rw [inOrder_cons_cons] at hab hba
      rcases hab with hab | ⟨rfl, hab⟩
      · rcases hba with hba | ⟨rfl, -⟩
        · exact absurd hba (String.lt_asymm hab)
        · exact absurd hab (String.lt_irrefl _)
      · rcases hba with hba | ⟨-, hba⟩
        · exact absurd hba (String.lt_irrefl _)
        · rw [ih bs hab hba]

end Path

/-! ### Removing files from a disk -/

namespace Disk

variable {d : Disk} {removed : List (List String)}

/-- The disk without what a path leads to. -/
def remove? (d : Disk) (path : String) : Option Disk :=
  (d.parts path).toOption.bind fun parts =>
    (d.tree.remove? parts).map fun tree => { d with tree }

/-- The disk without the files at the parts. -/
def without (d : Disk) (removed : List (List String)) : Disk :=
  { d with tree := d.tree.prune removed.contains [] }

lemma at?_without_of_directory (hwf : d.tree.WellFormed) {parts : List String}
    {es : List (String × FileTree)} (hes : d.tree.at? parts = some (.directory es)) :
    (d.without removed).tree.at? parts =
      some (.directory (FileTree.pruneEntries removed.contains parts es)) := by
  rw [without, FileTree.at?_prune_of_kept hwf hes (.inl rfl), FileTree.prune]

lemma at?_without_of_file (hwf : d.tree.WellFormed) {parts : List String}
    {content : Except IoFault ByteArray} (hfile : d.tree.at? parts = some (.file content))
    (hkept : parts ∉ removed) :
    (d.without removed).tree.at? parts = some (.file content) := by
  rw [without, FileTree.at?_prune_of_kept hwf hfile (.inr (by simpa using hkept)), FileTree.prune]

lemma parts_without (hwf : d.tree.WellFormed) {path : String} {parts : List String}
    (h : d.parts path = .ok parts) {node : FileTree} (hnode : d.tree.at? parts = some node)
    (hkept : node.isDirectory = true ∨ parts ∉ removed) :
    (d.without removed).parts path = .ok parts := by
  rw [Disk.parts] at h ⊢
  split_ifs at h ⊢ with hempty
  exact FileTree.follow_prune hwf h hnode (by simpa using hkept)

lemma read_without (hwf : d.tree.WellFormed) {path : String} {parts : List String}
    (h : d.parts path = .ok parts) {content : Except IoFault ByteArray}
    (hfile : d.tree.at? parts = some (.file content)) (hkept : parts ∉ removed) :
    (d.without removed).read path = d.read path := by
  rw [read_of_file h hfile, read_of_file (parts_without hwf h hfile (.inr hkept))
    (at?_without_of_file hwf hfile hkept)]

lemma remove?_of_file (hwf : d.tree.WellFormed) {parts : List String} (hne : parts ≠ [])
    (h : d.parts (Path.ofParts parts) = .ok parts) {content : Except IoFault ByteArray}
    (hfile : d.tree.at? parts = some (.file content)) :
    d.remove? (Path.ofParts parts) = some (d.without [parts]) := by
  have hone : (· == [] ++ parts) = [parts].contains :=
    funext fun _ => by simp [beq_eq_decide]
  rw [remove?, h, without, ← hone]
  simp only [Except.toOption, Option.bind_some, FileTree.remove?_eq_prune hwf hne hfile [],
    Option.map_some]

lemma without_without (d : Disk) (parts : List String) (rest : List (List String)) :
    (d.without [parts]).without rest = d.without (parts :: rest) := by
  have hboth : (fun qs => [parts].contains qs || rest.contains qs) = (parts :: rest).contains :=
    funext fun _ => by simp
  rw [without, without, without, FileTree.prune_prune, hboth]

/-- Removing files one after the other leaves the disk without them. -/
lemma foldlM_remove? (hwf : d.tree.WellFormed) (hnodup : removed.Nodup)
    (hfiles : ∀ parts ∈ removed, parts ≠ [] ∧ d.parts (Path.ofParts parts) = .ok parts ∧
      ∃ content, d.tree.at? parts = some (.file content)) :
    (removed.map Path.ofParts).foldlM remove? d = some (d.without removed) := by
  induction removed generalizing d with
  | nil =>
    rw [without, FileTree.prune_eq_self d.tree []]
    · rfl
    · simp
  | cons parts rest ih =>
    obtain ⟨hne, hparts, content, hfile⟩ := hfiles parts List.mem_cons_self
    obtain ⟨hnew, hnodup⟩ := List.nodup_cons.mp hnodup
    have hlater : ∀ qs ∈ rest, qs ≠ [] ∧ (d.without [parts]).parts (Path.ofParts qs) = .ok qs ∧
        ∃ content, (d.without [parts]).tree.at? qs = some (.file content) := by
      intro qs hqs
      obtain ⟨hne, hparts, content, hfile⟩ := hfiles qs (List.mem_cons_of_mem parts hqs)
      have hother : qs ∉ [parts] := by
        rw [List.mem_singleton]
        rintro rfl
        exact hnew hqs
      exact ⟨hne, parts_without hwf hparts hfile (.inr hother), content,
        at?_without_of_file hwf hfile hother⟩
    rw [List.map_cons, List.foldlM_cons, remove?_of_file hwf hne hparts hfile,
      ← without_without d parts rest]
    exact ih (FileTree.WellFormed.prune d.tree [] hwf) hnodup hlater

lemma HasRoot.without {root : String} {parts : List String} (h : d.HasRoot root parts)
    (hwf : d.tree.WellFormed) (removed : List (List String)) :
    (d.without removed).HasRoot root parts := by
  obtain ⟨es, hes⟩ := h.directory
  exact ⟨h.root_eq, parts_without hwf h.parts_eq hes (.inl rfl),
    ⟨_, at?_without_of_directory hwf hes⟩, h.entries⟩

lemma projectRoot_without (hwf : d.tree.WellFormed) {path root : String}
    (h : d.projectRoot path = .ok root) (removed : List (List String)) :
    (d.without removed).projectRoot path = .ok root := by
  obtain ⟨parts, hparts, hroot⟩ := exists_hasRoot h
  obtain ⟨es, hes⟩ := hroot.directory
  have hsame : (d.without removed).parts path = .ok parts :=
    parts_without hwf hparts hes (.inl rfl)
  have hdirectory : (d.without removed).isDirectory path = true := by
    simp [Disk.isDirectory, node?, hsame, Except.toOption, at?_without_of_directory hwf hes,
      FileTree.isDirectory]
  exact projectRoot_eq_ok_iff.mpr
    ⟨hdirectory, canonical_eq_ok_iff.mpr ⟨parts, hsame, hroot.root_eq⟩⟩

lemma HasRoot.sourceParts_without {s : ScanSettings} {pattern : PackagePattern} {root : String}
    {parts : List String} (h : d.HasRoot root parts) (hwf : d.tree.WellFormed)
    (hgone : FileTree.WithExtension removed.contains) :
    (d.without removed).sourceParts s root pattern parts =
      (d.sourceParts s root pattern parts).filter fun below =>
        !removed.contains (parts ++ below) := by
  obtain ⟨es, hes⟩ := h.directory
  have hsets : (d.without removed).tree.setsAbove s.respectGitignore parts =
      d.tree.setsAbove s.respectGitignore parts :=
    FileTree.setsAbove_prune hwf hgone s.respectGitignore hes
  have hwalk := FileTree.walk_prune (.directory es) (hwf.at? hes) hgone s.respectGitignore
    (d.tree.setsAbove s.respectGitignore parts) parts (.inl rfl)
  rw [FileTree.prune] at hwalk
  simp only [sourceParts, at?_without_of_directory hwf hes, hes]
  rw [← Text.mergeSort_filter_of_linear Path.inOrder_trans Path.inOrder_total
    Path.inOrder_antisymm, List.filter_filter, hsets, hwalk, List.filter_map, List.filter_map,
    List.filter_filter]
  congr 2
  apply List.filter_congr
  intro found hfound
  obtain ⟨below, -, rfl, -⟩ := FileTree.exists_of_mem_walk _ _ (hwf.at? hes) hfound
  simp [Bool.and_comm]

/-- The source files that are left are those that are not removed. -/
lemma HasRoot.sourcePlaces_without {s : ScanSettings} {pattern : PackagePattern} {root : String}
    {parts : List String} (h : d.HasRoot root parts) (hwf : d.tree.WellFormed)
    (hgone : FileTree.WithExtension removed.contains) :
    (d.without removed).sourcePlaces s root pattern parts =
      (d.sourcePlaces s root pattern parts).filter fun place => !removed.contains place := by
  rw [sourcePlaces, sourcePlaces, h.sourceParts_without hwf hgone, List.filter_map]
  rfl

end Disk

end Cartograph
