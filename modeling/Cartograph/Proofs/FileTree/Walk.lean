import Cartograph.Proofs.FileTree.Canonical
import Mathlib.Data.List.Nodup

/-!
# What a walk finds

In a well-formed tree the entries of a directory have names that differ. A walk then finds files
only, each of them once, and the path of a file that it finds leads back to the file.
-/

namespace Cartograph

open Text

namespace FileTree

/-! ### Well-formed trees -/

mutual

/-- The entries of every directory have names of entries, each of them a different one. -/
def WellFormed : FileTree → Prop
  | .file _ => True
  | .directory es => EntriesWellFormed es

/-- The entries are those of a directory of a well-formed tree. -/
def EntriesWellFormed : List (String × FileTree) → Prop
  | [] => True
  | (name, node) :: rest =>
    Path.IsEntry name ∧ name ∉ rest.map (·.1) ∧ node.WellFormed ∧ EntriesWellFormed rest

end

mutual

def decideWellFormed : (t : FileTree) → Decidable t.WellFormed
  | .file _ => .isTrue trivial
  | .directory es => decideEntriesWellFormed es

def decideEntriesWellFormed : (es : List (String × FileTree)) → Decidable (EntriesWellFormed es)
  | [] => .isTrue trivial
  | (_, node) :: rest =>
    have := node.decideWellFormed
    have := decideEntriesWellFormed rest
    inferInstanceAs (Decidable (_ ∧ _ ∧ _ ∧ _))

end

instance : DecidablePred WellFormed := decideWellFormed

lemma EntriesWellFormed.of_mem {es : List (String × FileTree)} (h : EntriesWellFormed es)
    {name : String} {node : FileTree} (hmem : (name, node) ∈ es) :
    Path.IsEntry name ∧ node.WellFormed ∧ es.lookup name = some node := by
  induction es with
  | nil => cases hmem
  | cons e rest ih =>
    obtain ⟨other, first⟩ := e
    obtain ⟨hname, hnew, hnode, hrest⟩ := h
    rcases List.mem_cons.mp hmem with heq | hlater
    · cases heq
      exact ⟨hname, hnode, List.lookup_cons_self⟩
    · obtain ⟨hentry, hwf, hlookup⟩ := ih hrest hlater
      have hne : name ≠ other := by
        rintro rfl
        exact hnew (List.mem_map_of_mem hlater)
      refine ⟨hentry, hwf, ?_⟩
      rw [List.lookup_cons, beq_false_of_ne hne]
      exact hlookup

lemma mem_of_lookup {es : List (String × FileTree)} {name : String} {node : FileTree}
    (h : es.lookup name = some node) : (name, node) ∈ es := by
  obtain ⟨before, after, rfl, -⟩ := List.lookup_eq_some_iff.mp h
  simp

lemma at?_append (t : FileTree) (ps qs : List String) :
    t.at? (ps ++ qs) = (t.at? ps).bind fun node => node.at? qs := by
  induction ps generalizing t with
  | nil => rfl
  | cons p ps ih =>
    simp only [List.cons_append, at?]
    cases t.entries.lookup p with
    | none => rfl
    | some child => exact ih child

lemma at?_concat {t : FileTree} {ps : List String} {es : List (String × FileTree)}
    (h : t.at? ps = some (.directory es)) (p : String) : t.at? (ps ++ [p]) = es.lookup p := by
  rw [at?_append, h, Option.bind_some, at?, entries]
  cases es.lookup p <;> rfl

lemma isDirectory_of_at? {t node : FileTree} {ps : List String} (hne : ps ≠ [])
    (h : t.at? ps = some node) : t.isDirectory = true := by
  obtain ⟨p, ps, rfl⟩ := List.exists_cons_of_ne_nil hne
  cases t with
  | file => cases h
  | directory => rfl

/-- In a well-formed tree, what the parts lead to was reached along them. -/
lemma reached_of_at? {t node goal : FileTree} {here ps : List String} (hhere : t.Reached here)
    (hnode : t.at? here.reverse = some node) (hwf : node.WellFormed)
    (hgoal : node.at? ps = some goal) : t.Reached (ps.reverse ++ here) := by
  induction ps generalizing here node with
  | nil => exact hhere
  | cons p ps ih =>
    cases node with
    | file => cases hgoal
    | directory es =>
      obtain ⟨child, hlookup, hgoal⟩ := Option.bind_eq_some_iff.mp hgoal
      obtain ⟨hname, hchild, -⟩ := hwf.of_mem (mem_of_lookup hlookup)
      have hfound : (es.lookup p).isSome = true := Option.isSome_of_eq_some hlookup
      have hat : t.at? (p :: here).reverse = some child := by
        rw [List.reverse_cons, at?_concat hnode]
        exact hlookup
      rw [List.reverse_cons, List.append_assoc]
      exact ih (.entry hhere hnode hname hfound) hat hchild hgoal

lemma WellFormed.at? {t node : FileTree} (h : t.WellFormed) {ps : List String}
    (hnode : t.at? ps = some node) : node.WellFormed := by
  induction ps generalizing t with
  | nil =>
    cases hnode
    exact h
  | cons p ps ih =>
    cases t with
    | file => cases hnode
    | directory es =>
      obtain ⟨child, hlookup, hnode⟩ := Option.bind_eq_some_iff.mp hnode
      exact ih (h.of_mem (mem_of_lookup hlookup)).2.1 hnode

/-! ### Walks -/

section

variable {withVersioned : Bool}

mutual

lemma exists_of_mem_walk (t : FileTree) (sets : List Ignore.RuleSet) {here parts : List String}
    (hwf : t.WellFormed) (h : parts ∈ t.walk withVersioned sets here) :
    ∃ below content, parts = here ++ below ∧ t.at? below = some (.file content) := by
  match t with
  | .file content =>
    rw [walk, List.mem_singleton] at h
    exact ⟨[], content, by rw [h, List.append_nil], rfl⟩
  | .directory es =>
    rw [walk] at h
    obtain ⟨name, node, hmem, below, content, hparts, hnode⟩ :=
      exists_of_mem_walkEntries es _ hwf h
    refine ⟨name :: below, content, hparts, ?_⟩
    rw [FileTree.at?, entries, (hwf.of_mem hmem).2.2]
    exact hnode

lemma exists_of_mem_walkEntries (es : List (String × FileTree)) (sets : List Ignore.RuleSet)
    {here parts : List String} (hwf : EntriesWellFormed es)
    (h : parts ∈ walkEntries withVersioned sets here es) :
    ∃ name node, (name, node) ∈ es ∧ ∃ below content, parts = here ++ name :: below ∧
      node.at? below = some (.file content) := by
  match es with
  | [] => simp [walkEntries] at h
  | (name, node) :: rest =>
    obtain ⟨-, -, hnode, hrest⟩ := hwf
    rw [walkEntries, List.mem_append] at h
    rcases h with h | h
    · split_ifs at h
      · cases h
      obtain ⟨below, content, hparts, hat⟩ := exists_of_mem_walk node sets hnode h
      refine ⟨name, node, List.mem_cons_self, below, content, ?_, hat⟩
      rw [hparts, List.append_assoc, List.singleton_append]
    · obtain ⟨other, found, hmem, hfound⟩ := exists_of_mem_walkEntries rest sets hrest h
      exact ⟨other, found, List.mem_cons_of_mem _ hmem, hfound⟩

end

mutual

/-- A walk finds no file twice. -/
lemma nodup_walk (t : FileTree) (sets : List Ignore.RuleSet) (here : List String)
    (hwf : t.WellFormed) : (t.walk withVersioned sets here).Nodup := by
  match t with
  | .file _ => simp [walk]
  | .directory es =>
    rw [walk]
    exact nodup_walkEntries es _ here hwf

lemma nodup_walkEntries (es : List (String × FileTree)) (sets : List Ignore.RuleSet)
    (here : List String) (hwf : EntriesWellFormed es) :
    (walkEntries withVersioned sets here es).Nodup := by
  match es with
  | [] => simp [walkEntries]
  | (name, node) :: rest =>
    obtain ⟨-, hnew, hnode, hrest⟩ := hwf
    rw [walkEntries, List.nodup_append]
    refine ⟨?_, nodup_walkEntries rest sets here hrest, ?_⟩
    · split_ifs
      · exact List.nodup_nil
      · exact nodup_walk node sets _ hnode
    · rintro parts hfirst _ hlater rfl
      obtain ⟨other, found, hmem, below, -, hparts, -⟩ :=
        exists_of_mem_walkEntries rest sets hrest hlater
      split_ifs at hfirst
      · cases hfirst
      obtain ⟨below', -, hparts', -⟩ := exists_of_mem_walk node sets hnode hfirst
      rw [hparts, List.append_assoc, List.append_cancel_left_eq] at hparts'
      obtain ⟨rfl, -⟩ := List.cons_eq_cons.mp hparts'
      exact hnew (List.mem_map_of_mem hmem)

end

end

end FileTree

/-! ### Source files -/

namespace Disk

variable {d : Disk} {s : ScanSettings} {pattern : PackagePattern}

lemma read_of_file {path : String} {parts : List String} (h : d.parts path = .ok parts)
    {content : Except IoFault ByteArray} (hfile : d.tree.at? parts = some (.file content)) :
    d.read path = content := by
  simp only [read, h, hfile]

/-- The parts lead from the top to a directory, and the path is the one along them. -/
structure HasRoot (d : Disk) (root : String) (parts : List String) : Prop where
  root_eq : root = Path.ofParts parts
  parts_eq : d.parts root = .ok parts
  directory : ∃ es, d.tree.at? parts = some (.directory es)
  entries : ∀ p ∈ parts, Path.IsEntry p

lemma exists_hasRoot {path root : String} (h : d.projectRoot path = .ok root) :
    ∃ parts, d.parts path = .ok parts ∧ d.HasRoot root parts := by
  obtain ⟨hdirectory, hcanonical⟩ := projectRoot_eq_ok_iff.mp h
  obtain ⟨parts, hparts, rfl⟩ := canonical_eq_ok_iff.mp hcanonical
  obtain ⟨-, hreached⟩ := reached_of_parts hparts
  rw [Disk.isDirectory, node?, hparts] at hdirectory
  obtain ⟨node, hnode, hdirectory⟩ := (Option.any_eq_true _ _).mp hdirectory
  cases node with
  | file => cases hdirectory
  | directory es =>
    exact ⟨parts, hparts, rfl, parts_ofParts hparts, ⟨es, hnode⟩,
      fun p hp => hreached.isEntry p (List.mem_reverse.mpr hp)⟩

/-- The parts lead below a directory to a source file. -/
structure IsSource (d : Disk) (s : ScanSettings) (parts below : List String) : Prop where
  ne_nil : below ≠ []
  entries : ∀ p ∈ below, Path.IsEntry p
  isFile : ∃ content, d.tree.at? (parts ++ below) = some (.file content)
  selected : s.selects below (Path.ofParts (parts ++ below)) = true

lemma HasRoot.isSource {root : String} {parts below : List String} (h : d.HasRoot root parts)
    (hwf : d.tree.WellFormed) (hbelow : below ∈ d.sourceParts s root pattern parts) :
    d.IsSource s parts below := by
  obtain ⟨es, hes⟩ := h.directory
  simp only [sourceParts, hes, List.mem_mergeSort, List.mem_filter, List.mem_map,
    Bool.and_eq_true] at hbelow
  obtain ⟨⟨found, hfound, rfl⟩, hselected, -⟩ := hbelow
  have hwalked := hwf.at? hes
  obtain ⟨below, content, rfl, hat⟩ := FileTree.exists_of_mem_walk _ _ hwalked hfound
  rw [List.drop_left] at hselected ⊢
  have hne : below ≠ [] := by
    rintro rfl
    cases hat
  have hfile : d.tree.at? (parts ++ below) = some (.file content) := by
    rw [FileTree.at?_append, hes]
    exact hat
  have hreached := FileTree.reached_of_at? .top rfl hwf hfile
  have hentries : ∀ p ∈ below, Path.IsEntry p := by
    intro p hp
    apply hreached.isEntry
    simp [hp]
  rw [h.root_eq, Path.join_ofParts hne h.entries hentries] at hselected
  exact ⟨hne, hentries, ⟨content, hfile⟩, hselected⟩

lemma HasRoot.nodup_sourceParts {root : String} {parts : List String} (h : d.HasRoot root parts)
    (hwf : d.tree.WellFormed) : (d.sourceParts s root pattern parts).Nodup := by
  obtain ⟨es, hes⟩ := h.directory
  simp only [sourceParts, hes, List.nodup_mergeSort]
  apply List.Nodup.filter
  refine List.Nodup.map_on ?_ (FileTree.nodup_walk _ _ _ (hwf.at? hes))
  intro found hfound other hother hdrop
  obtain ⟨below, -, rfl, -⟩ := FileTree.exists_of_mem_walk _ _ (hwf.at? hes) hfound
  obtain ⟨below', -, rfl, -⟩ := FileTree.exists_of_mem_walk _ _ (hwf.at? hes) hother
  rw [List.drop_left, List.drop_left] at hdrop
  rw [hdrop]

/-- The parts from the top of the source files below a root, in ascending order. -/
def sourcePlaces (d : Disk) (s : ScanSettings) (root : String) (pattern : PackagePattern)
    (parts : List String) : List (List String) :=
  (d.sourceParts s root pattern parts).map (parts ++ ·)

lemma HasRoot.nodup_sourcePlaces {root : String} {parts : List String} (h : d.HasRoot root parts)
    (hwf : d.tree.WellFormed) : (d.sourcePlaces s root pattern parts).Nodup :=
  (h.nodup_sourceParts hwf).map fun _ _ => List.append_cancel_left

/-- The source files have the canonical paths along their parts. -/
lemma HasRoot.sources_eq {root : String} {parts : List String} (h : d.HasRoot root parts)
    (hwf : d.tree.WellFormed) :
    d.sources s root pattern =
      .ok ((d.sourcePlaces s root pattern parts).map Path.ofParts) := by
  have hpaths : (d.sourceParts s root pattern parts).map
        (fun below => Path.join root ("/".intercalate below)) =
      (d.sourcePlaces s root pattern parts).map Path.ofParts := by
    rw [sourcePlaces, List.map_map]
    apply List.map_congr_left
    intro below hbelow
    have hsource := h.isSource hwf hbelow
    rw [h.root_eq, Path.join_ofParts hsource.ne_nil h.entries hsource.entries]
    rfl
  obtain ⟨es, hes⟩ := h.directory
  rw [sources, h.parts_eq]
  simp only [hes, Option.any_some, FileTree.isDirectory, if_true, hpaths]

/-- The path of a source file leads to it. -/
lemma IsSource.parts_eq {parts below : List String} (h : d.IsSource s parts below)
    (hwf : d.tree.WellFormed) : d.parts (Path.ofParts (parts ++ below)) = .ok (parts ++ below) := by
  obtain ⟨content, hfile⟩ := h.isFile
  apply parts_of_reached
  · exact FileTree.isDirectory_of_at? (List.append_ne_nil_of_right_ne_nil parts h.ne_nil) hfile
  · simpa using FileTree.reached_of_at? .top rfl hwf hfile

end Disk

end Cartograph
