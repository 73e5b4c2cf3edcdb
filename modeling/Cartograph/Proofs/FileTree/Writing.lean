import Cartograph.Proofs.FileTree.Walk

/-!
# Written files

What is written to a path is read back from it. The directories above the file are made before it is
written, and the path may lead through them in any way, with `.` and `..` and repeated separators.
Following it still leads to the same directory afterwards, because writing a file keeps all
directories and their entries.
-/

namespace Cartograph

open Text

/-! ### Paths -/

namespace Path

lemma getLast?_pieces_append_sep (s t : String) :
    (pieces '/' (s ++ "/" ++ t)).getLast? = (pieces '/' t).getLast? := by
  have hne : pieces '/' t ≠ [] := by simp [pieces, piecesOf_ne_nil]
  rw [show s ++ "/" ++ t = s ++ String.singleton '/' ++ t from rfl, pieces_append_sep,
    List.getLast?_append_of_ne_nil _ hne]

/-- A joined path ends as the second one does. -/
lemma getLast?_pieces_join (base path : String) :
    (pieces '/' (join base path)).getLast? = (pieces '/' path).getLast? := by
  unfold join
  split_ifs with hfirst hend
  · rfl
  · obtain ⟨start, hstart⟩ := endsWith_iff_suffix.mp hend
    have hbase : base = String.ofList start ++ "/" := by
      rw [← String.toList_inj, ← hstart]
      simp
    rw [hbase, getLast?_pieces_append_sep]
  · exact getLast?_pieces_append_sep base path

lemma isAbsolute_join {base : String} (hbase : isAbsolute base = true) (path : String) :
    isAbsolute (join base path) = true := by
  have hne : base ≠ "" := by
    rintro rfl
    revert hbase
    decide +kernel
  unfold join
  split_ifs with hfirst hend
  · simpa [hne] using hfirst
  · rw [isAbsolute_append hne, hbase]
  · rw [String.append_assoc, isAbsolute_append hne, hbase]

lemma ne_empty_of_mem_components {path p : String} (h : p ∈ components path) : p ≠ "" := by
  by_cases hpath : path = ""
  · subst hpath
    have hnil : components "" = [] := by decide +kernel
    rw [hnil] at h
    cases h
  obtain ⟨first, rest, hpieces, hfirst⟩ := exists_pieces_eq hpath
  rw [components_eq_cons hpieces hfirst] at h
  rcases List.mem_cons.mp h with rfl | h
  · split_ifs with habsolute
    · decide
    · exact mt hfirst.mp habsolute
  · rintro rfl
    simp [isFiller] at h

/-- The name of the file that a path ends in is that of an entry. -/
lemma isEntry_of_endsInName {path name : String} (hname : fileName? path = some name)
    (hend : endsInName path = true) : IsEntry name := by
  rw [endsInName, hname, beq_iff_eq] at hend
  unfold fileName? at hname
  split at hname
  · rename_i p hlast
    split_ifs at hname with hspecial
    cases hname
    push Not at hspecial
    have hempty := ne_empty_of_mem_components (List.mem_of_getLast? hlast)
    exact ⟨by simp [isFiller, hempty, hspecial.2.1], hspecial.2.2,
      not_mem_of_mem_pieces (List.mem_of_getLast? hend)⟩
  · cases hname

/-- The path above an absolute path that ends in a name has the same parts before the name. -/
lemma exists_parent?_eq {path name : String} (habsolute : isAbsolute path = true)
    (hlast : (pieces '/' path).getLast? = some name) (hname : IsEntry name) :
    ∃ front, pieces '/' path = front ++ [name] ∧
      parent? path = some (ofParts (front.filter fun p => !isFiller p)) := by
  have hpath : path ≠ "" := by
    rintro rfl
    revert habsolute
    decide +kernel
  obtain ⟨first, rest, hpieces, hfirst⟩ := exists_pieces_eq hpath
  obtain ⟨front, hfront⟩ := List.getLast?_eq_some_iff.mp hlast
  have hempty : first = "" := hfirst.mpr habsolute
  obtain ⟨rest, rfl⟩ : ∃ rest, front = "" :: rest := by
    cases front with
    | nil =>
      rw [hpieces, hempty, List.nil_append, List.cons.injEq] at hfront
      exact absurd hfront.1.symm hname.ne_empty
    | cons p rest =>
      rw [hpieces, hempty, List.cons_append, List.cons.injEq] at hfront
      exact ⟨rest, by rw [hfront.1]⟩
  refine ⟨"" :: rest, hfront, ?_⟩
  have hfilter : (rest ++ [name]).filter (fun p => !isFiller p) =
      rest.filter (fun p => !isFiller p) ++ [name] := by
    simp [hname.not_filler]
  have hcomponents : components path = "/" :: (rest.filter (fun p => !isFiller p) ++ [name]) := by
    have hcut := components_eq_cons hfront (by simp [habsolute])
    rwa [habsolute, if_pos rfl, List.append_eq, hfilter] at hcut
  have hrest : ("" :: rest).filter (fun p => !isFiller p) = rest.filter fun p => !isFiller p := by
    simp [isFiller]
  have hdrop : ("/" :: (rest.filter (fun p => !isFiller p) ++ [name])).dropLast =
      "/" :: rest.filter fun p => !isFiller p := by
    rw [← List.cons_append, List.dropLast_concat]
  rw [hrest, parent?, hcomponents]
  simp [hdrop, ofParts]

end Path

/-! ### Trees that grow -/

namespace FileTree

lemma lookup_setEntry (name q : String) (child : FileTree) (es : List (String × FileTree)) :
    (setEntry name child es).lookup q = if q = name then some child else es.lookup q := by
  induction es with
  | nil =>
    by_cases hq : q = name
    · simp [setEntry, hq]
    · simp [setEntry, hq, List.lookup_cons, beq_eq_false_iff_ne.mpr hq]
  | cons e es ih =>
    obtain ⟨n, t⟩ := e
    rw [setEntry]
    by_cases hn : n = name
    · subst hn
      by_cases hq : q = n
      · simp [hq]
      · simp [hq, List.lookup_cons, beq_eq_false_iff_ne.mpr hq]
    · rw [if_neg hn, List.lookup_cons, List.lookup_cons, ih]
      by_cases hq : q = n
      · simp [hq, hn]
      · simp [beq_eq_false_iff_ne.mpr hq]

lemma at?_put_self (t : FileTree) (ps : List String) (node : FileTree) :
    (t.put ps node).at? ps = some node := by
  induction ps generalizing t with
  | nil => rfl
  | cons p ps ih => simp [put, at?, entries, lookup_setEntry, ih]

/-- All that is in the first tree is in the second one, and its directories are so there. -/
def Keeps (t t' : FileTree) : Prop :=
  ∀ ps node, t.at? ps = some node →
    ∃ node', t'.at? ps = some node' ∧ (node.isDirectory = true → node'.isDirectory = true)

/-- Any node keeps what a file holds, which is nothing. -/
lemma keeps_of_file {t : FileTree} (h : t.isDirectory = false) (node : FileTree) :
    Keeps t node := by
  intro ps found hfound
  cases t with
  | directory => cases h
  | file content =>
    cases ps with
    | nil =>
      cases hfound
      exact ⟨node, rfl, fun hdirectory => absurd hdirectory (by simp [isDirectory])⟩
    | cons p ps => cases hfound

lemma keeps_setEntry {es : List (String × FileTree)} {name : String} {child : FileTree}
    (h : ∀ old, es.lookup name = some old → Keeps old child) :
    Keeps (.directory es) (.directory (setEntry name child es)) := by
  intro ps node hnode
  cases ps with
  | nil => exact ⟨_, rfl, fun _ => rfl⟩
  | cons q qs =>
    obtain ⟨old, hold, hnode⟩ := Option.bind_eq_some_iff.mp hnode
    simp only [at?, entries, lookup_setEntry] at hold ⊢
    by_cases hq : q = name
    · subst hq
      simpa using h old hold qs node hnode
    · exact ⟨node, by simp [hq, hold, hnode], id⟩

lemma any_isDirectory_iff {node? : Option FileTree} :
    node?.any (·.isDirectory) = true ↔ ∃ es, node? = some (.directory es) := by
  cases node? with
  | none => simp
  | some node => cases node <;> simp [isDirectory]

/-- What is put below a directory leaves the rest as it is, unless it takes a directory's place. -/
lemma keeps_put {t : FileTree} {ps : List String} {name : String} {node : FileTree}
    (habove : (t.at? ps).any (·.isDirectory) = true)
    (hfree : (t.at? (ps ++ [name])).any (·.isDirectory) = false) :
    Keeps t (t.put (ps ++ [name]) node) := by
  induction ps generalizing t with
  | nil =>
    obtain ⟨es, hes⟩ := any_isDirectory_iff.mp habove
    cases hes
    apply keeps_setEntry
    intro old hold
    apply keeps_of_file
    simpa [at?, entries, hold] using hfree
  | cons p ps ih =>
    cases t with
    | file => cases habove
    | directory es =>
      apply keeps_setEntry
      intro old hold
      have hold' : (directory es).entries.lookup p = some old := hold
      rw [hold', Option.getD_some]
      apply ih
      · simpa [at?, entries, hold] using habove
      · simpa [at?, entries, hold] using hfree

lemma Keeps.directory {t t' : FileTree} (h : Keeps t t') {ps : List String}
    {es : List (String × FileTree)} (hes : t.at? ps = some (.directory es)) :
    ∃ es', t'.at? ps = some (.directory es') := by
  obtain ⟨node', hnode', hdirectory⟩ := h _ _ hes
  exact any_isDirectory_iff.mp (by simpa [hnode'] using hdirectory rfl)

/-- A path leads to the same place after the tree has grown. -/
lemma Keeps.follow {t t' : FileTree} (h : Keeps t t') {here ps parts : List String}
    (hfollow : t.follow here ps = .ok parts) : t'.follow here ps = .ok parts := by
  induction ps generalizing here with
  | nil => exact hfollow
  | cons p ps ih =>
    obtain ⟨es, hes⟩ := exists_directory_of_follow hfollow
    obtain ⟨es', hes'⟩ := h.directory hes
    have hfound (hentry : (es.lookup p).isSome = true) : (es'.lookup p).isSome = true := by
      obtain ⟨node, hnode⟩ := Option.isSome_iff_exists.mp hentry
      rw [← at?_concat hes] at hnode
      obtain ⟨node', hnode', -⟩ := h _ _ hnode
      rw [← at?_concat hes', hnode', Option.isSome_some]
    rw [FileTree.follow, hes] at hfollow
    rw [FileTree.follow, hes']
    dsimp only at hfollow ⊢
    split_ifs at hfollow with hfiller hup hentry
    · rw [if_pos hfiller, ih hfollow]
    · rw [if_neg hfiller, if_pos hup, ih hfollow]
    · rw [if_neg hfiller, if_neg hup, if_pos (hfound hentry), ih hfollow]

lemma follow_append (t : FileTree) (here ps qs : List String) :
    t.follow here (ps ++ qs) =
      (t.follow here ps).bind fun parts => t.follow parts.reverse qs := by
  induction ps generalizing here with
  | nil => simp [follow, Except.bind]
  | cons p ps ih =>
    rw [List.cons_append, follow, follow]
    split
    · split_ifs
      · exact ih here
      · exact ih here.tail
      · exact ih (p :: here)
      · rfl
    · rfl

/-- A path to a directory may be written with fillers. -/
lemma follow_of_filter {t : FileTree} {here ps parts : List String}
    (h : t.follow here (ps.filter fun p => !Path.isFiller p) = .ok parts)
    (hdirectory : (t.at? parts).any (·.isDirectory) = true) : t.follow here ps = .ok parts := by
  induction ps generalizing here with
  | nil => exact h
  | cons p ps ih =>
    by_cases hfiller : Path.isFiller p = true
    · rw [List.filter_cons_of_neg (by simp [hfiller])] at h
      obtain ⟨es, hes⟩ : ∃ es, t.at? here.reverse = some (.directory es) := by
        cases hrest : ps.filter fun p => !Path.isFiller p with
        | nil =>
          rw [hrest, follow, Except.ok.injEq] at h
          rw [h]
          exact any_isDirectory_iff.mp hdirectory
        | cons q qs => exact exists_directory_of_follow (hrest ▸ h)
      rw [follow, hes]
      simp only [hfiller, if_true]
      exact ih h
    · rw [List.filter_cons_of_pos (by simp [hfiller])] at h
      obtain ⟨es, hes⟩ := exists_directory_of_follow h
      rw [follow, hes] at h ⊢
      simp only [hfiller, if_false, Bool.false_eq_true] at h ⊢
      split_ifs at h ⊢
      · exact ih h
      · exact ih h

end FileTree

/-! ### Writing and reading -/

namespace Disk

variable {d : Disk}

lemma place_inv {path : String} {ps : List String} (h : d.place path = .ok ps) :
    ∃ name above, Path.fileName? path = some name ∧ Path.endsInName path = true ∧
      d.parts ((Path.parent? (d.absolute path)).getD "/") = .ok above ∧ ps = above ++ [name] := by
  unfold place at h
  split at h
  · cases h
  rename_i name hname
  split_ifs at h with hend
  cases habove : d.parts ((Path.parent? (d.absolute path)).getD "/") with
  | error fault =>
    rw [habove] at h
    cases h
  | ok above =>
    rw [habove] at h
    cases h
    exact ⟨name, above, hname, by simpa using hend, rfl, rfl⟩

/-- The path of a place is cut into the parts that lead to its directory, and the name. -/
lemma exists_follow_of_place {path : String} {above : List String} {name : String}
    (hdirectory : Path.isAbsolute d.directory = true)
    (hplace : d.place path = .ok (above ++ [name]))
    (habove : (d.tree.at? above).any (·.isDirectory) = true) :
    path ≠ "" ∧ Path.IsEntry name ∧ ∃ front, pieces '/' (d.absolute path) = front ++ [name] ∧
      d.tree.follow [] front = .ok above := by
  obtain ⟨name', above', hname, hend, hparts, hps⟩ := place_inv hplace
  obtain ⟨rfl, hnames⟩ := List.append_inj' hps rfl
  cases hnames
  have hentry := Path.isEntry_of_endsInName hname hend
  have hlast : (pieces '/' (d.absolute path)).getLast? = some name := by
    rw [Path.endsInName, hname, beq_iff_eq] at hend
    rw [absolute, Path.getLast?_pieces_join, hend]
  have habsolute : Path.isAbsolute (d.absolute path) = true := Path.isAbsolute_join hdirectory path
  obtain ⟨front, hpieces, hparent⟩ := Path.exists_parent?_eq habsolute hlast hentry
  refine ⟨?_, hentry, front, hpieces, ?_⟩
  · rintro rfl
    have hnone : Path.fileName? "" = none := by decide +kernel
    rw [hnone] at hname
    cases hname
  · -- the path above the file is the front of the path, without its fillers
    have hsep : ∀ p ∈ front.filter fun p => !Path.isFiller p, '/' ∉ p.toList := by
      intro p hp
      apply not_mem_of_mem_pieces (s := d.absolute path)
      rw [hpieces]
      exact List.mem_append_left _ (List.mem_of_mem_filter hp)
    apply FileTree.follow_of_filter _ habove
    rw [hparent, Option.getD_some] at hparts
    rwa [← parts_ofParts_eq_follow (reached_of_parts hparts).1 hsep]

/-- A path leads to its place as soon as there is something. -/
lemma parts_of_place {path : String} {above : List String} {name : String} {tree : FileTree}
    (hdirectory : Path.isAbsolute d.directory = true)
    (hplace : d.place path = .ok (above ++ [name]))
    (habove : (d.tree.at? above).any (·.isDirectory) = true) (hkeeps : d.tree.Keeps tree)
    (hfound : (tree.at? (above ++ [name])).isSome = true) :
    { d with tree }.parts path = .ok (above ++ [name]) := by
  obtain ⟨hpath, hentry, front, hpieces, hfront⟩ :=
    exists_follow_of_place hdirectory hplace habove
  obtain ⟨es, hes⟩ := FileTree.any_isDirectory_iff.mp habove
  obtain ⟨es', hes'⟩ := hkeeps.directory hes
  have hlookup : (es'.lookup name).isSome = true := by
    rwa [← FileTree.at?_concat hes']
  have hsame : { d with tree }.absolute path = d.absolute path := rfl
  rw [parts, if_neg hpath, hsame, hpieces, FileTree.follow_append, hkeeps.follow hfront]
  simp [Except.bind, FileTree.follow, hes', hentry.not_filler, hentry.not_up, hlookup]

/-- A written file is read back from its path. -/
lemma read_write {path : String} {content : ByteArray} {d' : Disk}
    (hdirectory : Path.isAbsolute d.directory = true) (h : d.write path content = .ok d') :
    d'.read path = .ok content := by
  unfold write at h
  split at h
  · cases h
  rename_i ps hplace
  obtain ⟨name, above, -, -, -, rfl⟩ := place_inv hplace
  split_ifs at h with habove hfree
  cases h
  rw [List.dropLast_concat] at habove
  have habove : (d.tree.at? above).any (·.isDirectory) = true := by simpa using habove
  have hkeeps : d.tree.Keeps (d.tree.put (above ++ [name]) (.file (.ok content))) :=
    FileTree.keeps_put habove (by simpa using hfree)
  have hself := FileTree.at?_put_self d.tree (above ++ [name]) (.file (.ok content))
  have hparts := parts_of_place hdirectory hplace habove hkeeps (by rw [hself]; rfl)
  rw [read_of_file hparts hself]

/-- A file that is written with the directories above it is read back from its path. -/
lemma read_writeDeep {path : String} {content : ByteArray} {d' : Disk}
    (hdirectory : Path.isAbsolute d.directory = true) (h : d.writeDeep path content = .ok d') :
    d'.read path = .ok content := by
  unfold writeDeep at h
  split at h
  · cases h
  split at h
  · cases h
  split_ifs at h
  rename_i tree _ _
  exact read_write (d := { d with tree }) hdirectory h

end Disk

end Cartograph
