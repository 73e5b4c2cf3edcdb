import Cartograph.Analysis
import Cartograph.Proofs.Text.Dotted
import Cartograph.Proofs.Text.Pieces

/-!
# Canonical paths

The canonical form of a path is a path in its shortest form, it leads where the path leads, and it
is its own canonical form. Two canonical paths that have the same parts are the same text. So the
root of a project can be made canonical any number of times. What lies below a root is found there
by its parts, however the root is written.
-/

namespace Cartograph

open Text

/-! ### Shortest forms -/

namespace Path

/-- The part is the name of an entry: it counts, and it does not go up or hold a separator. -/
structure IsEntry (part : String) : Prop where
  not_filler : isFiller part = false
  not_up : part ≠ ".."
  not_sep : '/' ∉ part.toList

instance : DecidablePred IsEntry := fun part =>
  decidable_of_iff (isFiller part = false ∧ part ≠ ".." ∧ '/' ∉ part.toList)
    ⟨fun h => ⟨h.1, h.2.1, h.2.2⟩, fun h => ⟨h.not_filler, h.not_up, h.not_sep⟩⟩

/-- The path from the top along the parts. -/
def ofParts (parts : List String) : String := "/" ++ "/".intercalate parts

/-- The path is a path from the top along entries. -/
def IsCanonical (path : String) : Prop := ∃ parts, (∀ p ∈ parts, IsEntry p) ∧ path = ofParts parts

lemma isAbsolute_ofParts (parts : List String) : isAbsolute (ofParts parts) = true := by
  rw [isAbsolute, startsWith_iff]
  exact ⟨_, rfl⟩

lemma pieces_ofParts {parts : List String} (h : ∀ p ∈ parts, '/' ∉ p.toList) :
    pieces '/' (ofParts parts) = "" :: if parts = [] then [""] else parts := by
  have hcut : pieces '/' (ofParts parts) = pieces '/' "" ++ pieces '/' ("/".intercalate parts) := by
    rw [← pieces_append_sep]
    rfl
  rw [hcut]
  split_ifs with hnil
  · subst hnil
    rfl
  · rw [show "/".intercalate parts = (String.singleton '/').intercalate parts from rfl,
      pieces_intercalate hnil h]
    rfl

lemma components_ofParts {parts : List String} (h : ∀ p ∈ parts, IsEntry p) :
    components (ofParts parts) = "/" :: parts := by
  have hfilter : parts.filter (fun p => !isFiller p) = parts := by
    rw [List.filter_eq_self]
    intro p hp
    simp [(h p hp).not_filler]
  rw [components, pieces_ofParts fun p hp => (h p hp).not_sep]
  simp only [isAbsolute_ofParts, if_true]
  split_ifs with hnil
  · subst hnil
    rfl
  · rw [hfilter]
    rfl

lemma pieces_intercalate_entries {below : List String} (hne : below ≠ [])
    (h : ∀ p ∈ below, IsEntry p) :
    pieces '/' ("/".intercalate below) = below :=
  pieces_intercalate hne fun p hp => (h p hp).not_sep

lemma IsEntry.ne_empty {part : String} (h : IsEntry part) : part ≠ "" := by
  rintro rfl
  exact absurd h.not_filler (by decide)

/-- A path along entries is a relative one. -/
lemma isAbsolute_intercalate {below : List String} (hne : below ≠ []) (h : ∀ p ∈ below, IsEntry p) :
    isAbsolute ("/".intercalate below) = false := by
  rw [← Bool.not_eq_true, isAbsolute, startsWith_iff]
  rintro ⟨rest, hrest⟩
  have hcut : "/".intercalate below = "" ++ String.singleton '/' ++ rest := by
    rw [hrest, String.empty_append]
    rfl
  have hpieces := pieces_intercalate_entries hne h
  rw [hcut, pieces_append_sep] at hpieces
  have hempty : "" ∈ below := by
    rw [← hpieces]
    exact List.mem_append_left _ (by decide)
  exact (h "" hempty).ne_empty rfl

lemma endsWith_ofParts {parts : List String} (hne : parts ≠ []) (h : ∀ p ∈ parts, IsEntry p) :
    (ofParts parts).endsWith "/" = false := by
  rw [← Bool.not_eq_true, endsWith_iff_suffix]
  rintro ⟨start, hstart⟩
  have hcut : ofParts parts = String.ofList start ++ String.singleton '/' ++ "" := by
    rw [← String.toList_inj, ← hstart]
    simp
  obtain ⟨above, last, rfl⟩ := (List.eq_nil_or_concat' parts).resolve_left hne
  have hpieces := pieces_ofParts fun p hp => (h p hp).not_sep
  rw [if_neg hne, hcut, pieces_append_sep, ← List.cons_append] at hpieces
  have hempty : [""] = [last] := (List.append_inj' hpieces rfl).2
  cases hempty
  exact (h "" (by simp)).ne_empty rfl

/-- What lies below a canonical path has a canonical path. -/
lemma join_ofParts {parts below : List String} (hne : below ≠ []) (hparts : ∀ p ∈ parts, IsEntry p)
    (hbelow : ∀ p ∈ below, IsEntry p) :
    join (ofParts parts) ("/".intercalate below) = ofParts (parts ++ below) := by
  have hempty : (ofParts parts).isEmpty = false := by
    simp [ofParts]
  rw [join, isAbsolute_intercalate hne hbelow, hempty, Bool.or_false, if_neg Bool.false_ne_true]
  by_cases hnil : parts = []
  · subst hnil
    rw [if_pos (by decide +kernel)]
    rfl
  · rw [endsWith_ofParts hnil hparts, if_neg Bool.false_ne_true, ofParts, ofParts,
      String.intercalate_append_of_ne_nil hnil hne, String.append_assoc, String.append_assoc,
      String.append_assoc]

lemma dropWhile_isFiller {below : List String} (h : ∀ p ∈ below, IsEntry p) :
    below.dropWhile isFiller = below := by
  cases below with
  | nil => rfl
  | cons p below =>
    rw [List.dropWhile_cons_of_neg]
    simp [(h p List.mem_cons_self).not_filler]

lemma dropFillers_of_entries {below : List String} (h : ∀ p ∈ below, IsEntry p) :
    dropFillers below = below := by
  rw [dropFillers, dropWhile_isFiller, List.reverse_reverse]
  exact fun p hp => h p (List.mem_reverse.mp hp)

/-- What follows parts in a path is found behind those of them that count, as soon as the fillers at
its own beginning are passed over. -/
lemma exists_afterParts? (parts : List String) {below : List String} (h : ∀ p ∈ below, IsEntry p) :
    ∃ left, afterParts? (parts.filter fun p => !isFiller p) (parts ++ below) = some left ∧
      left.dropWhile isFiller = below := by
  induction parts with
  | nil => exact ⟨below, by simp [afterParts?], dropWhile_isFiller h⟩
  | cons p parts ih =>
    obtain ⟨left, hafter, hleft⟩ := ih
    by_cases hp : isFiller p = true
    · cases hrest : parts.filter fun p => !isFiller p with
      | nil =>
        -- nothing is left to find, and the parts are fillers up to what follows them
        have hfillers : ∀ q ∈ p :: parts, isFiller q = true := by simpa [hp] using hrest
        refine ⟨p :: parts ++ below, by simp [hp, hrest, afterParts?], ?_⟩
        rw [List.dropWhile_append_of_pos hfillers, dropWhile_isFiller h]
      | cons r rs =>
        rw [hrest] at hafter
        exact ⟨left, by simp [hp, hrest, afterParts?, hafter], hleft⟩
    · exact ⟨left, by simp [hp, afterParts?, hafter], hleft⟩

lemma isAbsolute_append {s : String} (h : s ≠ "") (t : String) :
    isAbsolute (s ++ t) = isAbsolute s := by
  obtain ⟨c, cs, hcs⟩ := List.exists_cons_of_ne_nil (mt String.toList_eq_nil_iff.mp h)
  rw [Bool.eq_iff_iff, isAbsolute, isAbsolute, String.startsWith_string_iff,
    String.startsWith_string_iff, String.toList_append, hcs]
  simp

/-- The first piece of a path is empty exactly if the path begins at the root. -/
lemma exists_pieces_eq {s : String} (h : s ≠ "") :
    ∃ first rest, pieces '/' s = first :: rest ∧ (first = "" ↔ isAbsolute s = true) := by
  obtain ⟨c, cs, hcs⟩ := List.exists_cons_of_ne_nil (mt String.toList_eq_nil_iff.mp h)
  obtain ⟨p, ps, hps⟩ := List.exists_cons_of_ne_nil (piecesOf_ne_nil '/' cs)
  by_cases hc : c = '/'
  · exact ⟨"", (p :: ps).map String.ofList, by simp [pieces, hcs, piecesOf, hc, hps],
      by simp [isAbsolute, String.startsWith_string_iff, hcs, hc]⟩
  · exact ⟨String.ofList (c :: p), ps.map String.ofList, by simp [pieces, hcs, piecesOf, hc, hps],
      by simp [isAbsolute, String.startsWith_string_iff, hcs, Ne.symm hc]⟩

lemma components_eq_cons {s first : String} {rest : List String}
    (hpieces : pieces '/' s = first :: rest) (hfirst : first = "" ↔ isAbsolute s = true) :
    components s = (if isAbsolute s then "/" else first) :: rest.filter fun p => !isFiller p := by
  rw [components, hpieces]
  by_cases habsolute : isAbsolute s = true
  · simp [habsolute]
  · simp [habsolute, mt hfirst.mp habsolute]

lemma components_intercalate_entries {below : List String} (hne : below ≠ [])
    (h : ∀ p ∈ below, IsEntry p) : components ("/".intercalate below) = below := by
  have habsolute := isAbsolute_intercalate hne h
  have hpieces := pieces_intercalate_entries hne h
  obtain ⟨first, rest, rfl⟩ := List.exists_cons_of_ne_nil hne
  have hfirst := (h first List.mem_cons_self).ne_empty
  rw [components_eq_cons hpieces (by simp [hfirst, habsolute]), habsolute,
    if_neg Bool.false_ne_true, List.filter_eq_self.mpr]
  intro p hp
  simp [(h p (List.mem_cons_of_mem first hp)).not_filler]

/-- A path below a root has the pieces of the root before its own, but for the empty one behind a
separator at the end of the root. -/
lemma pieces_join_below {root : String} (hroot : root ≠ "") {below : List String} (hne : below ≠ [])
    (h : ∀ p ∈ below, IsEntry p) :
    ∃ first rest, pieces '/' (join root ("/".intercalate below)) = first :: rest ++ below ∧
      isAbsolute (join root ("/".intercalate below)) = isAbsolute root ∧
      (first = "" ↔ isAbsolute root = true) ∧
      components root =
        (if isAbsolute root then "/" else first) :: rest.filter fun p => !isFiller p := by
  have hempty : root.isEmpty = false := by simpa using hroot
  have hjoined : ∀ s, pieces '/' (s ++ "/" ++ "/".intercalate below) = pieces '/' s ++ below := by
    intro s
    rw [← pieces_intercalate_entries hne h, ← pieces_append_sep, pieces_intercalate_entries hne h]
    rfl
  obtain ⟨first, rest, hpieces, hfirst⟩ := exists_pieces_eq hroot
  rw [join, isAbsolute_intercalate hne h, hempty, Bool.or_false, if_neg Bool.false_ne_true]
  by_cases hend : root.endsWith "/" = true
  · obtain ⟨start, hstart⟩ := endsWith_iff_suffix.mp hend
    have hcut : root = String.ofList start ++ "/" := by
      rw [← String.toList_inj, ← hstart]
      simp
    have hlast : first :: rest = pieces '/' (String.ofList start) ++ [""] := by
      rw [← hpieces, show [""] = pieces '/' "" from rfl, ← pieces_append_sep, hcut]
      simp
    obtain ⟨above, rfl⟩ : ∃ above, rest = above ++ [""] := by
      cases hs : pieces '/' (String.ofList start) with
      | nil => exact absurd (by simpa [pieces] using hs) (piecesOf_ne_nil '/' start)
      | cons f r =>
        rw [hs, List.cons_append, List.cons.injEq] at hlast
        exact ⟨r, hlast.2⟩
    refine ⟨first, above, ?_, ?_, hfirst, ?_⟩
    · rw [← List.cons_append] at hlast
      rw [if_pos hend, hcut, hjoined, ← List.append_cancel_right hlast]
    · rw [if_pos hend, isAbsolute_append hroot]
    · simpa [isFiller] using components_eq_cons hpieces hfirst
  · refine ⟨first, rest, ?_, ?_, hfirst, components_eq_cons hpieces hfirst⟩
    · rw [if_neg hend, hjoined, hpieces]
    · rw [if_neg hend, String.append_assoc, isAbsolute_append hroot]

/-- What lies below a root is found there, however the root is written. -/
lemma relativeTo?_join (root : String) {below : List String} (hne : below ≠ [])
    (h : ∀ p ∈ below, IsEntry p) :
    relativeTo? root (join root ("/".intercalate below)) = some ("/".intercalate below) := by
  by_cases hroot : root = ""
  · subst hroot
    have hcomponents : components "" = [] := by decide +kernel
    have hjoin : join "" ("/".intercalate below) = "/".intercalate below := by simp [join]
    simp [relativeTo?, hcomponents, hjoin, isAbsolute_intercalate hne h,
      pieces_intercalate_entries hne h, dropFillers_of_entries h]
  · obtain ⟨first, rest, hpieces, habsolute, hfirst, hcomponents⟩ := pieces_join_below hroot hne h
    by_cases hroot : isAbsolute root = true
    · obtain ⟨left, hafter, hleft⟩ := exists_afterParts? (first :: rest) h
      have hempty : first = "" := hfirst.mpr hroot
      have hfilter : (first :: rest).filter (fun p => !isFiller p) =
          rest.filter fun p => !isFiller p := by simp [hempty, isFiller]
      simp only [relativeTo?, hcomponents, habsolute, hroot, if_true, hpieces, ← hfilter, hafter,
        Option.map_some, hleft, dropFillers_of_entries h]
    · have hsep : first ≠ "/" := by
        rintro rfl
        have hmem : "/" ∈ pieces '/' (join root ("/".intercalate below)) := by simp [hpieces]
        exact not_mem_of_mem_pieces hmem (by decide)
      by_cases hdot : first = "."
      · obtain ⟨left, hafter, hleft⟩ := exists_afterParts? rest h
        simp [relativeTo?, hcomponents, habsolute, hroot, hdot, hpieces, hafter, hleft,
          dropFillers_of_entries h]
      · obtain ⟨left, hafter, hleft⟩ := exists_afterParts? (first :: rest) h
        have hfilter : (first :: rest).filter (fun p => !isFiller p) =
            first :: rest.filter fun p => !isFiller p := by
          simp [isFiller, mt hfirst.mp hroot, hdot]
        rw [hfilter, List.cons_append] at hafter
        simp [relativeTo?, hcomponents, habsolute, hroot, hdot, hsep, hpieces, hafter, hleft,
          dropFillers_of_entries h]

/-- What lies below a canonical path is found there by its parts. -/
lemma relativeTo?_ofParts {parts below : List String} (hne : below ≠ [])
    (hparts : ∀ p ∈ parts, IsEntry p) (hbelow : ∀ p ∈ below, IsEntry p) :
    relativeTo? (ofParts parts) (ofParts (parts ++ below)) = some ("/".intercalate below) := by
  rw [← join_ofParts hne hparts hbelow, relativeTo?_join _ hne hbelow]

/-- Canonical paths with the same parts are the same. -/
lemma IsCanonical.eq_of_same {a b : String} (ha : IsCanonical a) (hb : IsCanonical b)
    (h : same a b = true) : a = b := by
  obtain ⟨as, has, rfl⟩ := ha
  obtain ⟨bs, hbs, rfl⟩ := hb
  rw [same, components_ofParts has, components_ofParts hbs, beq_iff_eq, List.cons.injEq] at h
  rw [h.2]

end Path

/-! ### Following a path -/

namespace FileTree

/-- The parts, the last one first, lead from the top through directories to an entry. -/
inductive Reached (t : FileTree) : List String → Prop
  | top : Reached t []
  | entry {here : List String} {p : String} {es : List (String × FileTree)}
      (above : Reached t here) (directory : t.at? here.reverse = some (.directory es))
      (name : Path.IsEntry p) (found : (es.lookup p).isSome = true) : Reached t (p :: here)

lemma Reached.tail {t : FileTree} {here : List String} (h : t.Reached here) :
    t.Reached here.tail := by
  cases h with
  | top => exact .top
  | entry above => exact above

lemma Reached.of_append {t : FileTree} {below here : List String} (h : t.Reached (below ++ here)) :
    t.Reached here := by
  induction below with
  | nil => exact h
  | cons p below ih => exact ih h.tail

lemma Reached.isEntry {t : FileTree} {here : List String} (h : t.Reached here) :
    ∀ p ∈ here, Path.IsEntry p := by
  induction h with
  | top => simp
  | entry above directory name found ih =>
    intro q hq
    rcases List.mem_cons.mp hq with rfl | hq
    · exact name
    · exact ih q hq

/-- Following a path leads through directories to an entry, at every step of the way. -/
lemma reached_of_follow {t : FileTree} {here ps parts : List String} (hhere : t.Reached here)
    (hps : ∀ p ∈ ps, '/' ∉ p.toList) (h : t.follow here ps = .ok parts) :
    t.Reached parts.reverse := by
  induction ps generalizing here with
  | nil =>
    simp only [follow, Except.ok.injEq] at h
    rw [← h, List.reverse_reverse]
    exact hhere
  | cons p ps ih =>
    have hrest : ∀ q ∈ ps, '/' ∉ q.toList := fun q hq => hps q (List.mem_cons_of_mem p hq)
    rw [follow] at h
    split at h
    · rename_i es hdirectory
      split_ifs at h with hfiller hup hfound
      · exact ih hhere hrest h
      · exact ih hhere.tail hrest h
      · have hname : Path.IsEntry p :=
          ⟨by simpa using hfiller, hup, hps p List.mem_cons_self⟩
        exact ih (.entry hhere hdirectory hname hfound) hrest h
    · cases h

/-- A place that was reached is reached by its own parts. -/
lemma follow_of_reached {t : FileTree} {here ps : List String}
    (h : t.Reached (ps.reverse ++ here)) : t.follow here ps = .ok (here.reverse ++ ps) := by
  induction ps generalizing here with
  | nil => simp [follow]
  | cons p ps ih =>
    rw [List.reverse_cons, List.append_assoc, List.singleton_append] at h
    have hp : t.Reached (p :: here) := h.of_append
    cases hp with
    | entry above directory name found =>
      rw [follow, directory]
      simp only [name.not_filler, name.not_up, found, if_true, if_false, Bool.false_eq_true]
      rw [ih h]
      simp

/-- A path can only be followed from a directory. -/
lemma exists_directory_of_follow {t : FileTree} {here ps parts : List String} {p : String}
    (h : t.follow here (p :: ps) = .ok parts) :
    ∃ es, t.at? here.reverse = some (.directory es) := by
  rw [follow] at h
  split at h
  · rename_i es hes
    exact ⟨es, hes⟩
  · cases h

lemma isDirectory_of_follow {t : FileTree} {p : String} {ps parts : List String}
    (h : t.follow [] (p :: ps) = .ok parts) : t.isDirectory = true := by
  obtain ⟨es, hes⟩ := exists_directory_of_follow h
  cases hes
  rfl

lemma follow_filler {t : FileTree} (h : t.isDirectory = true) (ps : List String) :
    t.follow [] ("" :: ps) = t.follow [] ps := by
  cases t with
  | file => cases h
  | directory => rfl

end FileTree

/-! ### Disks -/

namespace Disk

variable {d : Disk}

lemma exists_follow_of_parts {path : String} {parts : List String} (h : d.parts path = .ok parts) :
    ∃ p ps, (∀ q ∈ p :: ps, '/' ∉ q.toList) ∧ d.tree.follow [] (p :: ps) = .ok parts := by
  rw [Disk.parts] at h
  split_ifs at h
  obtain ⟨p, ps, hps⟩ : ∃ p ps, pieces '/' (d.absolute path) = p :: ps := by
    apply List.exists_cons_of_ne_nil
    simp [pieces, piecesOf_ne_nil]
  refine ⟨p, ps, ?_, hps ▸ h⟩
  rw [← hps]
  exact fun q hq => not_mem_of_mem_pieces hq

lemma parts_ofParts_eq_follow {parts : List String} (hdirectory : d.tree.isDirectory = true)
    (h : ∀ p ∈ parts, '/' ∉ p.toList) :
    d.parts (Path.ofParts parts) = d.tree.follow [] parts := by
  have habsolute : d.absolute (Path.ofParts parts) = Path.ofParts parts := by
    rw [absolute, Path.join, Path.isAbsolute_ofParts, Bool.true_or, if_pos rfl]
  have hne : Path.ofParts parts ≠ "" := by
    simp [Path.ofParts]
  rw [Disk.parts, if_neg hne, habsolute, Path.pieces_ofParts h, FileTree.follow_filler hdirectory]
  split_ifs with hnil
  · rw [FileTree.follow_filler hdirectory, hnil]
  · rfl

/-- The path along the parts of a place that was reached leads to the place. -/
lemma parts_of_reached {parts : List String} (hdirectory : d.tree.isDirectory = true)
    (hreached : d.tree.Reached parts.reverse) : d.parts (Path.ofParts parts) = .ok parts := by
  have hsep : ∀ q ∈ parts, '/' ∉ q.toList :=
    fun q hq => (hreached.isEntry q (List.mem_reverse.mpr hq)).not_sep
  rw [parts_ofParts_eq_follow hdirectory hsep]
  exact FileTree.follow_of_reached (by simpa using hreached)

/-- What a path leads to was reached. -/
lemma reached_of_parts {path : String} {parts : List String} (h : d.parts path = .ok parts) :
    d.tree.isDirectory = true ∧ d.tree.Reached parts.reverse := by
  obtain ⟨p, ps, hps, hfollow⟩ := exists_follow_of_parts h
  exact ⟨FileTree.isDirectory_of_follow hfollow, FileTree.reached_of_follow .top hps hfollow⟩

/-- The canonical path leads to the same parts. -/
lemma parts_ofParts {path : String} {parts : List String} (h : d.parts path = .ok parts) :
    d.parts (Path.ofParts parts) = .ok parts := by
  obtain ⟨hdirectory, hreached⟩ := reached_of_parts h
  exact parts_of_reached hdirectory hreached

lemma canonical_eq_ok_iff {path canonical : String} :
    d.canonical path = .ok canonical ↔
      ∃ parts, d.parts path = .ok parts ∧ canonical = Path.ofParts parts := by
  unfold Disk.canonical
  cases d.parts path with
  | error fault => simp [Except.map]
  | ok parts => simp [Except.map, Path.ofParts, eq_comm]

lemma projectRoot_eq_ok_iff {root canonical : String} :
    d.projectRoot root = .ok canonical ↔
      d.isDirectory root = true ∧ d.canonical root = .ok canonical := by
  unfold projectRoot
  split_ifs with hdirectory
  · cases d.canonical root <;> simp [hdirectory]
  · simp [hdirectory]

lemma isCanonical_of_projectRoot {root canonical : String}
    (h : d.projectRoot root = .ok canonical) : Path.IsCanonical canonical := by
  obtain ⟨-, hcanonical⟩ := projectRoot_eq_ok_iff.mp h
  obtain ⟨parts, hparts, rfl⟩ := canonical_eq_ok_iff.mp hcanonical
  obtain ⟨-, hreached⟩ := reached_of_parts hparts
  exact ⟨parts, fun q hq => hreached.isEntry q (List.mem_reverse.mpr hq), rfl⟩

/-- The canonical root of a project is its own canonical root. -/
lemma projectRoot_idempotent {root canonical : String} (h : d.projectRoot root = .ok canonical) :
    d.projectRoot canonical = .ok canonical := by
  obtain ⟨hdirectory, hcanonical⟩ := projectRoot_eq_ok_iff.mp h
  obtain ⟨parts, hparts, rfl⟩ := canonical_eq_ok_iff.mp hcanonical
  have hself := parts_ofParts hparts
  refine projectRoot_eq_ok_iff.mpr ⟨?_, canonical_eq_ok_iff.mpr ⟨parts, hself, rfl⟩⟩
  rw [isDirectory, node?, hparts] at hdirectory
  rw [isDirectory, node?, hself]
  exact hdirectory

end Disk

end Cartograph
