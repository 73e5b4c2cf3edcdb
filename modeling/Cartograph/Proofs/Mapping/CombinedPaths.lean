import Cartograph.Mapping
import Cartograph.Proofs.Text.Dotted
import Cartograph.Proofs.Text.Pieces
import Cartograph.Proofs.Text.Squeeze
import Mathlib.Data.List.Infix

/-!
# Combined paths

Two paths are combined by one pass over their characters that leaves out every slash behind another
one. What comes out depends on little: the segments of both paths, and whether the last path that is
given ends in a slash. The pass does not care whether a part of its input has been passed before, so
combined paths are fixed points and paths can be combined in any grouping.
-/

namespace Cartograph

open Text

/-! ### Segments -/

/-- The segments of a path: its pieces between slashes that are not empty. -/
def pathSegments (path : String) : List String := (pieces '/' path).filter (· ≠ "")

/-- The last of two paths that is not empty. -/
def lastGiven (base path : String) : String := if path = "" then base else path

lemma pathSegments_of_not_mem {s : String} (h : '/' ∉ s.toList) :
    pathSegments s = if s = "" then [] else [s] := by
  rw [pathSegments, pieces_of_not_mem h]
  split_ifs with hs <;> simp [hs]

@[simp] lemma pathSegments_empty : pathSegments "" = [] := rfl

lemma pathSegments_append_slash (s t : String) :
    pathSegments (s ++ "/" ++ t) = pathSegments s ++ pathSegments t := by
  have hpieces : pieces '/' (s ++ "/" ++ t) = pieces '/' s ++ pieces '/' t := pieces_append_sep s t
  rw [pathSegments, hpieces, List.filter_append, pathSegments, pathSegments]

/-- A path without segments has only slashes. -/
lemma eq_slash_of_pathSegments_eq_nil {s : String} (h : pathSegments s = []) {c : Char}
    (hc : c ∈ s.toList) : c = '/' := by
  rw [← intercalate_pieces '/' s] at hc
  rcases mem_toList_intercalate hc with hsep | ⟨p, hp, hcp⟩
  · simpa using hsep
  · have hempty : p = "" := by simpa using List.filter_eq_nil_iff.mp h p hp
    simp [hempty] at hcp

lemma endsWith_slash_iff {s : String} : s.endsWith "/" = true ↔ s.toList.getLast? = some '/' := by
  rw [endsWith_iff_suffix]
  exact List.singleton_suffix_iff_getLast?_eq_some

lemma getLast?_append_slash (s t : String) :
    (s ++ "/" ++ t).toList.getLast? = some (t.toList.getLast?.getD '/') := by
  have hchars : (s ++ "/" ++ t).toList = s.toList ++ '/' :: t.toList := by simp
  rw [hchars, List.getLast?_append, List.getLast?_cons, Option.some_or]

lemma endsWith_append_slash {t : String} (ht : t ≠ "") (s : String) :
    (s ++ "/" ++ t).endsWith "/" = t.endsWith "/" := by
  have hne : t.toList ≠ [] := by simpa using ht
  rw [Bool.eq_iff_iff, endsWith_slash_iff, endsWith_slash_iff, getLast?_append_slash,
    List.getLast?_eq_some_getLast hne, Option.getD_some]

/-- Behind a slash, a path without segments ends in a slash. -/
lemma endsWith_append_slash_of_pathSegments_eq_nil {t : String} (h : pathSegments t = [])
    (s : String) : (s ++ "/" ++ t).endsWith "/" = true := by
  rw [endsWith_slash_iff, getLast?_append_slash]
  cases hlast : t.toList.getLast? with
  | none => rfl
  | some c =>
    rw [Option.getD_some, eq_slash_of_pathSegments_eq_nil h (List.mem_of_getLast? hlast)]

/-! ### The written form -/

/-- The path with the segments, behind a slash each, and with a slash at its end if one is wanted and
there are segments. -/
def writtenPath (segments : List String) (slash : Bool) : String :=
  "/" ++ "/".intercalate segments ++ if segments ≠ [] ∧ slash = true then "/" else ""

@[simp] lemma writtenPath_nil (slash : Bool) : writtenPath [] slash = "/" := by
  simp [writtenPath]

lemma writtenPath_cons (segment : String) {segments : List String} (h : segments ≠ [])
    (slash : Bool) :
    writtenPath (segment :: segments) slash = "/" ++ segment ++ writtenPath segments slash := by
  obtain ⟨next, rest, rfl⟩ := List.exists_cons_of_ne_nil h
  simp [writtenPath, String.append_assoc]

/-- The text behind a slash, without the slashes that follow one. -/
def rooted (s : String) : String := String.ofList ('/' :: squeeze '/' true s.toList)

lemma rooted_of_not_mem {s : String} (h : '/' ∉ s.toList) : rooted s = "/" ++ s := by
  rw [rooted, squeeze_of_not_mem h, ← String.toList_inj]
  simp

lemma rooted_slash_append (t : String) : rooted ("" ++ "/" ++ t) = rooted t := by
  simp [rooted, squeeze]

lemma rooted_append_slash {s : String} (h : '/' ∉ s.toList) (hs : s ≠ "") (t : String) :
    rooted (s ++ "/" ++ t) = "/" ++ s ++ rooted t := by
  have hchars : (s ++ "/" ++ t).toList = s.toList ++ '/' :: t.toList := by simp
  rw [rooted, hchars, squeeze_append_of_not_mem h (by simpa using hs), squeeze, if_pos rfl,
    ← String.toList_inj]
  simp [rooted]

/-- One pass over a text brings it into the written form of its segments. The induction is over the
pieces between slashes, of which the empty ones are dropped. -/
lemma rooted_eq_writtenPath (s : String) :
    rooted s = writtenPath (pathSegments s) (s.endsWith "/") := by
  suffices hjoin : ∀ ps : List String, ps ≠ [] → (∀ p ∈ ps, '/' ∉ p.toList) →
      rooted ("/".intercalate ps) =
        writtenPath (pathSegments ("/".intercalate ps)) (("/".intercalate ps).endsWith "/") by
    have hpieces : pieces '/' s ≠ [] := by
      simpa [pieces] using piecesOf_ne_nil '/' s.toList
    have hs := hjoin (pieces '/' s) hpieces fun p => not_mem_of_mem_pieces
    simpa using intercalate_pieces '/' s ▸ hs
  intro ps hne hps
  induction ps with
  | nil => exact absurd rfl hne
  | cons p ps ih =>
    have hp : '/' ∉ p.toList := hps p List.mem_cons_self
    cases ps with
    | nil =>
      have hend : p.endsWith "/" = false := by
        rw [Bool.eq_false_iff, ne_eq, endsWith_slash_iff]
        exact fun hlast => hp (List.mem_of_getLast? hlast)
      rw [String.intercalate_singleton, rooted_of_not_mem hp, pathSegments_of_not_mem hp, hend]
      split_ifs with hempty <;> simp [writtenPath, hempty]
    | cons q ps =>
      replace ih := ih (List.cons_ne_nil q ps) fun x hx => hps x (List.mem_cons_of_mem p hx)
      rw [String.intercalate_cons_cons]
      generalize "/".intercalate (q :: ps) = t at ih ⊢
      rw [pathSegments_append_slash, pathSegments_of_not_mem hp]
      -- Behind a slash only an empty rest can change how the text ends, and it has no segments.
      by_cases ht : pathSegments t = []
      · rw [ht, writtenPath_nil] at ih
        rw [ht, List.append_nil, endsWith_append_slash_of_pathSegments_eq_nil ht]
        split_ifs with hempty
        · rw [hempty, rooted_slash_append, ih, writtenPath_nil]
        · rw [rooted_append_slash hp hempty, ih]
          simp [writtenPath]
      · have htne : t ≠ "" := fun heq => ht (heq ▸ pathSegments_empty)
        rw [endsWith_append_slash htne]
        split_ifs with hempty
        · rw [hempty, rooted_slash_append, ih, List.nil_append]
        · rw [rooted_append_slash hp hempty, ih, List.singleton_append, writtenPath_cons p ht]

/-! ### Combining -/

lemma combinePaths_empty (path : String) : combinePaths "" path = rooted path := by
  simp [combinePaths, rooted]

lemma combinePaths_of_ne {base path : String} (hb : base ≠ "") (hp : path ≠ "") :
    combinePaths base path = rooted (base ++ "/" ++ path) := by
  simp [combinePaths, rooted, hb, hp]

lemma combinePaths_eq_rooted (base path : String) :
    ∃ s, combinePaths base path = rooted s ∧
      pathSegments s = pathSegments base ++ pathSegments path ∧
      s.endsWith "/" = (lastGiven base path).endsWith "/" := by
  by_cases hb : base = ""
  · subst hb
    refine ⟨path, combinePaths_empty path, by simp, ?_⟩
    by_cases hp : path = "" <;> simp [lastGiven, hp]
  · by_cases hp : path = ""
    · exact ⟨base, by simp [combinePaths, rooted, hb, hp], by simp [hp], by simp [lastGiven, hp]⟩
    · refine ⟨base ++ "/" ++ path, combinePaths_of_ne hb hp, pathSegments_append_slash base path, ?_⟩
      rw [endsWith_append_slash hp, lastGiven, if_neg hp]

lemma rooted_ne_empty (s : String) : rooted s ≠ "" := by
  simp [rooted, ← String.toList_inj]

/-- It makes no difference to combine a path that was combined before. -/
lemma rooted_rooted_append (s t : String) : rooted (rooted s ++ t) = rooted (s ++ t) := by
  simp [rooted, squeeze, squeeze_squeeze_append]

lemma rooted_append_rooted (s t : String) :
    rooted (s ++ "/" ++ rooted t) = rooted (s ++ "/" ++ t) := by
  simp only [rooted, String.toList_append, String.toList_ofList]
  simp [squeeze_append_sep_sep, squeeze_append_squeeze]

lemma not_infix_rooted (s : String) : ¬"//".toList <:+: (rooted s).toList := by
  have hchain := isChain_iff_no_double.mp (isChain_squeeze '/' '/' s.toList)
  simpa [rooted] using hchain

/-- Two combined paths are written as a slash and the segments of both with slashes between them; one
more slash follows if there are segments and the last path that is given ends in a slash. So the
path begins with a slash and has no two in a row, it does not change when it is combined with the
empty path, and combining paths that are not empty is associative. -/
theorem combinePaths_eq_segments (base path : String) :
    (combinePaths base path =
      "/" ++ "/".intercalate (pathSegments base ++ pathSegments path) ++
        if pathSegments base ++ pathSegments path ≠ [] ∧ (lastGiven base path).endsWith "/" = true
        then "/" else "") ∧
    (combinePaths base path).startsWith "/" = true ∧
    ¬"//".toList <:+: (combinePaths base path).toList ∧
    combinePaths "" (combinePaths base path) = combinePaths base path ∧
    ∀ other, base ≠ "" → path ≠ "" → other ≠ "" →
      combinePaths (combinePaths base path) other =
        combinePaths base (combinePaths path other) := by
  obtain ⟨s, hs, hsegments, hend⟩ := combinePaths_eq_rooted base path
  refine ⟨?_, ?_, ?_, ?_, ?_⟩
  · rw [hs, rooted_eq_writtenPath, hsegments, hend, writtenPath]
  · simp [hs, rooted, String.startsWith_string_iff]
  · rw [hs]
    exact not_infix_rooted s
  · rw [hs, combinePaths_empty]
    simpa using rooted_rooted_append s ""
  · intro other hb hp ho
    rw [combinePaths_of_ne hb hp, combinePaths_of_ne hp ho, combinePaths_of_ne (rooted_ne_empty _) ho,
      combinePaths_of_ne hb (rooted_ne_empty _)]
    calc rooted (rooted (base ++ "/" ++ path) ++ "/" ++ other)
        = rooted (base ++ "/" ++ path ++ "/" ++ other) := by
          rw [String.append_assoc, rooted_rooted_append, ← String.append_assoc]
      _ = rooted (base ++ "/" ++ (path ++ "/" ++ other)) := by simp only [String.append_assoc]
      _ = rooted (base ++ "/" ++ rooted (path ++ "/" ++ other)) := (rooted_append_rooted _ _).symm

/-- Slashes at the seams do not count, and the one at the very end does. -/
theorem combinePaths_eq_segments_orders :
    "api/" ≠ "" ∧ "//orders" ≠ "" ∧ "lines//" ≠ "" ∧
      combinePaths "api/" "//orders" = "/api/orders" ∧
      combinePaths (combinePaths "api/" "//orders") "lines//" =
        combinePaths "api/" (combinePaths "//orders" "lines//") ∧
      combinePaths "api/" (combinePaths "//orders" "lines//") = "/api/orders/lines/" := by
  obtain ⟨hform, -, -, -, hassoc⟩ := combinePaths_eq_segments "api/" "//orders"
  refine ⟨by decide, by decide, by decide, ?_, hassoc "lines//" ?_ ?_ ?_, ?_⟩
  · rw [hform]
    decide +kernel
  all_goals decide +kernel

end Cartograph
