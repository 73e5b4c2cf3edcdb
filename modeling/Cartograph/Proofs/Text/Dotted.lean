import Cartograph.Text.Blank
import Cartograph.Text.Dotted
import Mathlib.Data.List.TakeWhile

/-!
# Dotted names

The last segment of a name is what follows its last dot, so putting any qualifier and a dot before a
name without dots does not change it.
-/

namespace Cartograph.Text

lemma forall_bne_iff {stop : Char} {cs : List Char} :
    (∀ c ∈ cs, (c != stop) = true) ↔ stop ∉ cs := by
  simp only [bne_iff_ne]
  constructor
  · intro h hstop
    exact h stop hstop rfl
  · intro h c hc
    exact ne_of_mem_of_not_mem hc h

/-- A text begins with a fragment if something follows it. -/
lemma startsWith_iff {fragment s : String} :
    s.startsWith fragment = true ↔ ∃ rest, s = fragment ++ rest := by
  rw [String.startsWith_string_iff]
  constructor
  · rintro ⟨rest, hrest⟩
    refine ⟨String.ofList rest, ?_⟩
    rw [← String.toList_inj, String.toList_append, String.toList_ofList, hrest]
  · rintro ⟨rest, rfl⟩
    rw [String.toList_append]
    exact List.prefix_append _ _

lemma endsWith_iff_suffix {fragment s : String} :
    s.endsWith fragment = true ↔ fragment.toList <:+ s.toList := by
  rw [← String.endsWith_toSlice, String.Slice.endsWith_string_iff, String.copy_toSlice]

lemma takeWhile_ne_dot {cs : List Char} (h : '.' ∉ cs) : cs.takeWhile (· != '.') = cs := by
  rw [List.takeWhile_eq_self_iff]
  exact forall_bne_iff.mpr h

lemma lastSegment_of_not_mem {cs : List Char} (h : '.' ∉ cs) : lastSegment cs = cs := by
  rw [lastSegment, takeWhile_ne_dot (by simpa using h), List.reverse_reverse]

lemma lastSegment_append_dot (qualifier : List Char) {cs : List Char} (h : '.' ∉ cs) :
    lastSegment (qualifier ++ '.' :: cs) = cs := by
  have hreverse : (qualifier ++ '.' :: cs).reverse = cs.reverse ++ '.' :: qualifier.reverse := by
    simp
  have hcs : ∀ c ∈ cs.reverse, (c != '.') = true := forall_bne_iff.mpr (by simpa using h)
  rw [lastSegment, hreverse, List.takeWhile_append_of_pos hcs]
  simp

/-- A name without dots is its own last segment. -/
lemma simpleName_of_not_mem {name : String} (h : '.' ∉ name.toList) : simpleName name = name := by
  rw [simpleName, lastSegment_of_not_mem h, String.ofList_toList]

/-- The last segment of a qualified name is the name that was qualified. -/
lemma simpleName_qualified (qualifier : String) {name : String} (h : '.' ∉ name.toList) :
    simpleName (qualifier ++ "." ++ name) = name := by
  have hchars : (qualifier ++ "." ++ name).toList = qualifier.toList ++ '.' :: name.toList := by
    simp
  rw [simpleName, hchars, lastSegment_append_dot _ h, String.ofList_toList]

/-- What stands before the last segment of a qualified name is what it was qualified with. -/
lemma qualifier_qualified (before : String) {name : String} (h : '.' ∉ name.toList) :
    qualifier (before ++ "." ++ name) = before := by
  have hchars : (before ++ "." ++ name).toList.reverse =
      name.toList.reverse ++ '.' :: before.toList.reverse := by
    simp
  have hname : ∀ c ∈ name.toList.reverse, (c != '.') = true :=
    forall_bne_iff.mpr (by simpa using h)
  rw [qualifier, hchars, List.dropWhile_append_of_pos hname]
  simp

/-- The last segment of a name has no dots. -/
lemma not_dot_mem_simpleName (name : String) : '.' ∉ (simpleName name).toList := by
  rw [simpleName, String.toList_ofList, lastSegment, List.mem_reverse]
  intro hmem
  simpa using List.mem_takeWhile_imp hmem

/-- A text with a single dot is cut at a dot in one way only. -/
lemma append_dot_inj {a b c d : String} (hc : '.' ∉ c.toList) (hd : '.' ∉ d.toList)
    (h : a ++ "." ++ b = c ++ "." ++ d) : a = c ∧ b = d := by
  have hchars : a.toList ++ '.' :: b.toList = c.toList ++ '.' :: d.toList := by
    simpa using congrArg String.toList h
  rw [← String.toList_inj, ← String.toList_inj]
  rcases List.append_eq_append_iff.mp hchars with ⟨xs, hxs, hrest⟩ | ⟨xs, hxs, hrest⟩
  · cases xs with
    | nil => simpa [hxs] using hrest
    | cons x xs =>
      obtain ⟨rfl, -⟩ := List.cons.inj hrest
      simp [hxs] at hc
  · cases xs with
    | nil => simpa [hxs] using hrest.symm
    | cons x xs =>
      obtain ⟨-, hname⟩ := List.cons.inj hrest
      simp [hname] at hd

/-- A text without blanks has none to lose at its ends. -/
lemma trim_of_not_blank {s : String} (h : ∀ c ∈ s.toList, isBlank c = false) : trim s = s := by
  have hdrop : ∀ cs : List Char, (∀ c ∈ cs, isBlank c = false) → cs.dropWhile isBlank = cs := by
    intro cs hcs
    rw [List.dropWhile_eq_self_iff]
    intro hlen
    simp [hcs _ (List.getElem_mem hlen)]
  have hreverse : ∀ c ∈ s.toList.reverse, isBlank c = false := by
    intro c hc
    exact h c (List.mem_reverse.mp hc)
  rw [trim, trimChars, hdrop _ h, trimEndChars, hdrop _ hreverse, List.reverse_reverse,
    String.ofList_toList]

/-- A character that does not occur is not replaced. -/
lemma replaceChar_of_not_mem {old : Char} {s : String} (h : old ∉ s.toList) (new : Char) :
    replaceChar old new s = s := by
  have hsame : s.toList.map (fun c => if c = old then new else c) = s.toList.map id := by
    apply List.map_congr_left
    intro c hc
    rw [if_neg (ne_of_mem_of_not_mem hc h), id]
  rw [replaceChar, hsame, List.map_id, String.ofList_toList]

end Cartograph.Text
