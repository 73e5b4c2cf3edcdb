import Cartograph.Proofs.Diagram.Labels
import Cartograph.Proofs.Text.Squeeze
import Mathlib.Data.List.TakeWhile

/-!
# The form of sanitized names

A sanitized name is a word of letters and digits with single underscores inside. Such words are
exactly the names that sanitizing leaves as they are. Letters and digits are kept in their order; a
name without any has a placeholder in its place.
-/

namespace Cartograph

open Text

/-- The form of a sanitized name. -/
structure IsSanitized (s : String) : Prop where
  ne_empty : s ≠ ""
  chars : ∀ c ∈ s.toList, c.isAlphanum = true ∨ c = '_'
  head_ne : s.toList.head? ≠ some '_'
  last_ne : s.toList.getLast? ≠ some '_'
  no_double : ¬['_', '_'] <:+: s.toList

/-! ### Trimming -/

lemma head?_dropWhile_ne (cs : List Char) : (cs.dropWhile (· == '_')).head? ≠ some '_' := by
  induction cs with
  | nil => simp
  | cons c cs ih => by_cases hc : c = '_' <;> simp [hc, ih]

lemma filter_dropWhile {q : Char → Bool} (h : q '_' = false) (cs : List Char) :
    (cs.dropWhile (· == '_')).filter q = cs.filter q := by
  induction cs with
  | nil => rfl
  | cons c cs ih => by_cases hc : c = '_' <;> simp [hc, h, ih]

lemma dropWhile_of_head?_ne {cs : List Char} (h : cs.head? ≠ some '_') :
    cs.dropWhile (· == '_') = cs := by
  cases cs with
  | nil => rfl
  | cons c cs =>
    have hc : c ≠ '_' := by simpa using h
    simp [hc]

lemma isPrefix_trimUnderscores (cs : List Char) :
    trimUnderscores cs <+: cs.dropWhile (· == '_') := by
  have hend := List.dropWhile_suffix (l := (cs.dropWhile (· == '_')).reverse) (· == '_')
  simpa [trimUnderscores] using List.reverse_prefix.mpr hend

lemma isInfix_trimUnderscores (cs : List Char) : trimUnderscores cs <:+: cs :=
  (isPrefix_trimUnderscores cs).isInfix.trans (List.dropWhile_suffix _).isInfix

lemma head?_trimUnderscores_ne (cs : List Char) : (trimUnderscores cs).head? ≠ some '_' := by
  intro hhead
  obtain ⟨rest, hrest⟩ := isPrefix_trimUnderscores cs
  refine head?_dropWhile_ne cs ?_
  rw [← hrest, List.head?_append, hhead, Option.some_or]

lemma getLast?_trimUnderscores_ne (cs : List Char) :
    (trimUnderscores cs).getLast? ≠ some '_' := by
  rw [trimUnderscores, List.getLast?_reverse]
  exact head?_dropWhile_ne _

lemma filter_trimUnderscores {q : Char → Bool} (h : q '_' = false) (cs : List Char) :
    (trimUnderscores cs).filter q = cs.filter q := by
  rw [trimUnderscores, List.filter_reverse, filter_dropWhile h, List.filter_reverse,
    List.reverse_reverse, filter_dropWhile h]

lemma trimUnderscores_of_ends_ne {cs : List Char} (hhead : cs.head? ≠ some '_')
    (hlast : cs.getLast? ≠ some '_') : trimUnderscores cs = cs := by
  have hback : cs.reverse.head? ≠ some '_' := by rwa [List.head?_reverse]
  rw [trimUnderscores, dropWhile_of_head?_ne hhead, dropWhile_of_head?_ne hback,
    List.reverse_reverse]

/-! ### The characters that are shown -/

def shownChar (c : Char) : Char := if isNameChar c then c else '_'

/-- The characters of a sanitized name, before the placeholder is put in the place of none. -/
def shownChars (name : String) : List Char :=
  trimUnderscores (squeeze '_' false (name.toList.map shownChar))

lemma sanitizeName_of_nil {name : String} (h : shownChars name = []) :
    sanitizeName name = "Unknown" := by
  rw [sanitizeName]
  exact if_pos (List.isEmpty_iff.mpr h)

lemma sanitizeName_of_ne_nil {name : String} (h : shownChars name ≠ []) :
    sanitizeName name = String.ofList (shownChars name) := by
  rw [sanitizeName]
  exact if_neg (mt List.isEmpty_iff.mp h)

/-- Squeezing and trimming leave letters and digits alone, and no other character becomes one. -/
lemma filter_shownChars (name : String) :
    (shownChars name).filter Char.isAlphanum = name.toList.filter Char.isAlphanum := by
  have hshown : ∀ cs : List Char,
      (cs.map shownChar).filter Char.isAlphanum = cs.filter Char.isAlphanum := by
    intro cs
    induction cs with
    | nil => rfl
    | cons c cs ih =>
      by_cases hc : c.isAlphanum = true
      · simp [shownChar, isNameChar, hc, ih]
      · have hout : (shownChar c).isAlphanum = false := by
          by_cases hname : isNameChar c = true
          · simpa [shownChar, hname] using hc
          · simp [shownChar, hname]
        simp [hc, hout, ih]
  rw [shownChars, filter_trimUnderscores (by decide), filter_squeeze (by decide), hshown]

lemma isAlphanum_or_eq_of_mem_sanitizeName {name : String} {c : Char}
    (h : c ∈ (sanitizeName name).toList) : c.isAlphanum = true ∨ c = '_' := by
  simpa [isNameChar] using isNameChar_of_mem_sanitizeName h

/-- There is something to show exactly if the name has a letter or a digit: what is shown does not
begin with an underscore. -/
lemma shownChars_eq_nil_iff {name : String} :
    shownChars name = [] ↔ ∀ c ∈ name.toList, c.isAlphanum ≠ true := by
  rw [← List.filter_eq_nil_iff, ← filter_shownChars]
  constructor
  · intro hnil
    rw [hnil, List.filter_nil]
  · intro hnone
    by_contra hne
    obtain ⟨c, cs, hcs⟩ := List.exists_cons_of_ne_nil hne
    have hmem : c ∈ (sanitizeName name).toList := by
      simp [sanitizeName_of_ne_nil hne, hcs]
    have hhead : (shownChars name).head? ≠ some '_' := head?_trimUnderscores_ne _
    obtain halnum | hunderscore := isAlphanum_or_eq_of_mem_sanitizeName hmem
    · exact List.filter_eq_nil_iff.mp hnone c (by simp [hcs]) halnum
    · exact hhead (by simp [hcs, hunderscore])

/-! ### Fixed points -/

lemma isSanitized_unknown : IsSanitized "Unknown" where
  ne_empty := by decide
  chars := List.forall_iff_forall_mem.mp (by decide)
  head_ne := by decide
  last_ne := by decide
  no_double := isChain_iff_no_double.mp (by decide)

lemma isSanitized_sanitizeName (name : String) : IsSanitized (sanitizeName name) := by
  by_cases hnil : shownChars name = []
  · rw [sanitizeName_of_nil hnil]
    exact isSanitized_unknown
  · have hchars : ∀ c ∈ (sanitizeName name).toList, c.isAlphanum = true ∨ c = '_' :=
      fun c => isAlphanum_or_eq_of_mem_sanitizeName
    rw [sanitizeName_of_ne_nil hnil] at hchars ⊢
    have hsqueezed : ¬['_', '_'] <:+: squeeze '_' false (name.toList.map shownChar) :=
      isChain_iff_no_double.mp (isChain_squeeze '_' 'a' (name.toList.map shownChar)).tail
    refine ⟨by simpa [String.ext_iff] using hnil, hchars, ?_, ?_, ?_⟩ <;> rw [String.toList_ofList]
    · exact head?_trimUnderscores_ne _
    · exact getLast?_trimUnderscores_ne _
    · exact fun hdouble => hsqueezed (hdouble.trans (isInfix_trimUnderscores _))

/-- A name in this form passes each step unchanged. -/
lemma IsSanitized.sanitizeName_eq {s : String} (h : IsSanitized s) : sanitizeName s = s := by
  have hshown : s.toList.map shownChar = s.toList := by
    refine (List.map_congr_left fun c hc => ?_).trans (List.map_id s.toList)
    have hname : isNameChar c = true := by simpa [isNameChar] using h.chars c hc
    rw [shownChar, if_pos hname, id]
  have hsqueeze : squeeze '_' false s.toList = s.toList :=
    squeeze_of_isChain (isChain_iff_no_double.mpr h.no_double) (by simp)
  have hchars : shownChars s = s.toList := by
    rw [shownChars, hshown, hsqueeze, trimUnderscores_of_ends_ne h.head_ne h.last_ne]
  have hne : shownChars s ≠ [] := by
    rw [hchars]
    simpa using h.ne_empty
  rw [sanitizeName_of_ne_nil hne, hchars, String.ofList_toList]

lemma sanitizeName_eq_self_iff {s : String} : sanitizeName s = s ↔ IsSanitized s :=
  ⟨fun h => h ▸ isSanitized_sanitizeName s, IsSanitized.sanitizeName_eq⟩

/-- A sanitized name is not empty, has letters, digits and underscores only, no underscore at either
end and no two in a row. It has the letters and digits of the name in their order if there are any,
and is the placeholder otherwise. Exactly the names of this form are left as they are, so that
sanitizing again changes nothing. -/
theorem sanitizeName_form (s : String) :
    IsSanitized (sanitizeName s) ∧
    ((∃ c ∈ s.toList, c.isAlphanum = true) →
      (sanitizeName s).toList.filter Char.isAlphanum = s.toList.filter Char.isAlphanum) ∧
    ((∀ c ∈ s.toList, c.isAlphanum ≠ true) → sanitizeName s = "Unknown") ∧
    (sanitizeName s = s ↔ IsSanitized s) ∧
    sanitizeName (sanitizeName s) = sanitizeName s := by
  refine ⟨isSanitized_sanitizeName s, ?_, ?_, sanitizeName_eq_self_iff,
    (isSanitized_sanitizeName s).sanitizeName_eq⟩
  · rintro ⟨c, hc, halnum⟩
    have hne : shownChars s ≠ [] := fun hnil => shownChars_eq_nil_iff.mp hnil c hc halnum
    rw [sanitizeName_of_ne_nil hne, String.toList_ofList, filter_shownChars]
  · intro hnone
    exact sanitizeName_of_nil (shownChars_eq_nil_iff.mpr hnone)

/-- A name with other characters at its ends and inside, and one without a letter or a digit. -/
theorem sanitizeName_form_lists :
    (∃ c ∈ "__List<é-Order>".toList, c.isAlphanum = true) ∧
      sanitizeName "__List<é-Order>" = "List_Order" ∧
      (sanitizeName "__List<é-Order>").toList.filter Char.isAlphanum =
        "__List<é-Order>".toList.filter Char.isAlphanum ∧
      (∀ c ∈ "_é?".toList, c.isAlphanum ≠ true) ∧ sanitizeName "_é?" = "Unknown" := by
  have hsome : ∃ c ∈ "__List<é-Order>".toList, c.isAlphanum = true := ⟨'L', by decide, by decide⟩
  have hnone : ∀ c ∈ "_é?".toList, c.isAlphanum ≠ true := List.forall_iff_forall_mem.mp (by decide)
  exact ⟨hsome, by decide +kernel, (sanitizeName_form "__List<é-Order>").2.1 hsome, hnone,
    (sanitizeName_form "_é?").2.2.1 hnone⟩

end Cartograph
