import Cartograph.Label
import Mathlib.Data.List.Basic

/-!
# Names and labels stay on their lines

Whatever characters a source has in its names and texts, what is shown of them has no newline: a
sanitized name has name characters only, an escaped label has blanks in place of newlines, and a
member is rendered from sanitized names.
-/

namespace Cartograph

open Text

/-- The text has no newline. -/
def OneLine (s : String) : Prop := '\n' ∉ s.toList

instance (s : String) : Decidable (OneLine s) := inferInstanceAs (Decidable ('\n' ∉ s.toList))

lemma OneLine.append {s t : String} (hs : OneLine s) (ht : OneLine t) : OneLine (s ++ t) := by
  rw [OneLine, String.toList_append, List.mem_append, not_or]
  exact ⟨hs, ht⟩

/-! ### Names -/

lemma mem_of_mem_squeeze {sep c : Char} {afterSep : Bool} {cs : List Char}
    (h : c ∈ squeeze sep afterSep cs) : c ∈ cs := by
  induction cs generalizing afterSep with
  | nil => exact h
  | cons d cs ih =>
    rw [squeeze] at h
    split_ifs at h with hsep hafter
    · exact List.mem_cons_of_mem d (ih h)
    · subst hsep
      exact List.mem_cons.mpr ((List.mem_cons.mp h).imp_right ih)
    · exact List.mem_cons.mpr ((List.mem_cons.mp h).imp_right ih)

/-- Trimming at both ends adds nothing. -/
lemma mem_of_mem_trimmed {q : Char → Bool} {c : Char} {cs : List Char}
    (h : c ∈ ((cs.dropWhile q).reverse.dropWhile q).reverse) : c ∈ cs := by
  have hback := (List.dropWhile_suffix q).subset (List.mem_reverse.mp h)
  exact (List.dropWhile_suffix q).subset (List.mem_reverse.mp hback)

/-- A sanitized name has name characters only. -/
lemma isNameChar_of_mem_sanitizeName {name : String} {c : Char}
    (h : c ∈ (sanitizeName name).toList) : isNameChar c = true := by
  have hunknown : ∀ c ∈ "Unknown".toList, isNameChar c = true :=
    List.forall_iff_forall_mem.mp (by decide)
  unfold sanitizeName at h
  simp only at h
  split_ifs at h with hempty
  · exact hunknown c h
  · rw [String.toList_ofList] at h
    obtain ⟨d, -, rfl⟩ := List.mem_map.mp (mem_of_mem_squeeze (mem_of_mem_trimmed h))
    split_ifs with hd
    · exact hd
    · decide

lemma oneLine_sanitizeName (name : String) : OneLine (sanitizeName name) :=
  fun h => absurd (isNameChar_of_mem_sanitizeName h) (by decide)

/-! ### Labels -/

lemma oneLine_escapeLabel (label : String) : OneLine (escapeLabel label) := by
  intro h
  rw [escapeLabel, trim, String.toList_ofList, String.toList_ofList] at h
  obtain ⟨c, -, hc⟩ := List.mem_flatMap.mp (mem_of_mem_trimmed h)
  -- A bar gives a backslash and a bar, a newline gives a blank, and any other character is not
  -- a newline.
  split_ifs at hc with hbar hnewline
  · simp at hc
  · simp at hc
  · rw [List.mem_singleton] at hc
    exact hnewline (Or.inl hc.symm)

/-! ### Members -/

lemma oneLine_visibilitySign (v : Java.Visibility) : OneLine (visibilitySign v) := by
  cases v <;> decide

lemma oneLine_render (m : MemberInfo) : OneLine m.render := by
  unfold MemberInfo.render
  refine (((oneLine_visibilitySign _).append (oneLine_sanitizeName _)).append ?_).append ?_
  · split_ifs <;> decide
  · split
    · split_ifs
      · decide
      · exact OneLine.append (by decide) (oneLine_sanitizeName _)
    · decide

end Cartograph
