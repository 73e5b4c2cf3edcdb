import Cartograph.Text.Dotted
import Mathlib.Data.List.Nodup

/-!
# First occurrences

What `fresh` keeps of a list: each item that was not met before, once, at its first place. What was
met before counts only as a set, and a longer list adds its new items behind those of the shorter.
-/

namespace Cartograph.Text

variable {α : Type} [DecidableEq α]

@[simp] lemma fresh_nil (met : List α) : fresh met [] = [] := rfl

lemma fresh_cons_of_mem {met : List α} {a : α} (h : a ∈ met) (as : List α) :
    fresh met (a :: as) = fresh met as := by
  rw [fresh, if_pos h]

lemma fresh_cons_of_not_mem {met : List α} {a : α} (h : a ∉ met) (as : List α) :
    fresh met (a :: as) = a :: fresh (a :: met) as := by
  rw [fresh, if_neg h]

@[simp] lemma mem_fresh {met as : List α} {a : α} : a ∈ fresh met as ↔ a ∈ as ∧ a ∉ met := by
  induction as generalizing met with
  | nil => simp
  | cons b as ih =>
    by_cases hb : b ∈ met
    · rw [fresh_cons_of_mem hb, ih, List.mem_cons]
      constructor
      · rintro ⟨ha, hmet⟩
        exact ⟨Or.inr ha, hmet⟩
      · rintro ⟨rfl | ha, hmet⟩
        · exact absurd hb hmet
        · exact ⟨ha, hmet⟩
    · rw [fresh_cons_of_not_mem hb, List.mem_cons, ih, List.mem_cons]
      by_cases hab : a = b
      · subst hab
        simp [hb]
      · simp [hab]

/-- No item is kept twice. -/
lemma nodup_fresh (met as : List α) : (fresh met as).Nodup := by
  induction as generalizing met with
  | nil => simp
  | cons b as ih =>
    by_cases hb : b ∈ met
    · rw [fresh_cons_of_mem hb]
      exact ih met
    · rw [fresh_cons_of_not_mem hb, List.nodup_cons]
      exact ⟨by simp, ih (b :: met)⟩

/-- What is kept stays in its order. -/
lemma fresh_sublist (met as : List α) : (fresh met as).Sublist as := by
  induction as generalizing met with
  | nil => exact List.Sublist.slnil
  | cons b as ih =>
    by_cases hb : b ∈ met
    · rw [fresh_cons_of_mem hb]
      exact (ih met).cons b
    · rw [fresh_cons_of_not_mem hb]
      exact (ih (b :: met)).cons_cons b

/-- Only the set of the items met before matters. -/
lemma fresh_congr {met met' : List α} (h : ∀ a, a ∈ met ↔ a ∈ met') (as : List α) :
    fresh met as = fresh met' as := by
  induction as generalizing met met' with
  | nil => rfl
  | cons b as ih =>
    by_cases hb : b ∈ met
    · rw [fresh_cons_of_mem hb, fresh_cons_of_mem ((h b).mp hb), ih h]
    · have hb' : b ∉ met' := fun hmem => hb ((h b).mpr hmem)
      rw [fresh_cons_of_not_mem hb, fresh_cons_of_not_mem hb']
      congr 1
      apply ih
      intro a
      simp only [List.mem_cons, h a]

lemma fresh_append (met as bs : List α) :
    fresh met (as ++ bs) = fresh met as ++ fresh (as ++ met) bs := by
  induction as generalizing met with
  | nil => rfl
  | cons a as ih =>
    by_cases ha : a ∈ met
    · rw [List.cons_append, fresh_cons_of_mem ha, fresh_cons_of_mem ha, ih]
      congr 1
      apply fresh_congr
      intro b
      by_cases hb : b = a
      · subst hb
        simp [ha]
      · simp [hb]
    · rw [List.cons_append, fresh_cons_of_not_mem ha, fresh_cons_of_not_mem ha, ih,
        List.cons_append]
      congr 2
      apply fresh_congr
      intro b
      simp only [List.mem_append, List.mem_cons]
      tauto

/-- What was met, with the new items of one list and then of another, has the new items of both. -/
lemma append_fresh_append (met as bs : List α) :
    met ++ fresh met as ++ fresh (met ++ fresh met as) bs = met ++ fresh met (as ++ bs) := by
  rw [fresh_append, List.append_assoc]
  congr 2
  apply fresh_congr
  intro b
  by_cases hb : b ∈ met <;> simp [hb]

/-- One more item at the end is kept there, unless it is in the list already. -/
lemma fresh_concat (as : List α) (a : α) :
    fresh [] (as ++ [a]) = if a ∈ as then fresh [] as else fresh [] as ++ [a] := by
  rw [fresh_append, List.append_nil]
  by_cases ha : a ∈ as
  · rw [fresh_cons_of_mem ha, fresh_nil, List.append_nil, if_pos ha]
  · rw [fresh_cons_of_not_mem ha, fresh_nil, if_neg ha]

lemma fresh_eq_eraseDups_filter (met as : List α) :
    fresh met as = (as.filter (· ∉ met)).eraseDups := by
  induction as generalizing met with
  | nil => rfl
  | cons a as ih =>
    by_cases ha : a ∈ met
    · rw [fresh_cons_of_mem ha, ih, List.filter_cons_of_neg (by simpa using ha)]
    · rw [fresh_cons_of_not_mem ha, ih, List.filter_cons_of_pos (by simpa using ha),
        List.eraseDups_cons, List.filter_filter]
      congr 2
      apply List.filter_congr
      intro b _
      by_cases hb : b = a <;> simp [hb]

/-- It does not matter whether an item was met that does not come. -/
lemma fresh_met_cons_of_not_mem {a : α} {as : List α} (h : a ∉ as) (met : List α) :
    fresh (a :: met) as = fresh met as := by
  rw [fresh_eq_eraseDups_filter, fresh_eq_eraseDups_filter]
  congr 1
  apply List.filter_congr
  intro b hb
  have hne : b ≠ a := fun heq => h (heq ▸ hb)
  simp [hne]

/-- First occurrences are what is left when repeats are erased. -/
lemma fresh_eq_eraseDups (as : List α) : fresh [] as = as.eraseDups := by
  rw [fresh_eq_eraseDups_filter]
  simp

/-- Lists of the same items have the same first occurrences, up to their order. -/
lemma perm_fresh_of_mem_iff {as bs : List α} (h : ∀ a, a ∈ as ↔ a ∈ bs) :
    (fresh [] as).Perm (fresh [] bs) := by
  rw [List.perm_ext_iff_of_nodup (nodup_fresh _ _) (nodup_fresh _ _)]
  intro a
  rw [mem_fresh, mem_fresh, h]

/-- A list that is repeated adds nothing. -/
lemma fresh_append_self (as : List α) : fresh [] (as ++ as) = fresh [] as := by
  have hnone : fresh (as ++ []) as = [] := by
    rw [List.eq_nil_iff_forall_not_mem]
    simp
  rw [fresh_append, hnone, List.append_nil]

end Cartograph.Text
