import Cartograph.Text.Dotted
import Mathlib.Data.List.Nodup

/-!
# Texts in ascending order

Sorting puts texts into the one ascending order that they have, so it forgets in which order they
came. Entries are sorted by their keys; if no two have the same key, the keys strictly ascend.
-/

namespace Cartograph.Text

variable {α : Type}

lemma le_trans_text (a b c : String) (hab : decide (a ≤ b) = true) (hbc : decide (b ≤ c) = true) :
    decide (a ≤ c) = true := by
  rw [decide_eq_true_eq] at *
  exact String.le_trans hab hbc

lemma le_total_text (a b : String) : (decide (a ≤ b) || decide (b ≤ a)) = true := by
  rw [Bool.or_eq_true, decide_eq_true_eq, decide_eq_true_eq]
  exact String.le_total a b

lemma pairwise_le_mergeSort (texts : List String) :
    (texts.mergeSort (· ≤ ·)).Pairwise (· ≤ ·) := by
  have h := List.pairwise_mergeSort le_trans_text le_total_text texts
  exact h.imp fun hab => of_decide_eq_true hab

/-- Ascending texts without repeats strictly ascend. -/
lemma pairwise_lt_of_le_of_nodup {texts : List String} (hle : texts.Pairwise (· ≤ ·))
    (hnodup : texts.Nodup) : texts.Pairwise (· < ·) := by
  refine hle.imp₂ (fun a b hab hne => ?_) hnodup
  rw [← String.not_le]
  exact fun hge => hne (String.le_antisymm hab hge)

/-- Texts without repeats strictly ascend once they are sorted. -/
lemma pairwise_lt_mergeSort {texts : List String} (h : texts.Nodup) :
    (texts.mergeSort (· ≤ ·)).Pairwise (· < ·) :=
  pairwise_lt_of_le_of_nodup (pairwise_le_mergeSort texts)
    ((List.mergeSort_perm _ _).nodup_iff.mpr h)

/-- Two ascending lists of the same texts are equal. -/
lemma eq_of_perm_of_pairwise_le {as bs : List String} (h : as.Perm bs)
    (ha : as.Pairwise (· ≤ ·)) (hb : bs.Pairwise (· ≤ ·)) : as = bs :=
  h.eq_of_pairwise (fun _ _ _ _ => String.le_antisymm) ha hb

/-- Sorting forgets the order. -/
lemma mergeSort_eq_of_perm {as bs : List String} (h : as.Perm bs) :
    as.mergeSort (· ≤ ·) = bs.mergeSort (· ≤ ·) := by
  apply eq_of_perm_of_pairwise_le _ (pairwise_le_mergeSort as) (pairwise_le_mergeSort bs)
  exact (List.mergeSort_perm as _).trans (h.trans (List.mergeSort_perm bs _).symm)

/-- Sorting by a linear order and filtering can be exchanged. -/
lemma mergeSort_filter_of_linear {le : α → α → Bool}
    (trans : ∀ a b c, le a b = true → le b c = true → le a c = true)
    (total : ∀ a b, (le a b || le b a) = true)
    (antisymm : ∀ a b, le a b = true → le b a = true → a = b) (xs : List α) (p : α → Bool) :
    (xs.filter p).mergeSort le = (xs.mergeSort le).filter p := by
  apply List.Perm.eq_of_pairwise fun a b _ _ => antisymm a b
  · exact List.pairwise_mergeSort trans total _
  · exact (List.pairwise_mergeSort trans total xs).filter p
  · exact (List.mergeSort_perm _ _).trans ((List.mergeSort_perm _ _).filter p).symm

lemma mergeSort_filter (texts : List String) (p : String → Bool) :
    (texts.filter p).mergeSort (· ≤ ·) = (texts.mergeSort (· ≤ ·)).filter p := by
  apply mergeSort_filter_of_linear le_trans_text le_total_text
  intro a b hab hba
  exact String.le_antisymm (of_decide_eq_true hab) (of_decide_eq_true hba)

/-- Entries sorted by their keys have sorted keys. -/
lemma map_fst_mergeSort (entries : List (String × α)) :
    (entries.mergeSort fun a b => a.1 ≤ b.1).map (·.1) =
      (entries.map (·.1)).mergeSort (· ≤ ·) :=
  List.map_mergeSort fun _ _ _ _ => rfl

end Cartograph.Text
