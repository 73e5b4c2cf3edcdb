import Cartograph.Text.Dotted
import Mathlib.Data.List.Chain

/-!
# Characters without repeated separators

`squeeze` goes over characters once and leaves out every separator behind another one. It changes
nothing between separators, no two separators come out next to each other, and it does not matter
whether a part of the characters has been gone over before. Characters without two separators in a
row are left as they are.
-/

namespace Cartograph.Text

variable {sep : Char}

lemma squeeze_append_of_not_mem {as : List Char} (h : sep ∉ as) (hne : as ≠ []) (afterSep : Bool)
    (bs : List Char) : squeeze sep afterSep (as ++ bs) = as ++ squeeze sep false bs := by
  induction as generalizing afterSep with
  | nil => exact absurd rfl hne
  | cons a as ih =>
    rw [List.mem_cons, not_or] at h
    rw [List.cons_append, squeeze, if_neg (Ne.symm h.1), List.cons_append]
    cases as with
    | nil => rfl
    | cons b as => rw [ih h.2 (List.cons_ne_nil b as)]

lemma squeeze_of_not_mem {cs : List Char} (h : sep ∉ cs) (afterSep : Bool) :
    squeeze sep afterSep cs = cs := by
  by_cases hne : cs = []
  · rw [hne, squeeze]
  · simpa [squeeze] using squeeze_append_of_not_mem h hne afterSep []

/-- What has been passed may be passed again together with what follows. -/
lemma squeeze_squeeze_append (afterSep : Bool) (as bs : List Char) :
    squeeze sep afterSep (squeeze sep afterSep as ++ bs) = squeeze sep afterSep (as ++ bs) := by
  fun_induction squeeze sep afterSep as with
  | case1 => rfl
  | case2 as ih => rw [ih, List.cons_append, squeeze, if_pos rfl, if_pos rfl]
  | case3 afterSep as hafter ih => simp [squeeze, hafter, ih]
  | case4 afterSep c as hc ih => simp [squeeze, hc, ih]

lemma squeeze_append_squeeze (afterSep : Bool) (as bs : List Char) :
    squeeze sep afterSep (as ++ sep :: squeeze sep true bs) =
      squeeze sep afterSep (as ++ sep :: bs) := by
  have hpassed : squeeze sep true (squeeze sep true bs) = squeeze sep true bs := by
    simpa using squeeze_squeeze_append true bs []
  induction as generalizing afterSep with
  | nil => simp [squeeze, hpassed]
  | cons a as ih => simp [squeeze, ih]

/-- A separator behind another one makes no difference. -/
lemma squeeze_append_sep_sep (afterSep : Bool) (as bs : List Char) :
    squeeze sep afterSep (as ++ sep :: sep :: bs) = squeeze sep afterSep (as ++ sep :: bs) := by
  induction as generalizing afterSep with
  | nil => simp [squeeze]
  | cons a as ih => simp [squeeze, ih]

/-- No two separators come out next to each other. The invariant is about the character `last` that
was written last. -/
lemma isChain_squeeze (sep last : Char) (cs : List Char) :
    (last :: squeeze sep (last = sep) cs).IsChain fun a b => ¬(a = sep ∧ b = sep) := by
  induction cs generalizing last with
  | nil => simp [squeeze]
  | cons c cs ih =>
    by_cases hc : c = sep
    · subst hc
      by_cases hlast : last = c
      · subst hlast
        simpa [squeeze] using ih last
      · simpa [squeeze, hlast] using ih c
    · simpa [squeeze, hc] using ih c

lemma isChain_iff_no_double {cs : List Char} :
    (cs.IsChain fun a b => ¬(a = sep ∧ b = sep)) ↔ ¬[sep, sep] <:+: cs := by
  constructor
  · rintro hchain ⟨before, after, rfl⟩
    rw [List.append_assoc, List.cons_append, List.cons_append] at hchain
    exact (List.isChain_append_cons_cons.mp hchain).2.1 ⟨rfl, rfl⟩
  · intro hdouble
    refine (List.isChain_isInfix cs).imp ?_
    rintro a b hpair ⟨rfl, rfl⟩
    exact hdouble hpair

/-- Characters without two separators in a row are left as they are. -/
lemma squeeze_of_isChain {cs : List Char} (h : cs.IsChain fun a b => ¬(a = sep ∧ b = sep))
    {afterSep : Bool} (hfirst : afterSep = true → cs.head? ≠ some sep) :
    squeeze sep afterSep cs = cs := by
  induction cs generalizing afterSep with
  | nil => rw [squeeze]
  | cons c cs ih =>
    obtain ⟨hpair, hrest⟩ := List.isChain_cons.mp h
    by_cases hc : c = sep
    · subst hc
      have hafter : afterSep = false := by simpa using hfirst
      have hnext : cs.head? ≠ some c := fun hhead => hpair c hhead ⟨rfl, rfl⟩
      simp [squeeze, hafter, ih hrest fun _ => hnext]
    · simp [squeeze, hc, ih hrest]

/-- What is asked of the characters that are not separators is not changed. -/
lemma filter_squeeze {q : Char → Bool} (h : q sep = false) (afterSep : Bool) (cs : List Char) :
    (squeeze sep afterSep cs).filter q = cs.filter q := by
  fun_induction squeeze sep afterSep cs with
  | case1 => rfl
  | case2 cs ih => simp [ih, h]
  | case3 afterSep cs hafter ih => simp [ih, h]
  | case4 afterSep c cs hc ih => simp [List.filter_cons, ih]

end Cartograph.Text
