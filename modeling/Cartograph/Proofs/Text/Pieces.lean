import Cartograph.Text.Dotted
import Mathlib.Data.List.Basic

/-!
# Cutting and joining

Cutting at a separator and joining with it undo each other, as long as no piece holds the separator
and there is at least one piece.
-/

namespace Cartograph.Text

variable {sep : Char}

@[simp] lemma piecesOf_nil (sep : Char) : piecesOf sep [] = [[]] := rfl

lemma piecesOf_ne_nil (sep : Char) (cs : List Char) : piecesOf sep cs ≠ [] := by
  cases cs with
  | nil => simp
  | cons c cs =>
    rw [piecesOf]
    split_ifs
    · simp
    · split <;> simp

lemma piecesOf_of_not_mem {cs : List Char} (h : sep ∉ cs) : piecesOf sep cs = [cs] := by
  induction cs with
  | nil => rfl
  | cons c cs ih =>
    simp only [List.mem_cons, not_or] at h
    rw [piecesOf, if_neg (Ne.symm h.1), ih h.2]

lemma piecesOf_append_sep (as bs : List Char) :
    piecesOf sep (as ++ sep :: bs) = piecesOf sep as ++ piecesOf sep bs := by
  induction as with
  | nil => simp [piecesOf]
  | cons a as ih =>
    by_cases ha : a = sep
    · simp [piecesOf, ha, ih]
    · obtain ⟨p, ps, hps⟩ := List.exists_cons_of_ne_nil (piecesOf_ne_nil sep as)
      simp [piecesOf, ha, ih, hps]

/-- No piece holds the separator. -/
lemma not_mem_of_mem_piecesOf {cs p : List Char} (h : p ∈ piecesOf sep cs) : sep ∉ p := by
  induction cs generalizing p with
  | nil =>
    rw [piecesOf_nil, List.mem_singleton] at h
    simp [h]
  | cons c cs ih =>
    rw [piecesOf] at h
    split_ifs at h with hc
    · rcases List.mem_cons.mp h with rfl | h
      · simp
      · exact ih h
    · obtain ⟨q, qs, hqs⟩ := List.exists_cons_of_ne_nil (piecesOf_ne_nil sep cs)
      simp only [hqs, List.mem_cons] at h ih
      rcases h with rfl | h
      · rw [List.mem_cons, not_or]
        exact ⟨Ne.symm hc, ih (Or.inl rfl)⟩
      · exact ih (Or.inr h)

lemma not_mem_of_mem_pieces {s p : String} (h : p ∈ pieces sep s) : sep ∉ p.toList := by
  obtain ⟨cs, hcs, rfl⟩ := List.mem_map.mp h
  rw [String.toList_ofList]
  exact not_mem_of_mem_piecesOf hcs

lemma pieces_of_not_mem {s : String} (h : sep ∉ s.toList) : pieces sep s = [s] := by
  simp [pieces, piecesOf_of_not_mem h]

lemma pieces_append_sep (s t : String) :
    pieces sep (s ++ String.singleton sep ++ t) = pieces sep s ++ pieces sep t := by
  have hchars : (s ++ String.singleton sep ++ t).toList = s.toList ++ sep :: t.toList := by
    simp
  rw [pieces, hchars, piecesOf_append_sep, List.map_append, pieces, pieces]

/-- What is joined behind a separator has one before each text. -/
lemma sep_append_intercalate (sep : String) {ys : List String} (hy : ys ≠ []) :
    sep ++ sep.intercalate ys = String.join (ys.map (sep ++ ·)) := by
  induction ys with
  | nil => exact absurd rfl hy
  | cons y ys ih =>
    cases ys with
    | nil => simp
    | cons y' ys =>
      rw [List.map_cons, String.join_cons, ← ih (List.cons_ne_nil y' ys),
        String.intercalate_cons_cons]
      simp only [String.append_assoc]

/-- Texts that follow, each behind a separator, are joined with those before. -/
lemma intercalate_append_join (sep : String) {xs : List String} (hx : xs ≠ []) (ys : List String) :
    sep.intercalate xs ++ String.join (ys.map (sep ++ ·)) = sep.intercalate (xs ++ ys) := by
  by_cases hy : ys = []
  · subst hy
    simp
  · rw [← sep_append_intercalate sep hy, String.intercalate_append_of_ne_nil hx hy,
      String.append_assoc]

/-- A character of joined texts is one of the separator or of a text. -/
lemma mem_toList_intercalate {c : Char} {sep : String} {xs : List String}
    (h : c ∈ (sep.intercalate xs).toList) : c ∈ sep.toList ∨ ∃ x ∈ xs, c ∈ x.toList := by
  induction xs with
  | nil => simp at h
  | cons x xs ih =>
    cases xs with
    | nil => exact .inr ⟨x, List.mem_cons_self, h⟩
    | cons y ys =>
      rw [String.intercalate_cons_cons, String.toList_append, String.toList_append, List.mem_append,
        List.mem_append] at h
      rcases h with (hx | hsep) | hrest
      · exact .inr ⟨x, List.mem_cons_self, hx⟩
      · exact .inl hsep
      · rcases ih hrest with hsep | ⟨z, hz, hc⟩
        · exact .inl hsep
        · exact .inr ⟨z, List.mem_cons_of_mem x hz, hc⟩

/-- Cutting undoes joining. -/
lemma pieces_intercalate {texts : List String} (hne : texts ≠ [])
    (h : ∀ t ∈ texts, sep ∉ t.toList) :
    pieces sep ((String.singleton sep).intercalate texts) = texts := by
  induction texts with
  | nil => exact absurd rfl hne
  | cons s texts ih =>
    have hs : sep ∉ s.toList := h s List.mem_cons_self
    cases texts with
    | nil => rw [String.intercalate_singleton, pieces_of_not_mem hs]
    | cons t rest =>
      rw [String.intercalate_cons_cons, pieces_append_sep, pieces_of_not_mem hs,
        ih (List.cons_ne_nil t rest) fun x hx => h x (List.mem_cons_of_mem s hx),
        List.singleton_append]

lemma intercalate_piecesOf (sep : Char) (cs : List Char) :
    (String.singleton sep).intercalate ((piecesOf sep cs).map String.ofList) =
      String.ofList cs := by
  have hcons : ∀ (c : Char) (ds : List Char),
      String.ofList (c :: ds) = String.singleton c ++ String.ofList ds := by
    intro c ds
    rw [← List.singleton_append, String.ofList_append]
    rfl
  induction cs with
  | nil => rfl
  | cons c cs ih =>
    obtain ⟨p, ps, hps⟩ := List.exists_cons_of_ne_nil (piecesOf_ne_nil sep cs)
    rw [hps, List.map_cons] at ih
    rw [hcons, ← ih, piecesOf, hps]
    split_ifs with hc
    · rw [hc, List.map_cons, List.map_cons, String.intercalate_cons_cons, String.ofList_nil,
        String.empty_append]
    · rw [List.map_cons, hcons, String.intercalate_cons_append]

/-- Joining undoes cutting. -/
lemma intercalate_pieces (sep : Char) (s : String) :
    (String.singleton sep).intercalate (pieces sep s) = s := by
  rw [pieces, intercalate_piecesOf, String.ofList_toList]

/-- Lines that each end with the separator are cut back into these lines, and nothing is left. -/
lemma pieces_join_lines {lines : List String} (h : ∀ l ∈ lines, sep ∉ l.toList) :
    pieces sep (String.join (lines.map (· ++ String.singleton sep))) = lines ++ [""] := by
  induction lines with
  | nil => rfl
  | cons l lines ih =>
    rw [List.map_cons, String.join_cons, pieces_append_sep,
      pieces_of_not_mem (h l List.mem_cons_self), ih fun x hx => h x (List.mem_cons_of_mem l hx),
      List.singleton_append, List.cons_append]

end Cartograph.Text
