import Cartograph.Proofs.Text.Dotted

/-!
# Names above a name

A dotted name lies above another one if the other goes on behind it with a dot. The names above a
name are found by cutting it at its last dot again and again, and of two of them the shorter lies
above the longer.
-/

namespace Cartograph.Text

/-- The name goes on behind the other one with a dot. -/
def IsAbove (above name : String) : Prop := ∃ rest, name = above ++ "." ++ rest

variable {a b above name : String}

lemma startsWith_dot_iff : name.startsWith (above ++ ".") = true ↔ IsAbove above name :=
  startsWith_iff

lemma isAbove_iff_isPrefix : IsAbove above name ↔ above.toList ++ ['.'] <+: name.toList := by
  rw [← startsWith_dot_iff, String.startsWith_string_iff, String.toList_append]
  rfl

instance (above name : String) : Decidable (IsAbove above name) :=
  decidable_of_iff _ isAbove_iff_isPrefix.symm

/-! ### Order -/

lemma IsAbove.length_lt (h : IsAbove above name) : above.length < name.length := by
  obtain ⟨rest, rfl⟩ := h
  have hdot : ".".length = 1 := rfl
  rw [String.length_append, String.length_append, hdot]
  omega

lemma IsAbove.trans (hab : IsAbove above a) (hb : IsAbove a name) : IsAbove above name := by
  obtain ⟨rest, rfl⟩ := hab
  obtain ⟨more, rfl⟩ := hb
  exact ⟨rest ++ "." ++ more, by simp only [String.append_assoc]⟩

/-- Of two names above one name the shorter lies above the longer. -/
lemma IsAbove.of_length_lt (ha : IsAbove a name) (hb : IsAbove b name)
    (hlt : a.length < b.length) : IsAbove a b := by
  rw [isAbove_iff_isPrefix] at ha hb ⊢
  refine List.prefix_of_prefix_length_le ha ((List.prefix_append _ _).trans hb) ?_
  rw [List.length_append, String.length_toList, String.length_toList]
  exact hlt

/-- A name has at most one name of each length above it. -/
lemma IsAbove.eq_of_length_eq (ha : IsAbove a name) (hb : IsAbove b name)
    (heq : a.length = b.length) : a = b := by
  rw [isAbove_iff_isPrefix] at ha hb
  have hbegins : a.toList <+: b.toList := by
    refine List.prefix_of_prefix_length_le ((List.prefix_append _ _).trans ha)
      ((List.prefix_append _ _).trans hb) ?_
    rw [String.length_toList, String.length_toList, heq]
  rw [← String.toList_inj]
  apply hbegins.eq_of_length
  rw [String.length_toList, String.length_toList, heq]

/-! ### Cutting at the last dot -/

lemma IsAbove.dot_mem (h : IsAbove above name) : '.' ∈ name.toList := by
  obtain ⟨rest, rfl⟩ := h
  simp

/-- A name with a dot is what stands before its last dot, the dot and its last segment. -/
lemma qualifier_dot_simpleName (h : '.' ∈ name.toList) :
    qualifier name ++ "." ++ simpleName name = name := by
  obtain ⟨after, before, hreverse, hafter⟩ := List.eq_append_cons_of_mem (List.mem_reverse.mpr h)
  have hname : name.toList = before.reverse ++ '.' :: after.reverse := by
    rw [← List.reverse_reverse name.toList, hreverse]
    simp
  have htext : name = String.ofList before.reverse ++ "." ++ String.ofList after.reverse := by
    rw [← String.toList_inj, hname]
    simp
  have hdot : '.' ∉ (String.ofList after.reverse).toList := by simpa using hafter
  rw [htext, qualifier_qualified _ hdot, simpleName_qualified _ hdot]

lemma isAbove_qualifier (h : '.' ∈ name.toList) : IsAbove (qualifier name) name :=
  ⟨simpleName name, (qualifier_dot_simpleName h).symm⟩

/-- What lies above a name is what stands before its last dot, or lies above that. -/
lemma IsAbove.eq_or_isAbove_qualifier (h : IsAbove above name) :
    above = qualifier name ∨ IsAbove above (qualifier name) := by
  have hqualifier := isAbove_qualifier h.dot_mem
  rcases Nat.lt_trichotomy above.length (qualifier name).length with hlt | heq | hgt
  · exact .inr (h.of_length_lt hqualifier hlt)
  · exact .inl (h.eq_of_length_eq hqualifier heq)
  · -- a longer name would put a dot into the last segment
    obtain ⟨rest, hrest⟩ := hqualifier.of_length_lt h hgt
    obtain ⟨more, hmore⟩ := h
    have hname : qualifier name ++ "." ++ simpleName name =
        qualifier name ++ "." ++ (rest ++ "." ++ more) :=
      calc qualifier name ++ "." ++ simpleName name
          = name := qualifier_dot_simpleName hqualifier.dot_mem
        _ = above ++ "." ++ more := hmore
        _ = qualifier name ++ "." ++ (rest ++ "." ++ more) := by
          rw [hrest]
          simp only [String.append_assoc]
    have hsegment : simpleName name = rest ++ "." ++ more := by
      simpa [← String.toList_inj] using hname
    have hdot := not_dot_mem_simpleName name
    rw [hsegment] at hdot
    simp at hdot

end Cartograph.Text
