import Cartograph.Text.Dotted
import Mathlib.Data.List.Infix

/-!
# Generic sections of a name

A section in angle brackets is left out of a name wherever it stands and however deep brackets are
nested in it. The text around it is arbitrary and may itself have brackets that close nothing or
that are never closed: the scan passes over a well-nested section at any depth and comes out at the
depth at which it went in.
-/

namespace Cartograph.Text

/-! ### Well-nested brackets -/

/-- The angle brackets of a text are well nested: no beginning of it closes more of them than it has
opened, and at its end all are closed. -/
structure WellNested (s : String) : Prop where
  closes_le : ∀ start, start <+: s.toList → start.count '>' ≤ start.count '<'
  closed : s.toList.count '<' = s.toList.count '>'

lemma wellNested_iff {s : String} :
    WellNested s ↔
      (s.toList.inits.all fun start => start.count '>' ≤ start.count '<') = true ∧
        s.toList.count '<' = s.toList.count '>' := by
  simp only [List.all_eq_true, List.mem_inits, decide_eq_true_eq]
  exact ⟨fun h => ⟨h.closes_le, h.closed⟩, fun h => ⟨h.1, h.2⟩⟩

instance (s : String) : Decidable (WellNested s) := decidable_of_iff' _ wellNested_iff

/-! ### The scan -/

/-- The depth of nesting after the characters. -/
def depthAfter : Nat → List Char → Nat
  | depth, [] => depth
  | depth, c :: cs =>
    if c = '<' then depthAfter (depth + 1) cs
    else if c = '>' then depthAfter (depth - 1) cs
    else depthAfter depth cs

/-- What follows is scanned at the depth that was reached before. -/
lemma outsideBrackets_append (depth : Nat) (xs ys : List Char) :
    outsideBrackets depth (xs ++ ys) =
      outsideBrackets depth xs ++ outsideBrackets (depthAfter depth xs) ys := by
  induction xs generalizing depth with
  | nil => rfl
  | cons x xs ih =>
    simp only [List.cons_append, outsideBrackets, depthAfter]
    split_ifs with hopen hclose hdepth
    · exact ih (depth + 1)
    · exact ih (depth - 1)
    · rw [hdepth, ih 0, List.cons_append]
    · exact ih depth

/-- Only what is no bracket is kept. -/
lemma ne_bracket_of_mem_outsideBrackets {depth : Nat} {cs : List Char} {c : Char}
    (h : c ∈ outsideBrackets depth cs) : c ≠ '<' ∧ c ≠ '>' := by
  fun_induction outsideBrackets depth cs with
  | case1 => simp at h
  | case2 depth cs ih => exact ih h
  | case3 depth cs _ ih => exact ih h
  | case4 d cs hopen hclose ih =>
    rcases List.mem_cons.mp h with rfl | h
    · exact ⟨hopen, hclose⟩
    · exact ih h
  | case5 depth d cs _ _ _ ih => exact ih h

/-- Characters without brackets are kept and leave the scan outside of brackets. -/
lemma outsideBrackets_of_not_mem {cs : List Char} (hopen : '<' ∉ cs) (hclose : '>' ∉ cs) :
    outsideBrackets 0 cs = cs := by
  induction cs with
  | nil => rfl
  | cons c cs ih =>
    rw [List.mem_cons, not_or] at hopen hclose
    rw [outsideBrackets, if_neg (Ne.symm hopen.1), if_neg (Ne.symm hclose.1), if_pos rfl,
      ih hopen.2 hclose.2]

lemma depthAfter_of_not_mem {cs : List Char} (hopen : '<' ∉ cs) (hclose : '>' ∉ cs)
    (depth : Nat) : depthAfter depth cs = depth := by
  induction cs with
  | nil => rfl
  | cons c cs ih =>
    rw [List.mem_cons, not_or] at hopen hclose
    rw [depthAfter, if_neg (Ne.symm hopen.1), if_neg (Ne.symm hclose.1), ih hopen.2 hclose.2]

/-! ### Inside of a section -/

/-- With so many brackets open, no beginning of the characters closes more than are open. -/
def StaysInside (depth : Nat) (cs : List Char) : Prop :=
  ∀ start, start <+: cs → start.count '>' ≤ start.count '<' + depth

variable {depth : Nat} {cs : List Char}

lemma StaysInside.cons {c : Char} (h : StaysInside depth (c :: cs)) {start : List Char}
    (hstart : start <+: cs) : (c :: start).count '>' ≤ (c :: start).count '<' + depth :=
  h (c :: start) ((List.prefix_cons_inj c).mpr hstart)

lemma StaysInside.of_open (h : StaysInside depth ('<' :: cs)) : StaysInside (depth + 1) cs := by
  intro start hstart
  have hcons := h.cons hstart
  rw [List.count_cons_of_ne (by decide), List.count_cons_self] at hcons
  omega

lemma StaysInside.of_close (h : StaysInside depth ('>' :: cs)) :
    ∃ outer, depth = outer + 1 ∧ StaysInside outer cs := by
  have hcons {start : List Char} (hstart : start <+: cs) :
      start.count '>' + 1 ≤ start.count '<' + depth := by
    have := h.cons hstart
    rwa [List.count_cons_self, List.count_cons_of_ne (by decide)] at this
  have hpos : 1 ≤ depth := by simpa using hcons List.nil_prefix
  refine ⟨depth - 1, by omega, ?_⟩
  intro start hstart
  have := hcons hstart
  omega

lemma StaysInside.of_other {c : Char} (hopen : c ≠ '<') (hclose : c ≠ '>')
    (h : StaysInside depth (c :: cs)) : StaysInside depth cs := by
  intro start hstart
  have hcons := h.cons hstart
  rwa [List.count_cons_of_ne hclose, List.count_cons_of_ne hopen] at hcons

/-- Inside of a section nothing is kept. -/
lemma StaysInside.outsideBrackets_eq_nil (h : StaysInside depth cs) :
    outsideBrackets (depth + 1) cs = [] := by
  induction cs generalizing depth with
  | nil => rfl
  | cons c cs ih =>
    rw [outsideBrackets, if_neg depth.succ_ne_zero]
    split_ifs with hopen hclose
    · subst hopen
      exact ih h.of_open
    · subst hclose
      obtain ⟨outer, rfl, houter⟩ := h.of_close
      exact ih houter
    · exact ih (h.of_other hopen hclose)

/-- Inside of a section the depth follows the brackets and is never cut off at zero. -/
lemma StaysInside.depthAfter_add (h : StaysInside depth cs) :
    depthAfter (depth + 1) cs + cs.count '>' = depth + 1 + cs.count '<' := by
  induction cs generalizing depth with
  | nil => rfl
  | cons c cs ih =>
    rw [depthAfter]
    split_ifs with hopen hclose
    · subst hopen
      rw [List.count_cons_of_ne (by decide), List.count_cons_self, ih h.of_open]
      omega
    · subst hclose
      obtain ⟨outer, rfl, houter⟩ := h.of_close
      have := ih houter
      rw [List.count_cons_self, List.count_cons_of_ne (by decide), Nat.add_sub_cancel]
      omega
    · rw [List.count_cons_of_ne hclose, List.count_cons_of_ne hopen,
        ih (h.of_other hopen hclose)]

/-- At any depth the scan passes over a section and goes on at this depth. -/
lemma outsideBrackets_section {x : String} (hx : WellNested x) (depth : Nat) (rest : List Char) :
    outsideBrackets depth ('<' :: (x.toList ++ '>' :: rest)) = outsideBrackets depth rest := by
  have hinside : StaysInside depth x.toList := fun start hstart =>
    Nat.le_add_right_of_le (hx.closes_le start hstart)
  have hdepth : depthAfter (depth + 1) x.toList = depth + 1 := by
    have := hinside.depthAfter_add
    rw [hx.closed] at this
    omega
  calc outsideBrackets depth ('<' :: (x.toList ++ '>' :: rest))
      = outsideBrackets (depth + 1) (x.toList ++ '>' :: rest) := by
        rw [outsideBrackets, if_pos rfl]
    _ = outsideBrackets (depth + 1) ('>' :: rest) := by
        rw [outsideBrackets_append, hinside.outsideBrackets_eq_nil, hdepth, List.nil_append]
    _ = outsideBrackets depth rest := by
        rw [outsideBrackets, if_neg (by decide), if_pos rfl, Nat.add_sub_cancel]

/-! ### Names with sections -/

lemma not_bracket_mem_stripGenerics (s : String) :
    '<' ∉ (stripGenerics s).toList ∧ '>' ∉ (stripGenerics s).toList := by
  rw [stripGenerics, String.toList_ofList]
  exact ⟨fun h => (ne_bracket_of_mem_outsideBrackets h).1 rfl,
    fun h => (ne_bracket_of_mem_outsideBrackets h).2 rfl⟩

/-- A text without brackets is kept, whatever follows it. -/
lemma stripGenerics_append_of_not_mem {s : String} (hopen : '<' ∉ s.toList)
    (hclose : '>' ∉ s.toList) (rest : String) :
    stripGenerics (s ++ rest) = s ++ stripGenerics rest := by
  rw [stripGenerics, String.toList_append, outsideBrackets_append,
    outsideBrackets_of_not_mem hopen hclose, depthAfter_of_not_mem hopen hclose,
    String.ofList_append, String.ofList_toList, stripGenerics]

lemma stripGenerics_of_not_mem {s : String} (hopen : '<' ∉ s.toList) (hclose : '>' ∉ s.toList) :
    stripGenerics s = s := by
  rw [stripGenerics, outsideBrackets_of_not_mem hopen hclose, String.ofList_toList]

lemma stripGenerics_section {x : String} (hx : WellNested x) (before after : String) :
    stripGenerics (before ++ "<" ++ x ++ ">" ++ after) = stripGenerics (before ++ after) := by
  have hchars : (before ++ "<" ++ x ++ ">" ++ after).toList =
      before.toList ++ '<' :: (x.toList ++ '>' :: after.toList) := by
    simp
  rw [stripGenerics, stripGenerics, hchars, String.toList_append, outsideBrackets_append,
    outsideBrackets_append, outsideBrackets_section hx]

/-- A part of a name: a text outside of all brackets, dots included, or a generic section. -/
inductive NamePart
  | outer (text : String)
  | generic (inside : String)

namespace NamePart

def spelled : NamePart → String
  | outer text => text
  | generic inside => "<" ++ inside ++ ">"

/-- What the part adds to the outer name. -/
def kept : NamePart → String
  | outer text => text
  | generic _ => ""

/-- A text outside has no brackets, and those in a section are well nested. -/
def IsWritten : NamePart → Prop
  | outer text => '<' ∉ text.toList ∧ '>' ∉ text.toList
  | generic inside => WellNested inside

instance : DecidablePred IsWritten
  | outer _ => inferInstanceAs (Decidable (_ ∧ _))
  | generic inside => inferInstanceAs (Decidable (WellNested inside))

lemma stripGenerics_spelled_append {part : NamePart} (h : part.IsWritten) (rest : String) :
    stripGenerics (part.spelled ++ rest) = part.kept ++ stripGenerics rest := by
  cases part with
  | outer text => exact stripGenerics_append_of_not_mem h.1 h.2 rest
  | generic inside => simpa [spelled, kept] using stripGenerics_section h "" rest

lemma stripGenerics_join_spelled {parts : List NamePart} (h : ∀ p ∈ parts, p.IsWritten) :
    stripGenerics (String.join (parts.map spelled)) = String.join (parts.map kept) := by
  induction parts with
  | nil => rfl
  | cons part parts ih =>
    obtain ⟨hpart, hparts⟩ := List.forall_mem_cons.mp h
    calc stripGenerics (String.join ((part :: parts).map spelled))
        = stripGenerics (part.spelled ++ String.join (parts.map spelled)) := by
          rw [List.map_cons, String.join_cons]
      _ = part.kept ++ stripGenerics (String.join (parts.map spelled)) :=
          stripGenerics_spelled_append hpart _
      _ = part.kept ++ String.join (parts.map kept) := by rw [ih hparts]
      _ = String.join ((part :: parts).map kept) := by rw [List.map_cons, String.join_cons]

end NamePart

/-- What is left of a text when its generic sections are dropped has no angle brackets, and there is
then nothing more to drop. A well-nested section in brackets makes no difference, whatever stands
before and after it. A name with generic sections anywhere thus becomes its outer name. -/
theorem stripGenerics_drops_sections :
    (∀ s : String, '<' ∉ (stripGenerics s).toList ∧ '>' ∉ (stripGenerics s).toList ∧
      stripGenerics (stripGenerics s) = stripGenerics s) ∧
    (∀ before x after : String, WellNested x →
      stripGenerics (before ++ "<" ++ x ++ ">" ++ after) = stripGenerics (before ++ after)) ∧
    ∀ parts : List NamePart, (∀ p ∈ parts, p.IsWritten) →
      stripGenerics (String.join (parts.map NamePart.spelled)) =
        String.join (parts.map NamePart.kept) := by
  refine ⟨?_, ?_, ?_⟩
  · intro s
    obtain ⟨hopen, hclose⟩ := not_bracket_mem_stripGenerics s
    exact ⟨hopen, hclose, stripGenerics_of_not_mem hopen hclose⟩
  · intro before x after hx
    exact stripGenerics_section hx before after
  · intro parts hparts
    exact NamePart.stripGenerics_join_spelled hparts

/-- A section between texts whose own brackets do not match, and a dotted name with sections in two
of its segments, one of them nested. -/
theorem stripGenerics_drops_sections_entry :
    let parts : List NamePart :=
      [.outer "Map", .generic "K,List<V>", .outer ".Entry", .generic "?"]
    WellNested "K,List<V>" ∧ (∀ p ∈ parts, p.IsWritten) ∧
      stripGenerics ("Map>" ++ "<" ++ "K,List<V>" ++ ">" ++ ".Entry<") = "Map.Entry" ∧
      stripGenerics "Map<K,List<V>>.Entry<?>" = "Map.Entry" := by
  intro parts
  have hx : WellNested "K,List<V>" := by decide
  have hparts : ∀ p ∈ parts, p.IsWritten := by decide
  have hspelled : String.join (parts.map NamePart.spelled) = "Map<K,List<V>>.Entry<?>" := by decide
  have hkept : String.join (parts.map NamePart.kept) = "Map.Entry" := by decide
  refine ⟨hx, hparts, ?_, ?_⟩
  · rw [stripGenerics_drops_sections.2.1 _ _ _ hx]
    decide
  · rw [← hspelled, ← hkept]
    exact stripGenerics_drops_sections.2.2 parts hparts

end Cartograph.Text
