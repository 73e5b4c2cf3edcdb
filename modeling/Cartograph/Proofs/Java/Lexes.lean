import Cartograph.Proofs.Java.Reads

/-!
# Cutting text into tokens

`Lexes` relates characters to the tokens that they are cut into. Tokens are put in front one by one:
a word in front of anything that does not go on with it, a sign in front of anything with which it
makes no longer sign and no number. The text is on one line, and the gaps are single blanks.
-/

namespace Cartograph.Java

open Text Token

/-- The characters are cut into the tokens. -/
def Lexes (cs : List Char) (ts : List Token) : Prop :=
  ∀ fuel, cs.length < fuel → scan fuel 1 [] cs = some ts

lemma lexes_nil : Lexes [] [] := by
  intro fuel hfuel
  obtain ⟨n, rfl⟩ : ∃ n, fuel = n + 1 := ⟨fuel - 1, by simp at hfuel; omega⟩
  rfl

/-! ### Characters -/

/-- An ASCII character with which a word may begin. -/
def isLetter (c : Char) : Bool := c.isAlpha || c == '_' || c == '$'

/-- An ASCII character that may stand inside a word. -/
def isLetterOrDigit (c : Char) : Bool := c.isAlphanum || c == '_' || c == '$'

lemma toNat_of_isLetter {c : Char} (h : isLetter c = true) :
    (65 ≤ c.toNat ∧ c.toNat ≤ 90) ∨ (97 ≤ c.toNat ∧ c.toNat ≤ 122) ∨
      c.toNat = 95 ∨ c.toNat = 36 := by
  have hletter : isLetter c = ((decide (c.val ≥ 'A'.val ∧ c.val ≤ 'Z'.val) ||
      (decide (c.val ≥ 'a'.val) && decide (c.val ≤ 'z'.val))) || c == '_' || c == '$') := rfl
  simp only [hletter, Bool.or_eq_true, Bool.and_eq_true, decide_eq_true_eq, beq_iff_eq, ge_iff_le,
    UInt32.le_iff_toNat_le] at h
  rcases h with ((h | h) | rfl) | rfl
  · exact Or.inl h
  · exact Or.inr (Or.inl h)
  · decide
  · decide

lemma toNat_of_isDigit {c : Char} (h : c.isDigit = true) : 48 ≤ c.toNat ∧ c.toNat ≤ 57 := by
  simp only [Char.isDigit, Bool.and_eq_true, decide_eq_true_eq, ge_iff_le,
    UInt32.le_iff_toNat_le] at h
  exact h

lemma isLetterOrDigit_iff {c : Char} :
    isLetterOrDigit c = true ↔ isLetter c = true ∨ c.isDigit = true := by
  simp only [isLetterOrDigit, isLetter, Char.isAlphanum, Bool.or_eq_true]
  tauto

lemma isLetterOrDigit_of_isLetter {c : Char} (h : isLetter c = true) : isLetterOrDigit c = true :=
  isLetterOrDigit_iff.mpr (Or.inl h)

lemma isDigit_of_isLetter {c : Char} (h : isLetter c = true) : c.isDigit = false := by
  have hc := toNat_of_isLetter h
  rw [Bool.eq_false_iff]
  intro hdigit
  have := toNat_of_isDigit hdigit
  omega

/-- The codes of the characters of a word are above that of the blank and below 128. -/
lemma toNat_of_isLetterOrDigit {c : Char} (h : isLetterOrDigit c = true) :
    32 < c.toNat ∧ c.toNat < 128 := by
  rcases isLetterOrDigit_iff.mp h with hletter | hdigit
  · have := toNat_of_isLetter hletter
    omega
  · have := toNat_of_isDigit hdigit
    omega

lemma isBlank_of_isLetterOrDigit {c : Char} (h : isLetterOrDigit c = true) : isBlank c = false := by
  have hc := toNat_of_isLetterOrDigit h
  simp only [isBlank, Bool.or_eq_false_iff, Bool.and_eq_false_iff, decide_eq_false_iff_not,
    beq_eq_false_iff_ne]
  omega

lemma isWordPart_of_isLetterOrDigit {c : Char} (h : isLetterOrDigit c = true) :
    isWordPart c = true := by
  have hc := toNat_of_isLetterOrDigit h
  rw [isWordPart, if_pos (by omega)]
  exact h

lemma isWordStart_of_isLetter {c : Char} (h : isLetter c = true) : isWordStart c = true := by
  have hc := toNat_of_isLetterOrDigit (isLetterOrDigit_of_isLetter h)
  rw [isWordStart, if_pos (by omega)]
  exact h

lemma ne_of_isLetterOrDigit {c d : Char} (h : isLetterOrDigit c = true)
    (hd : isLetterOrDigit d = false) : c ≠ d := by
  rintro rfl
  simp [h] at hd

/-! ### Gaps -/

/-- A gap of one blank or none. -/
def IsSpace (gap : String) : Prop := gap = "" ∨ gap = " "

lemma isSpace_empty : IsSpace "" := Or.inl rfl

lemma isSpace_blank : IsSpace " " := Or.inr rfl

lemma takeGap_of_not_blank {c : Char} (hblank : isBlank c = false) (hslash : c ≠ '/')
    (cs : List Char) : takeGap .blanks (c :: cs) = some ([], c :: cs) := by
  unfold takeGap
  split <;> simp_all

lemma takeGap_space {gap : String} (hgap : IsSpace gap) {c : Char} (hblank : isBlank c = false)
    (hslash : c ≠ '/') (cs : List Char) :
    takeGap .blanks (gap.toList ++ c :: cs) = some (gap.toList, c :: cs) := by
  have hnone := takeGap_of_not_blank hblank hslash cs
  rcases hgap with rfl | rfl
  · exact hnone
  · have hstep : takeGap .blanks (' ' :: c :: cs) =
        (takeGap .blanks (c :: cs)).map fun found => (' ' :: found.1, found.2) := rfl
    change takeGap .blanks (' ' :: c :: cs) = some ([' '], c :: cs)
    rw [hstep, hnone, Option.map_some]

lemma lineEnds_space {gap : String} (hgap : IsSpace gap) : lineEnds gap.toList = 0 := by
  rcases hgap with rfl | rfl <;> rfl

/-- A token in front of others, told by how it is cut off. -/
lemma Lexes.cons {gap text : String} {kind : TokenClass} {c : Char} {cs rest : List Char}
    {ts : List Token} (h : Lexes rest ts) (hgap : IsSpace gap) (htext : text.toList = c :: cs)
    (hblank : isBlank c = false) (hslash : c ≠ '/') (hline : lineEnds (c :: cs) = 0)
    (hcut : cut? [] (c :: (cs ++ rest)) = some ⟨kind, c :: cs, [], rest⟩) :
    Lexes (gap.toList ++ (text.toList ++ rest)) (⟨gap, text, 1, kind⟩ :: ts) := by
  intro fuel hfuel
  rw [htext, List.cons_append] at hfuel ⊢
  simp only [List.length_append, List.length_cons] at hfuel
  obtain ⟨n, rfl⟩ : ∃ n, fuel = n + 1 := ⟨fuel - 1, by omega⟩
  have hrest : scan n 1 [] rest = some ts := h n (by omega)
  have hback : String.ofList (c :: cs) = text := by rw [← htext, String.ofList_toList]
  rw [scan, takeGap_space hgap hblank hslash]
  simp only [hcut, lineEnds_space hgap, hline, Nat.add_zero, hrest, Option.map_some,
    String.ofList_toList, hback]

/-! ### Words -/

/-- A word of ASCII letters and digits. -/
def isPlainWord (s : String) : Bool :=
  match s.toList with
  | [] => false
  | c :: cs => isLetter c && cs.all isLetterOrDigit

lemma exists_of_isPlainWord {s : String} (h : isPlainWord s = true) :
    ∃ c cs, s.toList = c :: cs ∧ isLetter c = true ∧ ∀ d ∈ c :: cs, isLetterOrDigit d = true := by
  rw [isPlainWord] at h
  split at h
  · exact absurd h Bool.false_ne_true
  · rename_i c cs hcs
    rw [Bool.and_eq_true, List.all_eq_true] at h
    exact ⟨c, cs, hcs, h.1, List.forall_mem_cons.mpr ⟨isLetterOrDigit_of_isLetter h.1, h.2⟩⟩

/-- The characters do not go on with a word before them. -/
def EndsWord (cs : List Char) : Prop := ∀ c ∈ cs.head?, isWordPart c = false

@[simp] lemma endsWord_cons {c : Char} {cs : List Char} :
    EndsWord (c :: cs) ↔ isWordPart c = false := by
  simp [EndsWord]

lemma cut?_word {c : Char} {cs rest : List Char} (hc : isLetter c = true)
    (hcs : ∀ d ∈ cs, isLetterOrDigit d = true) (hrest : EndsWord rest) :
    cut? [] (c :: (cs ++ rest)) = some ⟨.word, c :: cs, [], rest⟩ := by
  have hpart : ∀ d ∈ cs, isWordPart d = true := fun d hd => isWordPart_of_isLetterOrDigit (hcs d hd)
  have hcut : cut? [] (c :: (cs ++ rest)) = some ⟨.word, c :: (cs ++ rest).takeWhile isWordPart, [],
      (cs ++ rest).dropWhile isWordPart⟩ := if_pos (isWordStart_of_isLetter hc)
  rw [hcut, List.takeWhile_append_of_pos hpart, List.dropWhile_append_of_pos hpart]
  cases rest with
  | nil => simp
  | cons d rest => simp [endsWord_cons.mp hrest]

lemma Lexes.word {gap w : String} {rest : List Char} {ts : List Token} (h : Lexes rest ts)
    (hgap : IsSpace gap) (hw : isPlainWord w = true) (hrest : EndsWord rest) :
    Lexes (gap.toList ++ (w.toList ++ rest)) (.word gap w :: ts) := by
  obtain ⟨c, cs, htext, hc, hall⟩ := exists_of_isPlainWord hw
  have hnewline : '\n' ∉ c :: cs := fun hmem =>
    ne_of_isLetterOrDigit (hall _ hmem) (by decide) rfl
  have hcpart := hall c List.mem_cons_self
  exact h.cons hgap htext (isBlank_of_isLetterOrDigit hcpart)
    (ne_of_isLetterOrDigit hcpart (by decide)) (List.count_eq_zero.mpr hnewline)
    (cut?_word hc (fun d hd => hall d (List.mem_cons_of_mem c hd)) hrest)

/-! ### Signs -/

/-- The signs that are cut off alone, whatever follows them. -/
def loneSigns : List Char := ['(', ')', '\x7b', '\x7d', '[', ']', ';', ',', '>', '?']

lemma cut?_loneSign {c : Char} (hc : c ∈ loneSigns) (rest : List Char) :
    cut? [] (c :: rest) = some ⟨.symbol, [c], [], rest⟩ := by
  simp only [loneSigns, List.mem_cons, List.not_mem_nil, or_false] at hc
  rcases hc with rfl | rfl | rfl | rfl | rfl | rfl | rfl | rfl | rfl | rfl <;> rfl

/-- A short sign is cut off alone unless a long one begins with it and the next character. -/
lemma takeSymbol?_short {c : Char} {rest : List Char} (hc : c ∈ shortSymbols)
    (hnext : ∀ d ∈ rest.head?, [c, d] ∉ longSymbols.map (·.take 2)) :
    takeSymbol? (c :: rest) = some ([c], rest) := by
  have hlength : ∀ s ∈ longSymbols, 2 ≤ s.length := by decide
  have hlong : longSymbols.find? (·.isPrefixOf (c :: rest)) = none := by
    rw [List.find?_eq_none]
    intro s hs hbegins
    match s, hlength s hs with
    | a :: b :: s, _ =>
      cases rest with
      | nil => simp at hbegins
      | cons d rest =>
        simp only [List.isPrefixOf_cons_cons, Bool.and_eq_true, beq_iff_eq] at hbegins
        obtain ⟨rfl, rfl, -⟩ := hbegins
        exact hnext b rfl (List.mem_map.mpr ⟨_, hs, rfl⟩)
  simp only [takeSymbol?, hlong, hc, if_true]

/-- The characters begin with a letter. -/
def StartsWord (cs : List Char) : Prop := ∃ c ∈ cs.head?, isLetter c = true

/-- The characters begin with a letter or a question mark, as a type argument does. -/
def StartsArg (cs : List Char) : Prop := ∃ c ∈ cs.head?, isLetter c = true ∨ c = '?'

lemma startsWord_of_isPlainWord {s : String} (h : isPlainWord s = true) : StartsWord s.toList := by
  obtain ⟨c, cs, hs, hc, -⟩ := exists_of_isPlainWord h
  exact ⟨c, by simp [hs], hc⟩

lemma StartsWord.append {cs : List Char} (h : StartsWord cs) (ds : List Char) :
    StartsWord (cs ++ ds) := by
  obtain ⟨c, hhead, hc⟩ := h
  exact ⟨c, by simp [Option.mem_def.mp hhead], hc⟩

lemma StartsWord.startsArg {cs : List Char} (h : StartsWord cs) : StartsArg cs := by
  obtain ⟨c, hhead, hc⟩ := h
  exact ⟨c, hhead, Or.inl hc⟩

lemma cut?_angle {rest : List Char} (hrest : StartsArg rest) :
    cut? [] ('<' :: rest) = some ⟨.symbol, ['<'], [], rest⟩ := by
  have hsymbol : takeSymbol? ('<' :: rest) = some (['<'], rest) := by
    refine takeSymbol?_short (by decide) ?_
    obtain ⟨c, hc, hstart⟩ := hrest
    intro d hd hlong
    obtain rfl := Option.mem_unique hc hd
    have hnext : c = '<' ∨ c = '=' := by simpa [longSymbols, or_comm] using hlong
    rcases hnext with rfl | rfl <;> exact absurd hstart (by decide)
  change cutSymbol? [] ('<' :: rest) = _
  rw [cutSymbol?, hsymbol]
  rfl

lemma cut?_dot {rest : List Char} (hrest : StartsWord rest) :
    cut? [] ('.' :: rest) = some ⟨.symbol, ['.'], [], rest⟩ := by
  obtain ⟨c, hhead, hc⟩ := hrest
  obtain ⟨rest, rfl⟩ := List.head?_eq_some_iff.mp hhead
  have hdigit := isDigit_of_isLetter hc
  have hnumber : takeNumber? ('.' :: c :: rest) = none := by
    simp [takeNumber?, decimalForms, markedForms, decimal?, shortest?, hdigit]
  have hsymbol : takeSymbol? ('.' :: c :: rest) = some (['.'], c :: rest) := by
    refine takeSymbol?_short (by decide) ?_
    intro d hd hlong
    obtain rfl := Option.mem_some_iff.mp hd
    have hnext : c = '.' := by simpa [longSymbols] using hlong
    exact absurd (hnext ▸ hc) (by decide)
  have hcut : cut? [] ('.' :: c :: rest) = cutSymbol? [] ('.' :: c :: rest) := by
    unfold cut?
    simp only [hnumber]
    rfl
  rw [hcut, cutSymbol?, hsymbol]
  rfl

/-- A sign of one character that is cut off alone. -/
lemma Lexes.sign {gap s : String} {c : Char} {rest : List Char} {ts : List Token}
    (h : Lexes rest ts) (hgap : IsSpace gap) (hs : s.toList = [c])
    (hc : c ∈ '<' :: '.' :: loneSigns)
    (hcut : cut? [] (c :: rest) = some ⟨.symbol, [c], [], rest⟩) :
    Lexes (gap.toList ++ (s.toList ++ rest)) (.sign gap s :: ts) := by
  have hall : ∀ d ∈ '<' :: '.' :: loneSigns, isBlank d = false ∧ d ≠ '/' ∧ lineEnds [d] = 0 :=
    List.forall_iff_forall_mem.mp (by decide)
  obtain ⟨hblank, hslash, hline⟩ := hall c hc
  exact h.cons hgap hs hblank hslash hline hcut

lemma Lexes.loneSign {gap s : String} {c : Char} {rest : List Char} {ts : List Token}
    (h : Lexes rest ts) (hgap : IsSpace gap) (hs : s.toList = [c]) (hc : c ∈ loneSigns) :
    Lexes (gap.toList ++ (s.toList ++ rest)) (.sign gap s :: ts) :=
  h.sign hgap hs (by simp [hc]) (cut?_loneSign hc rest)

/-- Source text that begins with a word is cut from its first character on. -/
lemma Token.ofSource?_eq_some {source : String} {ts : List Token}
    (hstart : StartsWord source.toList) (h : Lexes source.toList ts) :
    ofSource? source = some ts := by
  obtain ⟨c, hhead, hc⟩ := hstart
  obtain ⟨rest, hsource⟩ := List.head?_eq_some_iff.mp hhead
  have hmark : c.toNat ≠ 0xFEFF := by
    have := toNat_of_isLetter hc
    omega
  rw [hsource] at h
  simp only [ofSource?, hsource, hmark, if_false]
  exact h _ (Nat.lt_succ_self _)

end Cartograph.Java
