import Cartograph.Proofs.Text.Above
import Cartograph.Proofs.Text.Regex
import Cartograph.SourceLayout
import Mathlib.Data.List.Forall2

/-!
# What a package pattern accepts

A written pattern is read from left to right in one way only, and it accepts the names that fall
into pieces, one for each part that was read. The search for such pieces in the test of a pattern
never misses any, so the test agrees with this for all patterns and names. The same names are found
by the regular expression that is written for the pattern, in which all characters with a meaning of
their own are escaped. In particular a package with `.**` behind it accepts the package and what
lies below it.
-/

namespace Cartograph

open Text

namespace PatternPart

/-- How the part is written. -/
def spelling : PatternPart → List Char
  | .char c => [c]
  | .segment => ['*']
  | .anything => ['*', '*']
  | .below => ['.', '*', '*']

/-- The part stands for the piece of a name. -/
def StandsFor : PatternPart → List Char → Prop
  | .char c, piece => piece = [c]
  | .segment, piece => '.' ∉ piece
  | .anything, piece => '\n' ∉ piece
  | .below, piece => piece = [] ∨ ∃ rest, piece = '.' :: rest ∧ '\n' ∉ rest

/-- The regular expression of the part. -/
def regex : PatternPart → Regex
  | .char c => .lit c
  | .segment => .star (.noneOf '.')
  | .anything => .star (.noneOf '\n')
  | .below => .opt (.sequence [.lit '.', .star (.noneOf '\n')])

end PatternPart

namespace PackagePattern

variable {c : Char} {cs : List Char} {part : PatternPart} {parts : List PatternPart}

/-! ### Reading a pattern -/

/-- The parts written one after the other. -/
def spell (parts : List PatternPart) : List Char := parts.flatMap (·.spelling)

@[simp] lemma spell_nil : spell [] = [] := rfl

@[simp] lemma spell_cons (part : PatternPart) (parts : List PatternPart) :
    spell (part :: parts) = part.spelling ++ spell parts := rfl

/-- The part may stand before the others in a reading from left to right: two stars are taken
together, and so is the ending `.**`, which nothing follows. -/
def MayPrecede : PatternPart → List PatternPart → Prop
  | .char c, after => c ≠ '*' ∧ (c = '.' → after ≠ [.anything])
  | .segment, after => (spell after).head? ≠ some '*'
  | .anything, _ => True
  | .below, after => after = []

/-- The parts are what the written pattern is read as from left to right. -/
structure IsReading (parts : List PatternPart) (pattern : List Char) : Prop where
  spelled : spell parts = pattern
  precedes : ∀ before part after, parts = before ++ part :: after → MayPrecede part after

lemma partsOf_char (hstar : c ≠ '*') (hend : c = '.' → cs ≠ ['*', '*']) :
    partsOf (c :: cs) = .char c :: partsOf cs := by
  rw [partsOf]
  · exact hend
  · intro ds hc
    exact absurd hc hstar
  · exact hstar

lemma partsOf_segment (h : cs.head? ≠ some '*') :
    partsOf ('*' :: cs) = .segment :: partsOf cs := by
  rw [partsOf]
  rintro ds rfl
  exact h rfl

/-- The parts of a pattern spell it. -/
lemma spell_partsOf (cs : List Char) : spell (partsOf cs) = cs := by
  fun_induction partsOf cs with
  | case1 => rfl
  | case2 => rfl
  | case3 cs ih => simp [PatternPart.spelling, ih]
  | case4 cs _ ih => simp [PatternPart.spelling, ih]
  | case5 c cs _ _ _ ih => simp [PatternPart.spelling, ih]

/-- A part before a reading makes a reading if it may stand there. -/
lemma isReading_cons_iff :
    IsReading (part :: parts) cs ↔
      ∃ rest, cs = part.spelling ++ rest ∧ MayPrecede part parts ∧ IsReading parts rest := by
  constructor
  · intro h
    refine ⟨spell parts, h.spelled.symm, h.precedes [] part parts rfl, rfl, ?_⟩
    intro before next after hparts
    apply h.precedes (part :: before)
    rw [hparts, List.cons_append]
  · rintro ⟨rest, rfl, hpart, hparts⟩
    refine ⟨by rw [spell_cons, hparts.spelled], ?_⟩
    intro before next after heq
    cases before with
    | nil =>
      obtain ⟨rfl, rfl⟩ := List.cons.inj heq
      exact hpart
    | cons p before => exact hparts.precedes before next after (List.cons.inj heq).2

lemma isReading_nil : IsReading [] [] := by
  refine ⟨rfl, ?_⟩
  intro before part after h
  simp at h

/-- The parts of a pattern are a reading of it. -/
lemma isReading_partsOf (cs : List Char) : IsReading (partsOf cs) cs := by
  fun_induction partsOf cs with
  | case1 => exact isReading_nil
  | case2 => exact isReading_cons_iff.mpr ⟨[], rfl, rfl, isReading_nil⟩
  | case3 cs ih => exact isReading_cons_iff.mpr ⟨cs, rfl, trivial, ih⟩
  | case4 cs hstar ih =>
    refine isReading_cons_iff.mpr ⟨cs, rfl, ?_, ih⟩
    rw [MayPrecede, spell_partsOf]
    intro hhead
    obtain ⟨ds, rfl⟩ := List.head?_eq_some_iff.mp hhead
    exact hstar ds rfl
  | case5 c cs hend _ hstar ih =>
    refine isReading_cons_iff.mpr ⟨cs, rfl, ⟨hstar, ?_⟩, ih⟩
    intro hdot hparts
    -- the rest would be two stars, and the pattern `.**`
    have hcs : cs = ['*', '*'] := by rw [← spell_partsOf cs, hparts]; rfl
    exact hend hdot hcs

/-- What a part spells is read as the part where it may stand. -/
lemma partsOf_spelling_append (h : MayPrecede part parts) (hparts : partsOf (spell parts) = parts) :
    partsOf (part.spelling ++ spell parts) = part :: parts := by
  cases part with
  | char c =>
    rw [PatternPart.spelling, List.singleton_append, partsOf_char h.1, hparts]
    intro hdot hstars
    apply h.2 hdot
    rw [← hparts, hstars]
    rfl
  | segment => rw [PatternPart.spelling, List.singleton_append, partsOf_segment h, hparts]
  | anything =>
    rw [← hparts, spell_partsOf]
    rfl
  | below =>
    rw [MayPrecede] at h
    subst h
    rfl

/-- A pattern is read in one way only. -/
lemma IsReading.eq_partsOf (h : IsReading parts cs) : parts = partsOf cs := by
  induction parts generalizing cs with
  | nil =>
    rw [← h.spelled]
    rfl
  | cons part parts ih =>
    obtain ⟨rest, rfl, hpart, hparts⟩ := isReading_cons_iff.mp h
    rw [← hparts.spelled, partsOf_spelling_append hpart]
    rw [hparts.spelled, ← ih hparts]

/-! ### Falling into pieces -/

/-- The name falls into pieces, one for each part in order. -/
def FallsInto (parts : List PatternPart) (cs : List Char) : Prop :=
  ∃ pieces, List.Forall₂ PatternPart.StandsFor parts pieces ∧ cs = pieces.flatten

lemma fallsInto_nil_iff : FallsInto [] cs ↔ cs = [] := by
  simp [FallsInto]

lemma fallsInto_cons_iff :
    FallsInto (part :: parts) cs ↔
      ∃ piece rest, cs = piece ++ rest ∧ part.StandsFor piece ∧ FallsInto parts rest := by
  constructor
  · rintro ⟨pieces, hpieces, rfl⟩
    cases hpieces with
    | cons hpiece hrest => exact ⟨_, _, List.flatten_cons, hpiece, _, hrest, rfl⟩
  · rintro ⟨piece, rest, rfl, hpiece, pieces, hpieces, rfl⟩
    exact ⟨piece :: pieces, .cons hpiece hpieces, List.flatten_cons.symm⟩

lemma fallsInto_singleton_iff : FallsInto [part] cs ↔ part.StandsFor cs := by
  simp [fallsInto_cons_iff, fallsInto_nil_iff]

/-- Skipping tries every cut behind characters that pass the test. -/
lemma skipping_iff {test : Char → Bool} {accept : List Char → Bool} :
    skipping test accept cs = true ↔
      ∃ skipped rest, cs = skipped ++ rest ∧ (∀ c ∈ skipped, test c = true) ∧
        accept rest = true := by
  induction cs with
  | nil =>
    constructor
    · intro h
      exact ⟨[], [], rfl, by simp, h⟩
    · rintro ⟨skipped, rest, hnil, -, haccept⟩
      obtain ⟨-, rfl⟩ := List.append_eq_nil_iff.mp hnil.symm
      exact haccept
  | cons c cs ih =>
    rw [skipping, Bool.or_eq_true, Bool.and_eq_true, ih]
    constructor
    · rintro (haccept | ⟨hc, skipped, rest, rfl, hskipped, haccept⟩)
      · exact ⟨[], c :: cs, rfl, by simp, haccept⟩
      · exact ⟨c :: skipped, rest, rfl, by simpa [hc] using hskipped, haccept⟩
    · rintro ⟨skipped, rest, hcs, hskipped, haccept⟩
      cases skipped with
      | nil =>
        left
        rw [List.nil_append] at hcs
        rw [hcs]
        exact haccept
      | cons d skipped =>
        right
        obtain ⟨rfl, rfl⟩ := List.cons.inj hcs
        rw [List.forall_mem_cons] at hskipped
        exact ⟨hskipped.1, skipped, rest, rfl, hskipped.2, haccept⟩

lemma skipping_ne_iff {stop : Char} {accept : List Char → Bool} :
    skipping (· != stop) accept cs = true ↔
      ∃ skipped rest, cs = skipped ++ rest ∧ stop ∉ skipped ∧ accept rest = true := by
  simp only [skipping_iff, forall_bne_iff]

lemma matchesChars_below_iff :
    matchesChars (.below :: parts) cs = true ↔
      matchesChars parts cs = true ∨
        ∃ ds, cs = '.' :: ds ∧ skipping (· != '\n') (matchesChars parts) ds = true := by
  cases cs with
  | nil => simp [matchesChars]
  | cons c ds =>
    by_cases hc : c = '.'
    · subst hc
      simp [matchesChars]
    · simp [matchesChars, hc]

/-- The test of a pattern finds pieces whenever there are some. -/
lemma matchesChars_iff : matchesChars parts cs = true ↔ FallsInto parts cs := by
  induction parts generalizing cs with
  | nil => rw [matchesChars, List.isEmpty_iff, fallsInto_nil_iff]
  | cons part parts ih =>
    rw [fallsInto_cons_iff]
    cases part with
    | char c =>
      cases cs with
      | nil => simp [matchesChars, PatternPart.StandsFor]
      | cons d ds => simp [matchesChars, PatternPart.StandsFor, ih]
    | segment => simp only [matchesChars, skipping_ne_iff, ih, PatternPart.StandsFor]
    | anything => simp only [matchesChars, skipping_ne_iff, ih, PatternPart.StandsFor]
    | below =>
      simp only [matchesChars_below_iff, skipping_ne_iff, ih, PatternPart.StandsFor]
      constructor
      · rintro (hrest | ⟨ds, rfl, skipped, rest, rfl, hline, hrest⟩)
        · exact ⟨[], cs, rfl, .inl rfl, hrest⟩
        · exact ⟨'.' :: skipped, rest, rfl, .inr ⟨skipped, rfl, hline⟩, hrest⟩
      · rintro ⟨piece, rest, rfl, rfl | ⟨skipped, rfl, hline⟩, hrest⟩
        · exact .inl hrest
        · exact .inr ⟨skipped ++ rest, rfl, skipped, rest, rfl, hline, hrest⟩

/-! ### Which names are accepted -/

/-- The written pattern accepts the name: it is a pattern for everything, or the name falls into
pieces for the parts that the pattern is read as. Blanks around the pattern do not count. -/
def Accepts (pattern name : String) : Prop :=
  trim pattern = "" ∨ trim pattern = "**" ∨
    ∃ parts, IsReading parts (trim pattern).toList ∧ FallsInto parts name.toList

lemma isAll_ofText_iff {pattern : String} :
    (ofText pattern).isAll = true ↔ trim pattern = "" ∨ trim pattern = "**" := by
  unfold ofText
  simp only
  split_ifs with hall
  · simp [all, isAll, hall]
  · simp [isAll, hall]

/-- A pattern that is not for everything accepts what the parts of its reading allow. -/
lemma accepts_iff_of_isReading {pattern name : String}
    (hall : ¬(trim pattern = "" ∨ trim pattern = "**"))
    (hreading : IsReading parts (trim pattern).toList) :
    Accepts pattern name ↔ FallsInto parts name.toList := by
  constructor
  · rintro (hempty | hstars | ⟨parts', hreading', hfalls⟩)
    · exact absurd (.inl hempty) hall
    · exact absurd (.inr hstars) hall
    · rw [hreading.eq_partsOf, ← hreading'.eq_partsOf]
      exact hfalls
  · intro hfalls
    exact .inr (.inr ⟨parts, hreading, hfalls⟩)

lemma matchesPackage_ofText_iff {pattern name : String} :
    (ofText pattern).matchesPackage name = true ↔ Accepts pattern name := by
  unfold ofText
  simp only
  split_ifs with hall
  · simp only [matchesPackage, all, true_iff]
    rcases hall with hempty | hstars
    · exact .inl hempty
    · exact .inr (.inl hstars)
  · rw [accepts_iff_of_isReading hall (isReading_partsOf _)]
    exact matchesChars_iff

/-! ### The regular expression of a pattern -/

/-- The regular expression that is written for a pattern, without anchors. -/
def regexOf : List Char → List Char
  | [] => []
  | ['.', '*', '*'] => "(\\..*)?".toList
  | '*' :: '*' :: cs => ".*".toList ++ regexOf cs
  | '*' :: cs => "[^.]*".toList ++ regexOf cs
  | '.' :: cs => "\\.".toList ++ regexOf cs
  | c :: cs => Regex.escape c ++ regexOf cs

/-- The regular expression that is written for a pattern. -/
def regexText (pattern : String) : String := "^" ++ String.ofList (regexOf pattern.toList) ++ "$"

/-- What is written for a pattern is read as the expressions of its parts. -/
lemma writes_regexOf (cs : List Char) :
    Regex.Writes (regexOf cs) ((partsOf cs).map (·.regex)) := by
  have hany : Regex.Writes ".*".toList [PatternPart.anything.regex] :=
    ⟨[.atom (.noneOf '\n'), .star], fun cs => by
      simp [Regex.tokens?_cons_of_ne, Regex.single?, Function.comp_def], fun _ _ _ => rfl⟩
  have hsegment : Regex.Writes "[^.]*".toList [PatternPart.segment.regex] :=
    ⟨[.atom (.noneOf '.'), .star], fun cs => by
      simp [Regex.tokens?, Regex.tokens?_cons_of_ne, Regex.single?, Function.comp_def],
      fun _ _ _ => rfl⟩
  have hbelow : Regex.Writes "(\\..*)?".toList [PatternPart.below.regex] :=
    ⟨[.opening, .atom (.lit '.'), .atom (.noneOf '\n'), .star, .closing, .opt], fun cs => by
      simp [Regex.tokens?, Regex.tokens?_cons_of_ne, Regex.single?, Regex.isMeta,
        Function.comp_def], fun _ _ _ => rfl⟩
  fun_induction regexOf cs with
  | case1 => exact Regex.writes_nil
  | case2 => exact hbelow
  | case3 cs ih => exact hany.append ih
  | case4 cs hstar ih =>
    rw [partsOf_segment]
    · exact hsegment.append ih
    · intro hhead
      obtain ⟨ds, rfl⟩ := List.head?_eq_some_iff.mp hhead
      exact hstar ds rfl
  | case5 cs hend ih =>
    rw [partsOf_char (by decide) fun _ => hend]
    exact (Regex.writes_escape '.').append ih
  | case6 c cs hend hstars hstar hdot ih =>
    rw [partsOf_char hstar fun hc => absurd hc hdot]
    exact (Regex.writes_escape c).append ih

lemma matches_regex_iff {before piece after : List Char} :
    part.regex.Matches before piece after ↔ part.StandsFor piece := by
  cases part with
  | char c => rfl
  | segment => exact Regex.matches_star_noneOf_iff
  | anything => exact Regex.matches_star_noneOf_iff
  | below =>
    have hrest (before piece after : List Char) :
        (Regex.sequence [.star (.noneOf '\n')]).Matches before piece after ↔ '\n' ∉ piece := by
      simp only [Regex.sequence, List.foldr_cons, List.foldr_nil, Regex.Matches]
      constructor
      · rintro ⟨a, b, rfl, ha, rfl⟩
        rw [List.append_nil]
        exact Regex.matches_star_noneOf_iff.mp ha
      · intro hline
        exact ⟨piece, [], by simp, Regex.matches_star_noneOf_iff.mpr hline, rfl⟩
    rw [PatternPart.regex, Regex.Matches, Regex.sequence, List.foldr_cons, ← Regex.sequence,
      Regex.Matches, PatternPart.StandsFor]
    refine or_congr_right ⟨?_, ?_⟩
    · rintro ⟨a, b, rfl, rfl, hb⟩
      exact ⟨b, rfl, (hrest _ _ _).mp hb⟩
    · rintro ⟨rest, rfl, hline⟩
      exact ⟨['.'], rest, rfl, rfl, (hrest _ _ _).mpr hline⟩

/-- The expressions of the parts up to the end of the text match what falls into pieces for the
parts. -/
lemma matches_parts_iff {before piece after : List Char} :
    (Regex.sequence (parts.map (·.regex) ++ [.finish])).Matches before piece after ↔
      FallsInto parts piece ∧ after = [] := by
  induction parts generalizing before piece with
  | nil =>
    simp [Regex.sequence, Regex.Matches, fallsInto_nil_iff]
  | cons part parts ih =>
    rw [List.map_cons, List.cons_append, Regex.sequence, List.foldr_cons, ← Regex.sequence,
      Regex.Matches, fallsInto_cons_iff]
    simp only [matches_regex_iff, ih]
    constructor
    · rintro ⟨a, b, rfl, ha, hb, hafter⟩
      exact ⟨⟨a, b, rfl, ha, hb⟩, hafter⟩
    · rintro ⟨⟨a, b, rfl, ha, hb⟩, hafter⟩
      exact ⟨a, b, rfl, ha, hb, hafter⟩

/-- The regular expression of a pattern can be read, and it is found in the names that fall into
pieces for the pattern. -/
lemma exists_regex (pattern : String) :
    ∃ r, Regex.ofText? (regexText pattern) = some r ∧
      ∀ name, r.Finds name ↔ FallsInto (partsOf pattern.toList) name.toList := by
  let exprs : List Regex := (partsOf pattern.toList).map (·.regex) ++ [.finish]
  have hstart : Regex.Writes ['^'] [.start] :=
    ⟨[.atom .start], fun cs => by simp [Regex.tokens?_cons_of_ne, Regex.single?],
      fun _ _ _ => rfl⟩
  have hfinish : Regex.Writes ['$'] [.finish] :=
    ⟨[.atom .finish], fun cs => by simp [Regex.tokens?_cons_of_ne, Regex.single?],
      fun _ _ _ => rfl⟩
  have hwrites : Regex.Writes (regexText pattern).toList (.start :: exprs) := by
    simpa [regexText, exprs] using (hstart.append (writes_regexOf _)).append hfinish
  refine ⟨_, hwrites.ofText?, fun name => ?_⟩
  rw [Regex.sequence, List.foldr_cons, ← Regex.sequence, Regex.Finds]
  simp only [Regex.Matches, exprs, matches_parts_iff]
  constructor
  · rintro ⟨before, piece, after, hname, a, b, rfl, ⟨rfl, rfl⟩, hfalls, rfl⟩
    simpa [hname] using hfalls
  · intro hfalls
    exact ⟨[], name.toList, [], by simp, [], name.toList, rfl, ⟨rfl, rfl⟩, hfalls, rfl⟩

/-! ### Patterns for a package and what lies below it -/

/-- Characters stand for themselves. -/
lemma fallsInto_chars_iff {word : List Char} :
    FallsInto (word.map .char ++ parts) cs ↔ ∃ rest, cs = word ++ rest ∧ FallsInto parts rest := by
  induction word generalizing cs with
  | nil => simp
  | cons c word ih =>
    rw [List.map_cons, List.cons_append, fallsInto_cons_iff]
    simp only [PatternPart.StandsFor, ih]
    constructor
    · rintro ⟨piece, rest, rfl, rfl, rest', rfl, hfalls⟩
      exact ⟨rest', rfl, hfalls⟩
    · rintro ⟨rest, rfl, hfalls⟩
      exact ⟨[c], word ++ rest, rfl, rfl, rest, rfl, hfalls⟩

/-- A word without stars and the ending are read as its characters and the part for what lies
below. -/
lemma isReading_chars_below {word : List Char} (hstar : '*' ∉ word) :
    IsReading (word.map .char ++ [.below]) (word ++ ['.', '*', '*']) := by
  induction word with
  | nil => exact isReading_partsOf ['.', '*', '*']
  | cons c word ih =>
    rw [List.mem_cons, not_or] at hstar
    refine isReading_cons_iff.mpr ⟨word ++ ['.', '*', '*'], rfl, ⟨Ne.symm hstar.1, ?_⟩, ih hstar.2⟩
    intro _ hparts
    have hmem : PatternPart.below ∈ [PatternPart.anything] := by
      rw [← hparts]
      simp
    simp at hmem

/-- A package without blanks and the ending have no blanks to lose. -/
lemma trim_append_below {package : String} (hblank : ∀ c ∈ package.toList, isBlank c = false) :
    trim (package ++ ".**") = package ++ ".**" := by
  apply trim_of_not_blank
  intro c hc
  rw [String.toList_append, List.mem_append] at hc
  rcases hc with hc | hc
  · exact hblank c hc
  · have hending : c = '.' ∨ c = '*' := by simpa using hc
    rcases hending with rfl | rfl <;> rfl

/-- A package with the ending accepts, on one line, the package and what lies below it. -/
lemma accepts_below_iff {package name : String} (hstar : '*' ∉ package.toList)
    (hblank : ∀ c ∈ package.toList, isBlank c = false) (hline : '\n' ∉ name.toList) :
    Accepts (package ++ ".**") name ↔ name = package ∨ IsAbove package name := by
  have hchars : (package ++ ".**").toList = package.toList ++ ['.', '*', '*'] := by simp
  have hall : ¬(trim (package ++ ".**") = "" ∨ trim (package ++ ".**") = "**") := by
    rw [trim_append_below hblank]
    rintro (hempty | hstars)
    · simpa [hchars] using congrArg String.toList hempty
    · have hlength := congrArg List.length (congrArg String.toList hstars)
      simp [hchars] at hlength
  have hreading : IsReading (package.toList.map .char ++ [.below])
      (trim (package ++ ".**")).toList := by
    rw [trim_append_below hblank, hchars]
    exact isReading_chars_below hstar
  rw [accepts_iff_of_isReading hall hreading, fallsInto_chars_iff]
  simp only [fallsInto_singleton_iff, PatternPart.StandsFor]
  constructor
  · rintro ⟨rest, hname, rfl | ⟨more, rfl, -⟩⟩
    · left
      simpa [← String.toList_inj] using hname
    · right
      refine ⟨String.ofList more, ?_⟩
      simpa [← String.toList_inj] using hname
  · rintro (rfl | ⟨rest, rfl⟩)
    · exact ⟨[], by simp, .inl rfl⟩
    · refine ⟨'.' :: rest.toList, by simp, .inr ⟨rest.toList, rfl, ?_⟩⟩
      intro hmem
      apply hline
      simp [hmem]

/-- The test of a written pattern agrees with what the pattern accepts, for names of packages and
for files by the package of their place. Every pattern has one reading, and the regular expression
that is written for it can be read and is found in the names that the pattern selects. A package
with `.**` behind it accepts, on one line, the package and what lies below it. -/
theorem matches_iff_accepts :
    (∀ pattern, ∃! parts, IsReading parts (trim pattern).toList) ∧
    (∀ pattern name, (ofText pattern).matchesPackage name = true ↔ Accepts pattern name) ∧
    (∀ pattern, (ofText pattern).isAll = true ↔ trim pattern = "" ∨ trim pattern = "**") ∧
    (∀ pattern root file, (ofText pattern).matchesFile root file = true ↔
      (ofText pattern).isAll = true ∨
        ∃ name, packageOfPath? root file = some name ∧ Accepts pattern name) ∧
    (∀ pattern, (ofText pattern).isAll = false →
      ∃ r, Regex.ofText? (regexText (trim pattern)) = some r ∧
        ∀ name, r.Finds name ↔ (ofText pattern).matchesPackage name = true) ∧
    ∀ package name, '*' ∉ package.toList → (∀ c ∈ package.toList, isBlank c = false) →
      '\n' ∉ name.toList →
      ((ofText (package ++ ".**")).matchesPackage name = true ↔
        name = package ∨ IsAbove package name) := by
  refine ⟨?_, ?_, ?_, ?_, ?_, ?_⟩
  · intro pattern
    exact ⟨_, isReading_partsOf _, fun _ h => h.eq_partsOf⟩
  · intro pattern name
    exact matchesPackage_ofText_iff
  · intro pattern
    exact isAll_ofText_iff
  · intro pattern root file
    simp only [matchesFile, Bool.or_eq_true, Option.any_eq_true, matchesPackage_ofText_iff]
  · intro pattern hall
    obtain ⟨r, hread, hfinds⟩ := exists_regex (trim pattern)
    rw [← Bool.not_eq_true, isAll_ofText_iff] at hall
    refine ⟨r, hread, fun name => ?_⟩
    rw [hfinds, matchesPackage_ofText_iff, accepts_iff_of_isReading hall (isReading_partsOf _)]
  · intro package name hstar hblank hline
    rw [matchesPackage_ofText_iff]
    exact accepts_below_iff hstar hblank hline

/-- A package that only begins with the same letters is not accepted. -/
theorem matches_iff_accepts_shop :
    '*' ∉ "com.shop".toList ∧ (∀ c ∈ "com.shop".toList, isBlank c = false) ∧
      (ofText "com.shop.**").matchesPackage "com.shop" = true ∧
      (ofText "com.shop.**").matchesPackage "com.shop.order" = true ∧
      ¬(ofText "com.shop.**").matchesPackage "com.shopping" = true := by
  have hstar : '*' ∉ "com.shop".toList := by decide
  have hblank : ∀ c ∈ "com.shop".toList, isBlank c = false :=
    List.forall_iff_forall_mem.mp (by decide)
  have hbelow := matches_iff_accepts.2.2.2.2.2 "com.shop"
  have htext : "com.shop" ++ ".**" = "com.shop.**" := rfl
  rw [htext] at hbelow
  refine ⟨hstar, hblank, ?_, ?_, ?_⟩
  · rw [hbelow "com.shop" hstar hblank (by decide)]
    exact .inl rfl
  · rw [hbelow "com.shop.order" hstar hblank (by decide)]
    exact .inr ⟨"order", rfl⟩
  · rw [hbelow "com.shopping" hstar hblank (by decide)]
    decide

end PackagePattern

end Cartograph
