import Cartograph.Java.Grammar.Type
import Cartograph.Proofs.Java.Lexes
import Cartograph.Proofs.Text.Pieces

/-!
# The tokens of a written type

Which written types can stand in source text, and the tokens of their text. `lexes_render` says that
the text of such a type is cut into just these tokens, whatever follows it.
-/

namespace Cartograph.Java

open Text

/-! ### Identifiers -/

/-- The words that the language keeps for itself everywhere, literals among them. -/
def reservedWords : List String :=
  ["abstract", "assert", "boolean", "break", "byte", "case", "catch", "char", "class", "const",
    "continue", "default", "do", "double", "else", "enum", "extends", "final", "finally", "float",
    "for", "goto", "if", "implements", "import", "instanceof", "int", "interface", "long", "native",
    "new", "package", "private", "protected", "public", "return", "short", "static", "strictfp",
    "super", "switch", "synchronized", "this", "throw", "throws", "transient", "try", "void",
    "volatile", "while", "_", "true", "false", "null"]

/-- The words that the language keeps for itself in some places. -/
def contextualWords : List String :=
  ["exports", "module", "non-sealed", "open", "opens", "permits", "provides", "record", "requires",
    "sealed", "to", "transitive", "uses", "var", "when", "with", "yield"]

/-- An ASCII identifier. -/
def isIdentifier (s : String) : Bool :=
  isPlainWord s && !(reservedWords ++ contextualWords).contains s

lemma isPlainWord_of_isIdentifier {s : String} (h : isIdentifier s = true) :
    isPlainWord s = true := by
  rw [isIdentifier, Bool.and_eq_true] at h
  exact h.1

/-- A dotted name of identifiers. -/
def isDottedName (name : String) : Bool := (pieces '.' name).all isIdentifier

/-- The tokens of the segments of a name after the first. -/
def dotted (segments : List String) : List Token :=
  segments.flatMap fun s => [.sign "" ".", .word "" s]

@[simp] lemma dotted_nil : dotted [] = [] := rfl

@[simp] lemma dotted_cons (s : String) (segments : List String) :
    dotted (s :: segments) = .sign "" "." :: .word "" s :: dotted segments := rfl

def nameTokens (gap name : String) : List Token :=
  match pieces '.' name with
  | [] => []
  | s :: segments => .word gap s :: dotted segments

/-- A dotted name is its segments with dots between them. -/
lemma exists_segments {name : String} (h : isDottedName name = true) :
    ∃ s segments, (∀ x ∈ s :: segments, isIdentifier x = true) ∧
      ".".intercalate (s :: segments) = name ∧
      ∀ gap, nameTokens gap name = .word gap s :: dotted segments := by
  rw [isDottedName, List.all_eq_true] at h
  have hjoin := intercalate_pieces '.' name
  cases hpieces : pieces '.' name with
  | nil => exact absurd (List.map_eq_nil_iff.mp hpieces) (piecesOf_ne_nil '.' name.toList)
  | cons s segments =>
    rw [hpieces] at h hjoin
    exact ⟨s, segments, h, hjoin, fun gap => by rw [nameTokens, hpieces]⟩

namespace WrittenType

/-! ### Types that can be written -/

mutual

/-- A type that a value can have, written with its eight primitive names, dotted names of
identifiers, and at least one pair of brackets for an array, whose element is no array. -/
def isValue : WrittenType → Bool
  | .primitive name => Rule.primitiveNames.contains name
  | .void => false
  | .named name args => isDottedName name && areArgs args
  | .array t dims => !t.isArray && 1 ≤ dims && isValue t

/-- A type argument of a type that a value can have. -/
def isArg : TypeArg → Bool
  | .type t => isValue t
  | .anything => true
  | .bounded t => isValue t

/-- Type arguments of a type that a value can have. -/
def areArgs : List TypeArg → Bool
  | [] => true
  | a :: as => isArg a && areArgs as

end

/-- A type that can be written before a method: that of a value, or `void`. -/
def isWritten : WrittenType → Bool
  | .void => true
  | t => t.isValue

/-! ### Tokens -/

/-- The tokens of so many pairs of square brackets. -/
def bracketTokens : Nat → List Token
  | 0 => []
  | n + 1 => .sign "" "[" :: .sign "" "]" :: bracketTokens n

mutual

/-- The tokens of a type, the first with the gap before it. -/
def tokens : String → WrittenType → List Token
  | gap, .primitive name => [.word gap name]
  | gap, .void => [.word gap "void"]
  | gap, .named name args => nameTokens gap name ++ argsTokens args
  | gap, .array t dims => tokens gap t ++ bracketTokens dims

/-- The tokens of type arguments in angle brackets; without arguments there are none. -/
def argsTokens : List TypeArg → List Token
  | [] => []
  | a :: as => .sign "" "<" :: (argTokens "" a ++ (restTokens as ++ [.sign "" ">"]))

/-- The tokens of a type argument, the first with the gap before it. -/
def argTokens : String → TypeArg → List Token
  | gap, .type t => tokens gap t
  | gap, .anything => [.sign gap "?"]
  | gap, .bounded t => .sign gap "?" :: .word " " "extends" :: tokens " " t

/-- The tokens of the type arguments after the first, each behind its comma. -/
def restTokens : List TypeArg → List Token
  | [] => []
  | a :: as => .sign "" "," :: (argTokens " " a ++ restTokens as)

end

/-! ### Cutting -/

lemma startsWord_intercalate {s : String} (hs : isPlainWord s = true) (segments : List String) :
    StartsWord (".".intercalate (s :: segments)).toList := by
  have hstart := startsWord_of_isPlainWord hs
  cases segments with
  | nil => exact hstart
  | cons t segments =>
    rw [String.intercalate_cons_cons, String.append_assoc, String.toList_append]
    exact hstart.append _

lemma isPlainWord_of_mem_primitiveNames : ∀ s ∈ Rule.primitiveNames, isPlainWord s = true := by
  decide

lemma startsWord_render {t : WrittenType} (h : t.isValue = true) : StartsWord t.render.toList := by
  match t with
  | .primitive name =>
    rw [isValue, List.contains_iff_mem] at h
    exact startsWord_of_isPlainWord (isPlainWord_of_mem_primitiveNames name h)
  | .void => simp [isValue] at h
  | .named name args =>
    rw [isValue, Bool.and_eq_true] at h
    obtain ⟨s, segments, hall, rfl, -⟩ := exists_segments h.1
    have hname := startsWord_intercalate
      (isPlainWord_of_isIdentifier (hall s List.mem_cons_self)) segments
    cases args with
    | nil => exact hname
    | cons a as =>
      simp only [render, String.append_assoc, String.toList_append]
      exact hname.append _
  | .array t dims =>
    simp only [isValue, Bool.and_eq_true] at h
    rw [render, String.toList_append]
    exact (startsWord_render h.2).append _

lemma startsArg_renderArg {a : TypeArg} (h : isArg a = true) (cs : List Char) :
    StartsArg ((renderArg a).toList ++ cs) := by
  cases a with
  | type t => exact ((startsWord_render h).append cs).startsArg
  | anything => exact ⟨'?', rfl, Or.inr rfl⟩
  | bounded t =>
    rw [renderArg, String.toList_append]
    exact ⟨'?', rfl, Or.inr rfl⟩

section

variable {gap : String} {cs : List Char} {ts : List Token}

lemma lexes_join (hgap : IsSpace gap) (hcs : EndsWord cs) (hts : Lexes cs ts) {s : String}
    {segments : List String} (hall : ∀ x ∈ s :: segments, isPlainWord x = true) :
    Lexes (gap.toList ++ ((".".intercalate (s :: segments)).toList ++ cs))
      (.word gap s :: (dotted segments ++ ts)) := by
  induction segments generalizing gap s with
  | nil => exact hts.word hgap (hall s List.mem_cons_self) hcs
  | cons t segments ih =>
    obtain ⟨hs, hrest⟩ := List.forall_mem_cons.mp hall
    have hnext := ih isSpace_empty hrest
    have hstart := (startsWord_intercalate (hrest t List.mem_cons_self) segments).append cs
    rw [String.intercalate_cons_cons, String.append_assoc, String.toList_append,
      String.toList_append, List.append_assoc, List.append_assoc]
    have hdot := hnext.sign isSpace_empty (s := ".") rfl (by decide) (cut?_dot hstart)
    exact hdot.word hgap hs (endsWord_cons.mpr rfl)

lemma lexes_brackets (hts : Lexes cs ts) (n : Nat) :
    Lexes ((brackets n).toList ++ cs) (bracketTokens n ++ ts) := by
  induction n with
  | zero => exact hts
  | succ n ih =>
    rw [brackets, String.toList_append, List.append_assoc]
    have hclose := ih.loneSign isSpace_empty (s := "]") rfl (by decide)
    exact hclose.loneSign isSpace_empty (s := "[") rfl (by decide)

lemma endsWord_brackets (hcs : EndsWord cs) (n : Nat) : EndsWord ((brackets n).toList ++ cs) := by
  cases n with
  | zero => exact hcs
  | succ n =>
    rw [brackets, String.toList_append]
    exact endsWord_cons.mpr rfl

lemma endsWord_renderRest (hcs : EndsWord cs) (as : List TypeArg) :
    EndsWord ((renderRest as).toList ++ cs) := by
  cases as with
  | nil => exact hcs
  | cons a as =>
    rw [renderRest, String.append_assoc, String.toList_append]
    exact endsWord_cons.mpr rfl

lemma lexes_name (hgap : IsSpace gap) (hcs : EndsWord cs) (hts : Lexes cs ts) {name : String}
    (hname : isDottedName name = true) :
    Lexes (gap.toList ++ (name.toList ++ cs)) (nameTokens gap name ++ ts) := by
  obtain ⟨s, segments, hall, rfl, htokens⟩ := exists_segments hname
  rw [htokens]
  exact lexes_join hgap hcs hts fun x hx => isPlainWord_of_isIdentifier (hall x hx)

end

mutual

/-- The text of a type is cut into its tokens, in front of anything that does not go on with
a word. -/
theorem lexes_render (t : WrittenType) (ht : t.isValue = true) {gap : String} {cs : List Char}
    {ts : List Token} (hgap : IsSpace gap) (hcs : EndsWord cs) (hts : Lexes cs ts) :
    Lexes (gap.toList ++ (t.render.toList ++ cs)) (t.tokens gap ++ ts) := by
  match t with
  | .primitive name =>
    rw [isValue, List.contains_iff_mem] at ht
    exact hts.word hgap (isPlainWord_of_mem_primitiveNames name ht) hcs
  | .void => simp [isValue] at ht
  | .named name [] =>
    rw [isValue, Bool.and_eq_true] at ht
    rw [render, tokens, argsTokens, List.append_nil]
    exact lexes_name hgap hcs hts ht.1
  | .named name (a :: as) =>
    simp only [isValue, areArgs, Bool.and_eq_true] at ht
    obtain ⟨hname, ha, has⟩ := ht
    have hclose := hts.loneSign isSpace_empty (s := ">") rfl (by decide)
    have hrest := lexes_renderRest as has (endsWord_cons.mpr rfl) hclose
    have harg := lexes_renderArg a ha isSpace_empty (endsWord_renderRest (endsWord_cons.mpr rfl) as)
      hrest
    have hangle := harg.sign isSpace_empty (s := "<") rfl (by decide)
      (cut?_angle (startsArg_renderArg ha _))
    rw [render, tokens, argsTokens]
    simp only [String.append_assoc, String.toList_append, List.append_assoc, List.cons_append,
      List.nil_append]
    exact lexes_name hgap (endsWord_cons.mpr rfl) hangle hname
  | .array t dims =>
    simp only [isValue, Bool.and_eq_true] at ht
    have hbrackets := lexes_brackets hts dims
    rw [render, tokens, String.toList_append, List.append_assoc, List.append_assoc]
    exact lexes_render t ht.2 hgap (endsWord_brackets hcs dims) hbrackets

theorem lexes_renderArg (a : TypeArg) (ha : isArg a = true) {gap : String} {cs : List Char}
    {ts : List Token} (hgap : IsSpace gap) (hcs : EndsWord cs) (hts : Lexes cs ts) :
    Lexes (gap.toList ++ ((renderArg a).toList ++ cs)) (argTokens gap a ++ ts) := by
  match a with
  | .type t => exact lexes_render t ha hgap hcs hts
  | .anything => exact hts.loneSign hgap (s := "?") rfl (by decide)
  | .bounded t =>
    have hbound := lexes_render t ha isSpace_blank hcs hts
    have hextends := hbound.word isSpace_blank (w := "extends") (by decide) (endsWord_cons.mpr rfl)
    rw [renderArg, String.toList_append, List.append_assoc]
    exact hextends.loneSign hgap (s := "?") rfl (by decide)

theorem lexes_renderRest (as : List TypeArg) (has : areArgs as = true) {cs : List Char}
    {ts : List Token} (hcs : EndsWord cs) (hts : Lexes cs ts) :
    Lexes ((renderRest as).toList ++ cs) (restTokens as ++ ts) := by
  match as with
  | [] => exact hts
  | a :: as =>
    rw [areArgs, Bool.and_eq_true] at has
    have hrest := lexes_renderRest as has.2 hcs hts
    have harg := lexes_renderArg a has.1 isSpace_blank (endsWord_renderRest hcs as) hrest
    rw [renderRest, String.append_assoc, String.toList_append, String.toList_append,
      List.append_assoc, List.append_assoc, restTokens, List.cons_append, List.append_assoc]
    exact harg.loneSign isSpace_empty (s := ",") rfl (by decide)

end

end WrittenType

end Cartograph.Java
