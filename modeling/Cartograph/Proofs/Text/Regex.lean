import Mathlib.Data.List.Basic

/-!
# Regular expressions

Regular expressions as far as they are made up of characters, classes that leave one character out,
groups, repetitions, options and anchors. A written expression is cut into tokens, from which a
syntax tree is built with a stack of open groups. An expression matches a piece of a text, with
regard to what stands before and behind it, so that anchors have a meaning.
-/

namespace Cartograph

/-- The syntax tree of a regular expression. -/
inductive Regex
  | empty
  | lit (c : Char)
  | noneOf (c : Char)
  | start
  | finish
  | cat (r s : Regex)
  | star (r : Regex)
  | opt (r : Regex)

namespace Regex

/-! ### Written expressions -/

/-- The characters that have a meaning of their own somewhere in an expression. -/
def isMeta (c : Char) : Bool :=
  c ∈ ['\\', '.', '+', '*', '?', '(', ')', '|', '[', ']', '{', '}', '^', '$', '#', '&', '-', '~']

/-- The expression that stands for the character. -/
def escape (c : Char) : List Char := if isMeta c then ['\\', c] else [c]

inductive Token
  | atom (r : Regex)
  | star
  | opt
  | opening
  | closing

/-- The token that is written as a single character; a dot is any character of the line. -/
def single? (c : Char) : Option Token :=
  if c = '.' then some (.atom (.noneOf '\n'))
  else if c = '^' then some (.atom .start)
  else if c = '$' then some (.atom .finish)
  else if c = '*' then some .star
  else if c = '?' then some .opt
  else if c = '(' then some .opening
  else if c = ')' then some .closing
  else if isMeta c then none
  else some (.atom (.lit c))

/-- The tokens of a written expression; a class may leave out a dot or a plain character. -/
def tokens? : List Char → Option (List Token)
  | [] => some []
  | c :: cs =>
    if c = '\\' then
      match cs with
      | d :: ds => if isMeta d then (tokens? ds).map (.atom (.lit d) :: ·) else none
      | [] => none
    else if c = '[' then
      match cs with
      | '^' :: d :: ']' :: ds =>
        if d = '.' || !isMeta d then (tokens? ds).map (.atom (.noneOf d) :: ·) else none
      | _ => none
    else (single? c).bind fun t => (tokens? cs).map (t :: ·)

/-- The expressions one after the other. -/
def sequence (rs : List Regex) : Regex := rs.foldr .cat .empty

/-- The syntax tree of the tokens. The items of the innermost open group are kept with the last one
first, and so are those of the groups around it. -/
def build? (groups : List (List Regex)) (items : List Regex) : List Token → Option Regex
  | [] => if groups.isEmpty then some (sequence items.reverse) else none
  | .atom r :: ts => build? groups (r :: items) ts
  | .star :: ts =>
    match items with
    | r :: items => build? groups (r.star :: items) ts
    | [] => none
  | .opt :: ts =>
    match items with
    | r :: items => build? groups (r.opt :: items) ts
    | [] => none
  | .opening :: ts => build? (items :: groups) [] ts
  | .closing :: ts =>
    match groups with
    | outer :: groups => build? groups (sequence items.reverse :: outer) ts
    | [] => none

/-- The syntax tree of a written expression. -/
def ofText? (text : String) : Option Regex := (tokens? text.toList).bind (build? [] [])

/-! ### Matching -/

/-- The piece is made of pieces that match one after the other. -/
inductive Repeated (P : List Char → List Char → List Char → Prop) :
    List Char → List Char → List Char → Prop
  | none {before after : List Char} : Repeated P before [] after
  | more {before piece rest after : List Char} (first : P before piece (rest ++ after))
      (later : Repeated P (before ++ piece) rest after) : Repeated P before (piece ++ rest) after

/-- The expression matches the piece between what stands before and after it. -/
def Matches : Regex → List Char → List Char → List Char → Prop
  | .empty, _, piece, _ => piece = []
  | .lit c, _, piece, _ => piece = [c]
  | .noneOf c, _, piece, _ => ∃ d, piece = [d] ∧ d ≠ c
  | .start, before, piece, _ => piece = [] ∧ before = []
  | .finish, _, piece, after => piece = [] ∧ after = []
  | .cat r s, before, piece, after => ∃ a b, piece = a ++ b ∧ r.Matches before a (b ++ after) ∧
      s.Matches (before ++ a) b after
  | .star r, before, piece, after => Repeated r.Matches before piece after
  | .opt r, before, piece, after => piece = [] ∨ r.Matches before piece after

/-- The expression matches somewhere in the text. -/
def Finds (r : Regex) (text : String) : Prop :=
  ∃ before piece after, text.toList = before ++ piece ++ after ∧ r.Matches before piece after

/-! ### Lemmas -/

lemma tokens?_cons_of_ne {c : Char} (hescape : c ≠ '\\') (hclass : c ≠ '[') (cs : List Char) :
    tokens? (c :: cs) = (single? c).bind fun t => (tokens? cs).map (t :: ·) := by
  rw [tokens?.eq_def]
  dsimp only
  rw [if_neg hescape, if_neg hclass]

lemma single?_of_not_isMeta {c : Char} (h : isMeta c = false) :
    single? c = some (.atom (.lit c)) := by
  have hne (d : Char) (hd : isMeta d = true) : c ≠ d := by
    rintro rfl
    exact absurd hd (by simp [h])
  simp [single?, h, hne '.' rfl, hne '^' rfl, hne '$' rfl, hne '*' rfl, hne '?' rfl, hne '(' rfl,
    hne ')' rfl]

/-- What is written for a character is read as the character. -/
lemma tokens?_escape_append (c : Char) (cs : List Char) :
    tokens? (escape c ++ cs) = (tokens? cs).map (.atom (.lit c) :: ·) := by
  cases hmeta : isMeta c with
  | true => simp [escape, hmeta, tokens?]
  | false =>
    have hescape : c ≠ '\\' := by
      rintro rfl
      cases hmeta
    have hclass : c ≠ '[' := by
      rintro rfl
      cases hmeta
    rw [escape, hmeta, if_neg Bool.false_ne_true, List.singleton_append,
      tokens?_cons_of_ne hescape hclass, single?_of_not_isMeta hmeta, Option.bind_some]

/-- The text is read as these expressions, whatever stands around it. -/
def Writes (text : List Char) (rs : List Regex) : Prop :=
  ∃ ts, (∀ cs, tokens? (text ++ cs) = (tokens? cs).map (ts ++ ·)) ∧
    ∀ groups items later, build? groups items (ts ++ later) =
      build? groups (rs.reverse ++ items) later

lemma writes_nil : Writes [] [] :=
  ⟨[], fun cs => by simp, fun groups items later => by simp⟩

lemma Writes.append {text text' : List Char} {rs rs' : List Regex} (h : Writes text rs)
    (h' : Writes text' rs') : Writes (text ++ text') (rs ++ rs') := by
  obtain ⟨ts, htext, hbuild⟩ := h
  obtain ⟨ts', htext', hbuild'⟩ := h'
  refine ⟨ts ++ ts', fun cs => ?_, fun groups items later => ?_⟩
  · rw [List.append_assoc, htext, htext', Option.map_map]
    simp [Function.comp_def]
  · rw [List.append_assoc, hbuild, hbuild', List.reverse_append, List.append_assoc]

lemma writes_escape (c : Char) : Writes (escape c) [.lit c] :=
  ⟨[.atom (.lit c)], tokens?_escape_append c, fun _ _ _ => rfl⟩

/-- A whole text is read as its expressions one after the other. -/
lemma Writes.ofText? {text : String} {rs : List Regex} (h : Writes text.toList rs) :
    ofText? text = some (sequence rs) := by
  obtain ⟨ts, htext, hbuild⟩ := h
  have htokens : tokens? text.toList = some ts := by simpa [tokens?] using htext []
  have htree : build? [] [] ts = some (sequence rs) := by simpa [build?] using hbuild [] [] []
  rw [Regex.ofText?, htokens, Option.bind_some, htree]

/-- A class that leaves a character out is repeated over texts without it. -/
lemma matches_star_noneOf_iff {c : Char} {before piece after : List Char} :
    (star (noneOf c)).Matches before piece after ↔ c ∉ piece := by
  constructor
  · intro h
    rw [Matches] at h
    induction h with
    | none => simp
    | more first later ih =>
      obtain ⟨d, rfl, hne⟩ := first
      simp [Ne.symm hne, ih]
  · intro h
    induction piece generalizing before with
    | nil => exact .none
    | cons d piece ih =>
      rw [List.mem_cons, not_or] at h
      exact .more ⟨d, rfl, Ne.symm h.1⟩ (ih h.2)

end Regex

end Cartograph
