import Cartograph.Rules.Placeholder
import Mathlib.Data.List.Chain
import Mathlib.Data.List.TakeWhile

/-!
# Keys of templates

A template is literal text with placeholders in it. The keys that are read from a template are those
of its placeholders, whatever stray dollar signs, braces and colons stand in the text around them:
no placeholder begins in a literal, so the scan is at the beginning of the next placeholder when it
gets there, and at its end when the placeholder is read.
-/

namespace Cartograph.Rules

open Text

/-- A part of a template: text, or a placeholder with its key and the default after a colon. -/
inductive TemplatePart
  | literal (text : String)
  | placeholder (key : String) (value? : Option String)

namespace TemplatePart

/-- What follows the key of a placeholder, up to its end. -/
def spellEnd : Option String → List Char
  | none => ['}']
  | some value => ':' :: (value.toList ++ ['}'])

def spell : TemplatePart → List Char
  | literal text => text.toList
  | placeholder key value? => '$' :: '{' :: (key.toList ++ spellEnd value?)

def key? : TemplatePart → Option String
  | literal _ => none
  | placeholder key _ => some key

def isLiteral : TemplatePart → Bool
  | literal _ => true
  | placeholder _ _ => false

/-- Text does not open a placeholder, a key is not empty and runs to its end, and so does a
default. -/
def WellFormed : TemplatePart → Prop
  | literal text => ¬['$', '{'] <:+: text.toList
  | placeholder key value? =>
    key ≠ "" ∧ '}' ∉ key.toList ∧ ':' ∉ key.toList ∧ ∀ value ∈ value?, '}' ∉ value.toList

instance : DecidablePred WellFormed
  | literal text => inferInstanceAs (Decidable (¬['$', '{'] <:+: text.toList))
  | placeholder key value? => inferInstanceAs (Decidable
      (key ≠ "" ∧ '}' ∉ key.toList ∧ ':' ∉ key.toList ∧ ∀ value ∈ value?, '}' ∉ value.toList))

end TemplatePart

open TemplatePart

/-- The parts of a template, with no two texts next to each other. -/
structure IsTemplate (parts : List TemplatePart) : Prop where
  wellFormed : ∀ p ∈ parts, p.WellFormed
  apart : parts.IsChain fun p q => ¬(p.isLiteral = true ∧ q.isLiteral = true)

def template (parts : List TemplatePart) : String := String.ofList (parts.flatMap spell)

/-! ### Steps of the scan -/

lemma keysAfter_append (as bs : List Char) : keysAfter as.length (as ++ bs) = keysAfter 0 bs := by
  induction as with
  | nil => rfl
  | cons a as ih => exact ih

/-- A run of characters is taken up to the first one that does not belong to it. -/
lemma takeWhile_append_stop {q : Char → Bool} {as : List Char} (h : ∀ a ∈ as, q a = true) {c : Char}
    (hc : q c = false) (cs : List Char) : (as ++ c :: cs).takeWhile q = as := by
  rw [List.takeWhile_append_of_pos h, List.takeWhile_cons_of_neg (by simp [hc]), List.append_nil]

lemma placeholderAt?_spell {key : String} {value? : Option String}
    (h : (placeholder key value?).WellFormed) (rest : List Char) :
    placeholderAt? (spell (placeholder key value?) ++ rest) =
      some (key.toList, (spell (placeholder key value?)).length) := by
  obtain ⟨hne, hbrace, hcolon, hvalue⟩ := h
  have hempty : key.toList ≠ [] := by simpa using hne
  have hkey : ∀ c ∈ key.toList, (!endsKey c) = true := by
    intro c hc
    simp [endsKey, ne_of_mem_of_not_mem hc hbrace, ne_of_mem_of_not_mem hc hcolon]
  cases value? with
  | none =>
    have hstop : (key.toList ++ '}' :: rest).takeWhile (fun c => !endsKey c) = key.toList :=
      takeWhile_append_stop hkey (by decide) rest
    simp [spell, spellEnd, placeholderAt?, hstop, hempty]
  | some value =>
    have hstop : (key.toList ++ ':' :: (value.toList ++ '}' :: rest)).takeWhile
        (fun c => !endsKey c) = key.toList :=
      takeWhile_append_stop hkey (by decide) _
    have hplain : ∀ c ∈ value.toList, (c != '}') = true := by
      intro c hc
      simpa using ne_of_mem_of_not_mem hc (hvalue value rfl)
    have hend : (value.toList ++ '}' :: rest).takeWhile (· != '}') = value.toList :=
      takeWhile_append_stop hplain (by decide) rest
    simp [spell, spellEnd, placeholderAt?, hstop, hempty, hend]
    omega

lemma keysAfter_placeholder {key : String} {value? : Option String}
    (h : (placeholder key value?).WellFormed) (rest : List Char) :
    keysAfter 0 (spell (placeholder key value?) ++ rest) = key.toList :: keysAfter 0 rest := by
  have hat := placeholderAt?_spell h rest
  rw [spell, List.cons_append] at hat ⊢
  rw [keysAfter, hat]
  simp only [List.length_cons, Nat.add_sub_cancel]
  rw [← List.length_cons, keysAfter_append]

lemma placeholderAt?_eq_none {cs : List Char} (h : ¬['$', '{'] <+: cs) :
    placeholderAt? cs = none := by
  unfold placeholderAt?
  split
  · exact absurd (by simp) h
  · rfl

/-- No placeholder begins in a text that does not open one, nor at its end, unless a brace
follows. -/
lemma keysAfter_literal {as : List Char} (h : ¬['$', '{'] <:+: as) {bs : List Char}
    (hbs : bs.head? ≠ some '{') : keysAfter 0 (as ++ bs) = keysAfter 0 bs := by
  induction as with
  | nil => rfl
  | cons a as ih =>
    rw [List.infix_cons_iff, not_or] at h
    have hhere : ¬['$', '{'] <+: a :: (as ++ bs) := by
      cases as with
      | nil =>
        cases bs with
        | nil => simp
        | cons b bs => simpa using fun _ => Ne.symm (by simpa using hbs)
      | cons b as => simpa using h.1
    rw [List.cons_append, keysAfter, placeholderAt?_eq_none hhere]
    exact ih h.2

/-! ### The whole template -/

lemma head?_flatMap_spell {parts : List TemplatePart} (h : ∀ p ∈ parts.head?, p.isLiteral = false) :
    (parts.flatMap spell).head? ≠ some '{' := by
  cases parts with
  | nil => simp
  | cons p parts =>
    cases p with
    | literal text => exact absurd (h _ rfl) (by simp [isLiteral])
    | placeholder key value? => simp [spell]

lemma keysAfter_flatMap_spell {parts : List TemplatePart} (h : IsTemplate parts) :
    keysAfter 0 (parts.flatMap spell) = (parts.filterMap key?).map String.toList := by
  induction parts with
  | nil => rfl
  | cons p parts ih =>
    have hp := h.wellFormed p List.mem_cons_self
    obtain ⟨hnext, hapart⟩ := List.isChain_cons.mp h.apart
    have hrest := ih ⟨fun q hq => h.wellFormed q (List.mem_cons_of_mem p hq), hapart⟩
    cases p with
    | literal text =>
      have hbrace : (parts.flatMap spell).head? ≠ some '{' := by
        refine head?_flatMap_spell fun q hq => ?_
        simpa [isLiteral] using hnext q hq
      rw [List.flatMap_cons, spell, keysAfter_literal hp hbrace, hrest]
      rfl
    | placeholder key value? =>
      rw [List.flatMap_cons, keysAfter_placeholder hp, hrest]
      rfl

lemma trim_eq_empty_iff {s : String} : trim s = "" ↔ isBlankText s = true := by
  have hfront : ∀ cs : List Char,
      (∀ c ∈ cs.dropWhile isBlank, isBlank c = true) ↔ ∀ c ∈ cs, isBlank c = true := by
    intro cs
    conv_rhs => rw [← List.takeWhile_append_dropWhile (p := isBlank) (l := cs)]
    rw [List.forall_mem_append]
    exact ⟨fun h => ⟨fun c => List.mem_takeWhile_imp, h⟩, And.right⟩
  rw [trim, trimChars, trimEndChars, isBlankText, List.all_eq_true, ← hfront]
  simp [List.dropWhile_eq_nil_iff]

/-- The keys of a template are the keys of its placeholders in their order, without the blanks
around them and without blank keys; text around the placeholders has no part in them. -/
theorem placeholderKeys_template (parts : List TemplatePart) (h : IsTemplate parts) :
    placeholderKeys (template parts) =
      ((parts.filterMap key?).filter fun key => !isBlankText key).map trim := by
  have htrim : (fun key => trim (String.ofList key)) ∘ String.toList = trim := by
    funext key
    simp
  have hblank : (fun key => decide (key ≠ "")) ∘ trim = fun key => !isBlankText key := by
    funext key
    simp [trim_eq_empty_iff]
  rw [placeholderKeys, template, String.toList_ofList, keysAfter_flatMap_spell h, List.map_map,
    htrim, List.filter_map, hblank]

/-- Stray signs stand around the placeholders of this template; one key has blanks around it, one is
blank, and the last key and its default look as if they opened placeholders of their own. -/
def limitsTemplate : List TemplatePart :=
  [.literal "a$:\x7d\n", .placeholder " app.timeout " (some "30"), .placeholder " " none,
    .literal "\x7b-$", .placeholder "app$\x7bretries" (some "$\x7bnone")]

/-- The blank key is dropped, and the blanks around a key do not belong to it. -/
theorem placeholderKeys_template_limits :
    IsTemplate limitsTemplate ∧
    template limitsTemplate =
      "a$:\x7d\n$\x7b app.timeout :30\x7d$\x7b \x7d\x7b-$$\x7bapp$\x7bretries:$\x7bnone\x7d" ∧
    placeholderKeys (template limitsTemplate) = ["app.timeout", "app$\x7bretries"] := by
  have htemplate : IsTemplate limitsTemplate :=
    ⟨List.forall_iff_forall_mem.mp (by decide), by decide⟩
  refine ⟨htemplate, by decide +kernel, ?_⟩
  rw [placeholderKeys_template limitsTemplate htemplate]
  decide +kernel

end Cartograph.Rules
