import Cartograph.Java.Parser
import Mathlib.Data.List.Basic

/-!
# What a parser reads

`Tells` says of a parser that it reads from one list of tokens up to another, with a value and the
facts met on the way, `Reads` says so of one that meets no facts, and `Refuses` says that it fails
on a list of tokens. There are lemmas on them for each way to build a parser, so that what a rule of
the grammar does is put together from what its parts do.
-/

namespace Cartograph.Java

/-! ### Tokens -/

namespace Token

/-- A word on the first line, with the gap before it. -/
def word (gap text : String) : Token := ⟨gap, text, 1, .word⟩

/-- A sign on the first line, with the gap before it. -/
def sign (gap text : String) : Token := ⟨gap, text, 1, .symbol⟩

/-- The token is of the class and has one of the texts. -/
def Is (kind : TokenClass) (texts : List String) (t : Token) : Prop :=
  t.kind = kind ∧ t.text ∈ texts

def IsWord (words : List String) (t : Token) : Prop := t.Is .word words

def IsSign (signs : List String) (t : Token) : Prop := t.Is .symbol signs

@[simp] lemma isWord_word {words : List String} {gap text : String} :
    (word gap text).IsWord words ↔ text ∈ words := by
  simp [IsWord, Is, word]

@[simp] lemma not_isWord_sign {words : List String} {gap text : String} :
    ¬(sign gap text).IsWord words := by
  simp [IsWord, Is, sign]

@[simp] lemma isSign_sign {signs : List String} {gap text : String} :
    (sign gap text).IsSign signs ↔ text ∈ signs := by
  simp [IsSign, Is, sign]

@[simp] lemma not_isSign_word {signs : List String} {gap text : String} :
    ¬(word gap text).IsSign signs := by
  simp [IsSign, Is, word]

@[simp] lemma kind_word (gap text : String) : (word gap text).kind = .word := rfl

@[simp] lemma kind_sign (gap text : String) : (sign gap text).kind = .symbol := rfl

end Token

/-- The first token, if there is one, is of the given sort. -/
def Begins (q : Token → Prop) (ts : List Token) : Prop := ∃ t ∈ ts.head?, q t

@[simp] lemma not_begins_nil {q : Token → Prop} : ¬Begins q [] := by
  simp [Begins]

@[simp] lemma begins_cons {q : Token → Prop} {t : Token} {ts : List Token} :
    Begins q (t :: ts) ↔ q t := by
  simp [Begins]

lemma begins_append {q : Token → Prop} {ts : List Token} (h : Begins q ts) (us : List Token) :
    Begins q (ts ++ us) := by
  obtain ⟨t, ht, hq⟩ := h
  exact ⟨t, by simp [Option.mem_def.mp ht], hq⟩

lemma not_begins_of_subset {kind : TokenClass} {texts texts' : List String} {ts : List Token}
    (h : ¬Begins (·.Is kind texts) ts) (hsub : texts' ⊆ texts) : ¬Begins (·.Is kind texts') ts := by
  rintro ⟨t, ht, hkind, htext⟩
  exact h ⟨t, ht, hkind, hsub htext⟩

namespace Input

lemma next?_ofList_cons (t : Token) (ts : List Token) :
    (ofList (t :: ts)).next? = some (t, ofList ts) := rfl

lemma upTo_ofList (read ts : List Token) : (ofList (read ++ ts)).upTo (ofList ts) = read := by
  simp [upTo, ofList]

end Input

namespace Parser

variable {α β : Type} {p q : Parser α} {f : α → Parser β} {ts us vs : List Token} {a : α} {b : β}
  {facts facts' : List Fact}

/-- The parser reads up to the rest and gives the value, with the facts met on the way. -/
def Tells (p : Parser α) (ts : List Token) (a : α) (facts : List Fact) (rest : List Token) : Prop :=
  p (.ofList ts) = some ⟨a, facts, .ofList rest⟩

/-- The parser reads up to the rest and gives the value, without facts. -/
def Reads (p : Parser α) (ts : List Token) (a : α) (rest : List Token) : Prop :=
  Tells p ts a [] rest

/-- The parser fails. -/
def Refuses (p : Parser α) (ts : List Token) : Prop := p (.ofList ts) = none

/-! ### Sequence and choice -/

lemma reads_pure (a : α) (ts : List Token) : Reads (pure a : Parser α) ts a ts := rfl

lemma Tells.bind (hp : Tells p ts a facts us) (hf : Tells (f a) us b facts' vs) :
    Tells (p >>= f) ts b (facts ++ facts') vs := by
  change Parser.bind p f (.ofList ts) = _
  simp only [Parser.bind, show p (.ofList ts) = _ from hp, show f a (.ofList us) = _ from hf]

lemma Reads.bind (hp : Reads p ts a us) (hf : Reads (f a) us b vs) : Reads (p >>= f) ts b vs :=
  Tells.bind hp hf

lemma Reads.bind_tells (hp : Reads p ts a us) (hf : Tells (f a) us b facts vs) :
    Tells (p >>= f) ts b facts vs :=
  Tells.bind hp hf

lemma Tells.bind_reads (hp : Tells p ts a facts us) (hf : Reads (f a) us b vs) :
    Tells (p >>= f) ts b facts vs := by
  simpa using Tells.bind hp hf

/-- Behind a parser that meets no facts the next one does what it does alone. -/
lemma Reads.bind_eq (hp : Reads p ts a us) : (p >>= f) (.ofList ts) = f a (.ofList us) := by
  change Parser.bind p f (.ofList ts) = _
  simp only [Parser.bind, show p (.ofList ts) = _ from hp]
  cases f a (.ofList us) <;> rfl

lemma Refuses.bind (hp : Refuses p ts) : Refuses (p >>= f) ts := by
  change Parser.bind p f (.ofList ts) = _
  simp only [Parser.bind, show p (.ofList ts) = _ from hp]

lemma Reads.bind_refuses (hp : Reads p ts a us) (hf : Refuses (f a) us) : Refuses (p >>= f) ts := by
  change Parser.bind p f (.ofList ts) = _
  simp only [Parser.bind, show p (.ofList ts) = _ from hp, show f a (.ofList us) = _ from hf]

lemma Tells.orElse (hp : Tells p ts a facts us) : Tells (p <|> q) ts a facts us := by
  change Parser.orElse p (fun _ => q) (.ofList ts) = _
  simp only [Parser.orElse, show p (.ofList ts) = _ from hp]

lemma Reads.orElse (hp : Reads p ts a us) : Reads (p <|> q) ts a us := Tells.orElse hp

/-- Where the first parser fails the choice does what the second one does. -/
lemma Refuses.orElse_eq (hp : Refuses p ts) : (p <|> q) (.ofList ts) = q (.ofList ts) := by
  change Parser.orElse p (fun _ => q) (.ofList ts) = _
  simp only [Parser.orElse, show p (.ofList ts) = _ from hp]

lemma Refuses.orElse_tells (hp : Refuses p ts) (hq : Tells q ts a facts us) :
    Tells (p <|> q) ts a facts us :=
  hp.orElse_eq.trans hq

lemma Refuses.orElse (hp : Refuses p ts) (hq : Reads q ts a us) : Reads (p <|> q) ts a us :=
  hp.orElse_tells hq

lemma Refuses.orElse_refuses (hp : Refuses p ts) (hq : Refuses q ts) : Refuses (p <|> q) ts :=
  hp.orElse_eq.trans hq

/-! ### Facts -/

lemma tells_tell (facts : List Fact) (ts : List Token) : Tells (tell facts) ts () facts ts := rfl

lemma Tells.held (hp : Tells p ts a facts us) : Reads (held p) ts (a, facts) us := by
  simp only [Reads, Tells, Parser.held, show p (.ofList ts) = _ from hp, Option.map_some]

lemma Reads.held (hp : Reads p ts a us) : Reads (held p) ts (a, []) us := Tells.held hp

lemma Refuses.held (hp : Refuses p ts) : Refuses (held p) ts := by
  simp only [Refuses, Parser.held, show p (.ofList ts) = _ from hp, Option.map_none]

lemma Tells.listen (hp : Tells p ts a facts us) : Tells (listen p) ts (a, facts) facts us := by
  simp only [Tells, Parser.listen, show p (.ofList ts) = _ from hp, Option.map_some]

lemma Refuses.listen (hp : Refuses p ts) : Refuses (listen p) ts := by
  simp only [Refuses, Parser.listen, show p (.ofList ts) = _ from hp, Option.map_none]

/-! ### Looking at the input -/

lemma reads_here (ts : List Token) : Reads here ts (.ofList ts) ts := rfl

lemma reads_textSince (read ts : List Token) :
    Reads (textSince (.ofList (read ++ ts))) ts (Token.textOf read) ts := by
  rw [Reads, Tells, textSince, Input.upTo_ofList]

lemma reads_line (t : Token) (ts : List Token) : Reads line (t :: ts) t.line (t :: ts) := rfl

lemma refuses_check {b : Bool} (h : b = false) (ts : List Token) : Refuses (check b) ts := by
  rw [h]
  rfl

lemma Refuses.ahead (hp : Refuses p ts) : Refuses (ahead p) ts := by
  simp only [Refuses, Parser.ahead, show p (.ofList ts) = _ from hp, Option.map_none]

lemma Refuses.notAhead (hp : Refuses p ts) : Reads (notAhead p) ts () ts := by
  simp only [Reads, Tells, Parser.notAhead, show p (.ofList ts) = _ from hp]

lemma reads_atEnd : Reads atEnd [] () [] := rfl

/-! ### Single tokens -/

lemma reads_token {test : Token → Bool} {t : Token} (h : test t = true) (ts : List Token) :
    Reads (token test) (t :: ts) t ts := by
  simp only [Reads, Tells, token, Input.next?_ofList_cons, h, if_true]

lemma refuses_token {test : Token → Bool} (h : ¬Begins (test · = true) ts) :
    Refuses (token test) ts := by
  cases ts with
  | nil => rfl
  | cons t ts =>
    rw [begins_cons] at h
    simp only [Refuses, token, Input.next?_ofList_cons, h, Bool.false_eq_true, if_false]

lemma refuses_ofClass {kind : TokenClass} (h : ¬Begins (·.kind = kind) ts) :
    Refuses (ofClass kind) ts :=
  refuses_token (by simpa using h)

lemma refuses_oneOf {signs : List String} (h : ¬Begins (·.IsSign signs) ts) :
    Refuses (oneOf signs) ts :=
  (refuses_token (by simpa [Token.IsSign, Token.Is] using h)).bind

lemma reads_sign (gap s : String) (ts : List Token) :
    Reads (sign s) (.sign gap s :: ts) () ts :=
  (reads_token (by simp [Token.sign]) ts).bind (reads_pure _ _)

lemma refuses_sign {s : String} (h : ¬Begins (·.IsSign [s]) ts) : Refuses (sign s) ts :=
  (refuses_token (by simpa [Token.IsSign, Token.Is] using h)).bind

lemma refuses_adjacent {s : String} (h : ¬Begins (·.IsSign [s]) ts) : Refuses (adjacent s) ts := by
  refine (refuses_token ?_).bind
  rintro ⟨t, ht, htest⟩
  simp only [Bool.and_eq_true, beq_iff_eq] at htest
  exact h ⟨t, ht, htest.1.1, List.mem_singleton.mpr htest.1.2⟩

lemma reads_keyword (gap w : String) (ts : List Token) :
    Reads (keyword w) (.word gap w :: ts) () ts :=
  (reads_token (by simp [Token.word]) ts).bind (reads_pure _ _)

lemma refuses_keyword {w : String} (h : ¬Begins (·.IsWord [w]) ts) : Refuses (keyword w) ts :=
  (refuses_token (by simpa [Token.IsWord, Token.Is] using h)).bind

lemma reads_wordWith {test : String → Bool} {w : String} (h : test w = true) (gap : String)
    (ts : List Token) : Reads (wordWith test) (.word gap w :: ts) w ts :=
  (reads_token (by simpa [Token.word] using h) ts).bind (reads_pure _ _)

lemma reads_anyWord (gap w : String) (ts : List Token) :
    Reads anyWord (.word gap w :: ts) w ts := by
  unfold anyWord
  exact reads_wordWith (by rfl) gap ts

/-- Where no word stands there is none that is not excepted. -/
lemma refuses_wordExcept (words : List String) (h : ¬Begins (·.kind = .word) ts) :
    Refuses (wordExcept words) ts := by
  refine (refuses_token ?_).bind
  rintro ⟨t, ht, htest⟩
  simp only [Bool.and_eq_true, beq_iff_eq] at htest
  exact h ⟨t, ht, htest.1⟩

lemma refuses_wordExcept_of_mem {words : List String} (h : Begins (·.IsWord words) ts) :
    Refuses (wordExcept words) ts := by
  cases ts with
  | nil => exact absurd h not_begins_nil
  | cons t ts =>
    rw [begins_cons] at h
    exact (refuses_token (by simp [h.2])).bind

lemma refuses_wordAmong {words : List String} (h : ¬Begins (·.IsWord words) ts) :
    Refuses (wordAmong words) ts :=
  (refuses_token (by simpa [Token.IsWord, Token.Is] using h)).bind

/-! ### Repetition -/

lemma Reads.maybe (hp : Reads p ts a us) : Reads (maybe p) ts (some a) us := by
  simp only [Reads, Tells, Parser.maybe, show p (.ofList ts) = _ from hp]

lemma Refuses.maybe (hp : Refuses p ts) : Reads (maybe p) ts none ts := by
  simp only [Reads, Tells, Parser.maybe, show p (.ofList ts) = _ from hp]

/-- More rounds than there are tokens change nothing, as each round reads one at least. -/
lemma repeated_of_le (p : Parser α) {n m : Nat} {i : Input} (hn : i.count ≤ n) (hm : i.count ≤ m) :
    repeated p n i = repeated p m i := by
  induction n generalizing m i with
  | zero =>
    cases m with
    | zero => rfl
    | succ m =>
      rw [repeated, repeated]
      cases p i with
      | none => rfl
      | some r => exact (if_neg (by omega)).symm
  | succ n ih =>
    cases m with
    | zero =>
      rw [repeated, repeated]
      cases p i with
      | none => rfl
      | some r => exact if_neg (by omega)
    | succ m =>
      rw [repeated, repeated]
      cases p i with
      | none => rfl
      | some r =>
        by_cases hlt : r.rest.count < i.count
        · simp only [hlt, if_true]
          rw [ih (m := m) (by omega) (by omega)]
        · simp only [hlt, if_false]

lemma reads_many_nil (p : Parser α) : Reads (many p) [] [] [] := rfl

lemma Refuses.many (hp : Refuses p ts) : Reads (many p) ts [] ts := by
  cases ts with
  | nil => rfl
  | cons t ts =>
    change repeated p (ts.length + 1) (.ofList (t :: ts)) = _
    rw [repeated, show p (.ofList (t :: ts)) = _ from hp]

lemma Tells.many {as : List α} (hp : Tells p ts a facts us) (hlt : us.length < ts.length)
    (hmore : Tells (many p) us as facts' vs) :
    Tells (many p) ts (a :: as) (facts ++ facts') vs := by
  obtain ⟨n, hn⟩ : ∃ n, ts.length = n + 1 := ⟨ts.length - 1, by omega⟩
  have hrest : repeated p n (.ofList us) = some ⟨as, facts', .ofList vs⟩ := by
    rw [← show repeated p us.length (.ofList us) = _ from hmore]
    exact repeated_of_le p (show us.length ≤ n by omega) (Nat.le_refl us.length)
  change repeated p ts.length (.ofList ts) = _
  rw [hn, repeated, show p (.ofList ts) = _ from hp]
  simp only [show (Input.ofList us).count < (Input.ofList ts).count from hlt, if_true, hrest]

lemma Reads.many {as : List α} (hp : Reads p ts a us) (hlt : us.length < ts.length)
    (hmore : Reads (many p) us as vs) : Reads (many p) ts (a :: as) vs :=
  Tells.many hp hlt hmore

lemma Reads.separated {as : List α} {sep : String} (hp : Reads p ts a us)
    (hmore : Reads (Parser.many (do sign sep; p)) us as vs) :
    Reads (Parser.separated p sep) ts (a :: as) vs :=
  hp.bind (hmore.bind (reads_pure _ _))

lemma Reads.listed {as : List α} {opening closing gap gap' : String}
    (hitems : Reads (Parser.separated p ",") ts as (.sign gap' closing :: vs)) :
    Reads (Parser.listed opening closing p) (.sign gap opening :: ts) as vs :=
  (reads_sign gap opening ts).bind
    (hitems.maybe.bind ((reads_sign gap' closing vs).bind (reads_pure _ _)))

lemma refuses_listed {opening closing : String} (h : ¬Begins (·.IsSign [opening]) ts) :
    Refuses (listed opening closing p) ts :=
  (refuses_sign h).bind

end Parser

end Cartograph.Java
