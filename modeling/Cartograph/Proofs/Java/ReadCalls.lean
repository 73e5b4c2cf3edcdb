import Cartograph.Proofs.Java.OneMethod

/-!
# Reading calls on a chain of names

Calls of methods one after the other, the first on a chain of names, are read as one operand. No
rule that begins with a word or a sign of its own applies to them, and the names are no type. The
chain of dots is read step by step, and the operand so far is the scope of the next call.
-/

namespace Cartograph.Java.Rule

open Java.Parser Text

variable {n : Nat} {g : Grammar} {ts us rest : List Token} {gap : String}

/-! ### Rules that do not apply -/

/-- Words that begin a statement or an operand of their own; `this` is not among them. -/
def openingWords : List String :=
  statementWords ++ modifierWords ++ ["case", "default", "synchronized", "sealed", "yield",
    "switch", "open", "module", "record", "true", "false", "null", "super", "new"]

/-- The tokens begin with none of the words, signs and literals that have a rule of their own among
statements and operands, and if a word comes first it does not become one by the sign after it. -/
structure Plain (ts : List Token) : Prop where
  words : ¬Begins (·.IsWord openingWords) ts
  signs : ¬Begins (·.IsSign ["(", "+", "-", "!", "~", "++", "--", ";", "\x7b", "@"]) ts
  literals : ∀ kind ∈ [TokenClass.number, .text, .textHead], ¬Begins (·.kind = kind) ts
  second : ∀ t us, ts = t :: us → t.kind = .word → ¬Begins (·.IsSign ["-", "->", ":"]) us

namespace Plain

lemma keyword (h : Plain ts) {w : String} (hw : w ∈ openingWords) : Refuses (keyword w) ts :=
  refuses_keyword (not_begins_of_subset h.words (by simpa using hw))

lemma wordAmong (h : Plain ts) {words : List String} (hwords : words ⊆ openingWords) :
    Refuses (wordAmong words) ts :=
  refuses_wordAmong (not_begins_of_subset h.words hwords)

lemma sign (h : Plain ts) {s : String}
    (hs : s ∈ ["(", "+", "-", "!", "~", "++", "--", ";", "\x7b", "@"]) : Refuses (sign s) ts :=
  refuses_sign (not_begins_of_subset h.signs (by simpa using hs))

lemma notHyphenated (h : Plain ts) : NotHyphenated ts := fun t us heq hnon =>
  not_begins_of_subset (h.second t us heq hnon.1) (by decide)

/-- What needs a word and one of the signs after it does not apply. -/
lemma word_bind (h : Plain ts) {words : List String} {α : Type} {f : Parser α}
    (hf : ∀ us, ¬Begins (·.IsSign ["-", "->", ":"]) us → Refuses f us) :
    Refuses (do let _ ← wordExcept words; f) ts := by
  cases ts with
  | nil => exact (refuses_wordExcept _ not_begins_nil).bind
  | cons t us =>
    by_cases hkind : t.kind = .word
    · have hrest := hf us (h.second t us rfl hkind)
      by_cases hmem : t.text ∈ words
      · exact (refuses_wordExcept_of_mem (begins_cons.mpr ⟨hkind, hmem⟩)).bind
      · have hread : Reads (wordExcept words) (t :: us) t.text us :=
          (reads_token (by simp [hkind, hmem]) us).bind (reads_pure _ _)
        exact hread.bind_refuses hrest
    · exact (refuses_wordExcept _ (by simpa using hkind)).bind

lemma reads_modifiers (n : Nat) (h : Plain ts) : Reads (modifiers (.level n)) ts ({}, []) ts :=
  Rule.reads_modifiers n (not_begins_of_subset h.words (by decide)) h.notHyphenated
    (not_begins_of_subset h.signs (by decide))

end Plain

/-- A closing parenthesis or brace. -/
lemma plain_closing {s : String} (hs : s ∈ [")", "\x7d"]) (gap : String) (ts : List Token) :
    Plain (.sign gap s :: ts) where
  words := by simp
  signs := by
    rw [begins_cons, Token.isSign_sign]
    revert s
    decide
  literals := by simp
  second := by
    rintro t us heq hkind
    obtain ⟨rfl, -⟩ := List.cons.inj heq
    cases hkind

/-- A word and a dot. -/
lemma plain_dotted {w : String} (hw : w ∉ openingWords) (gap : String) (ts : List Token) :
    Plain (.word gap w :: .sign "" "." :: ts) where
  words := by simpa using hw
  signs := by simp
  literals := by simp
  second := by
    rintro t us heq -
    obtain ⟨-, rfl⟩ := List.cons.inj heq
    simp

lemma not_mem_openingWords {w : String} (hw : isIdentifier w = true) : w ∉ openingWords :=
  not_mem_of_isIdentifier hw (by decide)

lemma not_mem_expressionWords {w : String} (hw : isIdentifier w = true) : w ∉ expressionWords :=
  not_mem_of_isIdentifier hw fun v hv =>
    isIdentifier_of_mem_typelessWords v (List.mem_cons_of_mem _ hv)

lemma refuses_textLiteral (g : Grammar)
    (h : ∀ kind ∈ [TokenClass.number, .text, .textHead], ¬Begins (·.kind = kind) ts) :
    Refuses (textLiteral g) ts := by
  have hplain : Refuses (ofClass .text) ts := refuses_ofClass (h _ (by decide))
  have hhead : Refuses (ofClass .textHead) ts := refuses_ofClass (h _ (by decide))
  exact (reads_here ts).bind_refuses (hplain.bind.orElse_refuses hhead.bind).held.bind

lemma refuses_lambda (g : Grammar) (h : Plain ts) : Refuses (lambda g) ts := by
  have hparen := h.sign (s := "(") (by decide)
  have hword : Refuses (do let _ ← wordExcept expressionWords; sign "->") ts :=
    h.word_bind fun us hus => refuses_sign (not_begins_of_subset hus (by decide))
  exact (hword.orElse_refuses (hparen.bind.bind.orElse_refuses hparen.bind.bind)).bind

/-! ### Atoms -/

/-- An atom that begins with a word: a call of its own, or a name. -/
def nameOperand (g : Grammar) (start : Input) : Parser Operand := do
  let w ← wordExcept expressionWords
  (do
    let (args, facts) ← arguments g
    return .call none w (← textSince start) args facts)
  <|> (do return { view := .name w, isTarget := true })

/-- Of the rules for atoms only the last two are left. -/
lemma atom_eq (g : Grammar) (h : Plain ts) (hthis : ¬Begins (·.IsWord ["this"]) ts) :
    atom g (.ofList ts) = (typeOperand g <|> nameOperand g (.ofList ts)) (.ofList ts) := by
  have htext := refuses_textLiteral g h.literals
  have hnumber : Refuses (ofClass .number) ts := refuses_ofClass (h.literals _ (by decide))
  have hwords : Refuses (wordAmong ["true", "false", "null"]) ts := h.wordAmong (by decide)
  have hparen : Refuses (parenthesized g) ts := (h.sign (by decide)).bind
  exact (reads_here ts).bind_eq.trans (htext.bind.orElse_eq.trans (hnumber.bind.orElse_eq.trans
    (hwords.bind.orElse_eq.trans ((refuses_keyword hthis).bind.orElse_eq.trans
      ((h.keyword (w := "super") (by decide)).bind.orElse_eq.trans
        ((h.keyword (w := "new") (by decide)).bind.orElse_eq.trans
          hparen.held.bind.orElse_eq))))))

/-- Nothing can be read where something is closed. -/
lemma refuses_atom {s : String} (hs : s ∈ [")", "\x7d"]) (n : Nat) (gap : String)
    (ts : List Token) : Refuses (atom (.level n)) (.sign gap s :: ts) := by
  have hplain := plain_closing hs gap ts
  have hat : Refuses (Grammar.level n).annotationUse (.sign gap s :: ts) :=
    refuses_annotationUse n (not_begins_of_subset hplain.signs (by decide))
  have htype : Refuses (annotatedType (.level n)) (.sign gap s :: ts) :=
    hat.many.bind_refuses (refuses_type n (by simp))
  have hoperand : Refuses (typeOperand (.level n)) (.sign gap s :: ts) :=
    (reads_here _).bind_refuses htype.bind.held.bind
  refine (atom_eq _ hplain (by simp)).trans (hoperand.orElse_refuses ?_)
  exact (refuses_wordExcept _ (by simp)).bind

lemma reads_atom_this (g : Grammar) (gap : String) (ts : List Token) :
    Reads (atom g) (.word gap "this" :: ts) { view := .this } ts := by
  have htext : Refuses (textLiteral g) (.word gap "this" :: ts) := refuses_textLiteral g (by simp)
  have hnumber : Refuses (ofClass .number) (.word gap "this" :: ts) := refuses_ofClass (by simp)
  have hwords : Refuses (wordAmong ["true", "false", "null"]) (.word gap "this" :: ts) :=
    refuses_wordAmong (by simp)
  refine (reads_here _).bind (htext.bind.orElse (hnumber.bind.orElse (hwords.bind.orElse
    (Reads.orElse ?_))))
  exact (reads_keyword gap "this" ts).bind (reads_pure _ _)

/-- A dotted name is cut at its dots into the identifiers that it was made of. -/
lemma pieces_join_identifiers {s : String} {segments : List String}
    (hall : ∀ x ∈ s :: segments, isIdentifier x = true) :
    pieces '.' (".".intercalate (s :: segments)) = s :: segments := by
  refine pieces_intercalate (List.cons_ne_nil _ _) fun x hx hdot => ?_
  obtain ⟨c, cs, htext, -, hchars⟩ :=
    exists_of_isPlainWord (isPlainWord_of_isIdentifier (hall x hx))
  exact ne_of_isLetterOrDigit (hchars '.' (htext ▸ hdot)) (by decide) rfl

/-- A dotted name is read as a type, up to what cannot go on with it. -/
lemma reads_type_name {s : String} {segments : List String}
    (hall : ∀ x ∈ s :: segments, isIdentifier x = true) (hrest : EndsType rest) :
    Reads (type (.level (n + 1))) (.word gap s :: (dotted segments ++ rest))
      (.plain (".".intercalate (s :: segments))) rest := by
  have hpieces := pieces_join_identifiers hall
  have hname : isDottedName (".".intercalate (s :: segments)) = true := by
    rw [isDottedName, hpieces, List.all_eq_true]
    exact hall
  have htokens : (WrittenType.named (".".intercalate (s :: segments)) []).tokens gap ++ rest =
      .word gap s :: (dotted segments ++ rest) := by
    simp [WrittenType.tokens, WrittenType.argsTokens, nameTokens, hpieces]
  have hargs : (WrittenType.argsTokens []).length < n + 1 := Nat.succ_pos n
  have hsimple : Reads (simpleType (.level (n + 1)) typelessWords)
      ((WrittenType.named (".".intercalate (s :: segments)) []).tokens gap ++ rest) _ rest :=
    reads_simpleType_named (readsTypes_level (n + 1)) hname rfl hargs
      isIdentifier_of_mem_typelessWords hrest.endsName
  rw [htokens] at hsimple
  exact hsimple.bind ((refuses_dims (n + 1) hrest).maybe.bind (reads_pure _ _))

/-- A dotted name alone is no type operand: it has nothing that only a type has. -/
lemma refuses_typeOperand_name {s : String} {segments : List String}
    (hall : ∀ x ∈ s :: segments, isIdentifier x = true) (hrest : EndsType rest) :
    Refuses (typeOperand (.level (n + 2))) (.word gap s :: (dotted segments ++ rest)) := by
  have hat : Refuses (Grammar.level (n + 2)).annotationUse
      (.word gap s :: (dotted segments ++ rest)) := refuses_annotationUse _ (by simp)
  have htype : Reads (annotatedType (.level (n + 2))) (.word gap s :: (dotted segments ++ rest))
      (.plain (".".intercalate (s :: segments))) rest := hat.many.bind (reads_type_name hall hrest)
  have hword : ∀ x ∈ s :: segments, x ∉ expressionWords := fun x hx =>
    not_mem_expressionWords (hall x hx)
  have hnames : ((Token.word gap s :: dotted segments).any fun t =>
      if t.kind == .word then expressionWords.contains t.text else t.text != ".") = false := by
    simp only [List.mem_cons, forall_eq_or_imp] at hword
    simpa [dotted, List.any_flatMap, Token.word, Token.sign] using hword
  have hupTo := Input.upTo_ofList (.word gap s :: dotted segments) rest
  refine (reads_here _).bind_refuses (Refuses.held ?_).bind
  refine htype.bind_refuses ((reads_here rest).bind_refuses (refuses_check ?_ rest).bind)
  rw [List.cons_append] at hupTo
  rw [hupTo, hnames]

/-- A name that goes on with a dot is an atom of its own. -/
lemma reads_atom_name {s : String} {segments : List String}
    (hall : ∀ x ∈ s :: segments, isIdentifier x = true) (hne : segments ≠ [])
    (hrest : EndsType rest) :
    Reads (atom (.level (n + 2))) (.word gap s :: (dotted segments ++ rest))
      { view := .name s, isTarget := true } (dotted segments ++ rest) := by
  obtain ⟨t, segments, rfl⟩ := List.exists_cons_of_ne_nil hne
  have hs := hall s List.mem_cons_self
  have hplain := plain_dotted (not_mem_openingWords hs) gap
    (.word "" t :: (dotted segments ++ rest))
  have hthis : s ∉ ["this"] := not_mem_of_isIdentifier hs (by decide)
  have hcall : Refuses (arguments (.level (n + 2))) (dotted (t :: segments) ++ rest) :=
    (refuses_listed (by simp)).held
  refine (atom_eq _ hplain (by simpa using hthis)).trans
    ((refuses_typeOperand_name hall hrest).orElse ?_)
  exact (reads_wordWith (by simpa using not_mem_expressionWords hs) gap _).bind
    (hcall.bind.orElse (reads_pure _ _))

/-! ### Where nothing can be read -/

/-- An operand with the operators around it that only it can have. -/
def plainOperand (g : Grammar) (start : Input) : Parser Expr := do
  let o ← primary g
  tell o.facts
  (do
    (do check o.isTarget; assignment; let _ ← g.expression true)
    return .other (← textSince start))
  <|> (do
    (do
      oneOf ["++", "--"]
      let _ ← many (oneOf ["++", "--"]))
    return .other (← textSince start))
  <|> Parser.pure o.view

/-- Of the rules for operands only the last one is left. -/
lemma operand_eq (g : Grammar) (h : Plain ts) :
    operand g true (.ofList ts) = plainOperand g (.ofList ts) (.ofList ts) := by
  have hlambda : Refuses (do check true; lambda g) ts :=
    (reads_pure () ts).bind_refuses (refuses_lambda g h)
  have hsign : Refuses (oneOf ["+", "-", "!", "~", "++", "--"]) ts :=
    refuses_oneOf (not_begins_of_subset h.signs (by decide))
  have hcast : Refuses (cast g true) ts := (h.sign (by decide)).bind
  have hswitch : Refuses (switch g) ts := (h.keyword (by decide)).bind
  exact (reads_here ts).bind_eq.trans (hlambda.bind.orElse_eq.trans (hsign.bind.bind.orElse_eq.trans
    (hcast.bind.orElse_eq.trans hswitch.bind.orElse_eq)))

lemma refuses_expression {s : String} (hs : s ∈ [")", "\x7d"]) (n : Nat) (gap : String)
    (ts : List Token) : Refuses (expression (.level n) true) (.sign gap s :: ts) := by
  have hprimary : Refuses (primary (.level n)) (.sign gap s :: ts) :=
    (reads_here _).bind_refuses (refuses_atom hs n gap ts).bind
  have hoperand : Refuses (operand (.level n) true) (.sign gap s :: ts) :=
    (operand_eq _ (plain_closing hs gap ts)).trans hprimary.bind
  exact (reads_here _).bind_refuses hoperand.bind

/-- Empty parentheses hold no arguments. -/
lemma reads_arguments_nil (n : Nat) (ts : List Token) :
    Reads (arguments (.level n)) (.sign "" "(" :: .sign "" ")" :: ts) ([], []) ts := by
  have hexpression : Refuses ((Grammar.level n).expression true) (.sign "" ")" :: ts) := by
    cases n with
    | zero => rfl
    | succ n => exact refuses_expression (by decide) n "" ts
  have hnone : Refuses (separated ((Grammar.level n).expression true) ",") (.sign "" ")" :: ts) :=
    hexpression.bind
  exact Reads.held ((reads_sign "" "(" _).bind (hnone.maybe.bind
    ((reads_sign "" ")" ts).bind (reads_pure _ _))))

/-! ### Chains of dots -/

section

variable {m s : String} {start : Input} {o o' r : Operand} {segments methods : List String}

/-- A name behind a dot is a field or a call. -/
lemma reads_step (hs : isIdentifier s = true)
    (h : Reads (selection g start o) (.word "" s :: ts) o' us) :
    Reads (step g start o) (.sign "" "." :: .word "" s :: ts) o' us := by
  have hkeyword {w : String} (hw : isIdentifier w = false) :
      Refuses (keyword w) (.word "" s :: ts) := by
    have hne : s ∉ [w] := not_mem_of_isIdentifier hs (by simpa using hw)
    exact refuses_keyword (by simpa using hne)
  have htext : Refuses (textLiteral g) (.word "" s :: ts) := refuses_textLiteral g (by simp)
  refine Reads.orElse ?_
  exact (reads_sign "" "." _).bind ((hkeyword (by decide)).bind.orElse
    ((hkeyword (by decide)).bind.orElse ((hkeyword (by decide)).bind.orElse (htext.bind.orElse h))))

lemma refuses_step (g : Grammar) (start : Input) (o : Operand)
    (h : ¬Begins (·.IsSign [".", "[", "::"]) ts) : Refuses (step g start o) ts := by
  have hsign {s : String} (hs : s ∈ [".", "[", "::"]) : Refuses (sign s) ts :=
    refuses_sign (not_begins_of_subset h (by simpa using hs))
  exact (hsign (by decide)).bind.orElse_refuses ((hsign (by decide)).bind.orElse_refuses
    (hsign (by decide)).bind)

lemma reads_chain {fuel : Nat} (hstep : Reads (step g start o) ts o' us)
    (hmore : Reads (chain g start fuel o') us r rest) :
    Reads (chain g start (fuel + 1) o) ts r rest :=
  (hstep.bind hmore).orElse

/-- An identifier may be the name of a field or of a method. -/
lemma reads_member (hs : isIdentifier s = true) (ts : List Token) :
    Reads (wordExcept ["super", "new"]) (.word "" s :: ts) s ts := by
  have hword : s ∉ ["super", "new"] := not_mem_of_isIdentifier hs (by decide)
  exact reads_wordWith (by simpa using hword) "" ts

/-- The field has the text since the start, which only matters where it is no chain of names. -/
lemma exists_reads_field (hs : isIdentifier s = true) (hcall : ¬Begins (·.IsSign ["("]) ts)
    (start : Input) (o : Operand) :
    ∃ text, Reads (step g start o) (.sign "" "." :: .word "" s :: ts) (o.field s text) ts := by
  have hargs : Refuses (typeArgs g) (.word "" s :: ts) := refuses_listed (by simp)
  have harguments : Refuses (arguments g) ts := (refuses_listed hcall).held
  have hname := reads_member hs ts
  refine ⟨Token.textOf (start.upTo (.ofList ts)), reads_step hs ?_⟩
  exact hargs.maybe.held.bind (hname.bind (harguments.bind.orElse ((reads_pure () ts).bind
    (Reads.bind (show Reads (textSince start) ts _ ts from rfl) (reads_pure _ _)))))

/-- The tokens of calls without arguments, each behind its dot. -/
def callTokens (methods : List String) : List Token :=
  methods.flatMap fun m => [.sign "" ".", .word "" m, .sign "" "(", .sign "" ")"]

lemma textOf_called {read : List Token} (hread : read ≠ []) (m : String) :
    Token.textOf (read ++ callTokens [m]) = Token.textOf read ++ "." ++ m ++ "()" := by
  obtain ⟨t, read, rfl⟩ := List.exists_cons_of_ne_nil hread
  have hcall : String.join ((callTokens [m]).map fun u => u.gap ++ u.text) = "." ++ m ++ "()" := by
    simp [callTokens, Token.word, Token.sign, String.append_assoc]
  rw [List.cons_append, Token.textOf, List.map_append, String.join_append, hcall, Token.textOf]
  simp only [String.append_assoc]

/-- The operand with a method called on it, without arguments. -/
def Operand.called (o : Operand) (m : String) : Operand :=
  .call (some o) m (o.view.render ++ "." ++ m ++ "()") [] []

/-- A call without arguments is read with the text of the whole chain so far. -/
lemma reads_called {read : List Token} (hm : isIdentifier m = true) (hread : read ≠ [])
    (hview : o.view.render = Token.textOf read) :
    Reads (step (.level n) (.ofList (read ++ (callTokens [m] ++ ts))) o) (callTokens [m] ++ ts)
      (o.called m) ts := by
  have hargs : Refuses (typeArgs (.level n)) (.word "" m :: .sign "" "(" :: .sign "" ")" :: ts) :=
    refuses_listed (by simp)
  have htext := reads_textSince (read ++ callTokens [m]) ts
  rw [textOf_called hread, ← hview, List.append_assoc] at htext
  refine reads_step hm (hargs.maybe.held.bind
    ((reads_member hm _).bind (Reads.orElse ?_)))
  exact (reads_arguments_nil n ts).bind (htext.bind (reads_pure _ _))

/-- The calls are read one after the other, each on the operand before it. -/
lemma reads_chain_calls (hrest : ¬Begins (·.IsSign [".", "[", "::"]) rest)
    (hall : ∀ m ∈ methods, isIdentifier m = true) {read : List Token} (hread : read ≠ [])
    (hview : o.view.render = Token.textOf read) {fuel : Nat} (hfuel : methods.length ≤ fuel) :
    Reads (chain (.level n) (.ofList (read ++ (callTokens methods ++ rest))) fuel o)
      (callTokens methods ++ rest) (methods.foldl Operand.called o) rest := by
  induction methods generalizing o read fuel with
  | nil =>
    cases fuel with
    | zero => exact reads_pure _ _
    | succ fuel => exact (refuses_step _ _ _ hrest).bind.orElse (reads_pure _ _)
  | cons m methods ih =>
    obtain ⟨hm, hmore⟩ := List.forall_mem_cons.mp hall
    obtain ⟨fuel, rfl⟩ : ∃ k, fuel = k + 1 :=
      Nat.exists_eq_add_one.mpr (Nat.lt_of_lt_of_le (Nat.succ_pos _) hfuel)
    have hgrown : read ++ callTokens [m] ≠ [] := List.append_ne_nil_of_left_ne_nil hread _
    have hview' : (o.called m).view.render = Token.textOf (read ++ callTokens [m]) := by
      rw [textOf_called hread, ← hview]
      rfl
    have hnext := ih hmore hgrown hview' (Nat.le_of_succ_le_succ hfuel)
    rw [List.append_assoc] at hnext
    exact reads_chain (reads_called hm hread hview) hnext

lemma not_begins_dotted (h : ¬Begins (·.IsSign ["("]) rest) :
    ¬Begins (·.IsSign ["("]) (dotted segments ++ rest) := by
  cases segments with
  | nil => exact h
  | cons t segments => simp

/-- The names behind dots are read into the chain of names that the operand is. -/
lemma exists_reads_fields {rooted : Bool} {names : List String}
    (hall : ∀ x ∈ segments, isIdentifier x = true) (hrest : ¬Begins (·.IsSign ["("]) rest)
    (hview : o.view = .selector rooted names) (hinner : o.inner = []) (start : Input) :
    ∃ o', o'.view = .selector rooted (names ++ segments) ∧ o'.inner = [] ∧
      ∀ fuel r us, Reads (chain g start fuel o') rest r us →
        Reads (chain g start (fuel + segments.length) o) (dotted segments ++ rest) r us := by
  induction segments generalizing o names with
  | nil => exact ⟨o, by rw [hview, List.append_nil], hinner, fun _ _ _ h => h⟩
  | cons s segments ih =>
    obtain ⟨hs, hmore⟩ := List.forall_mem_cons.mp hall
    obtain ⟨text, hstep⟩ := exists_reads_field hs (not_begins_dotted hrest) start o
    have hfield : (o.field s text).view = .selector rooted (names ++ [s]) := by
      simp only [Operand.field, hview]
    obtain ⟨o', hview', hinner', hchain⟩ := ih hmore hfield hinner
    refine ⟨o', by rw [hview', List.append_assoc]; rfl, hinner', fun fuel r us h => ?_⟩
    exact reads_chain hstep (hchain fuel r us h)

/-- The tokens of a chain of names, at `this` if it is rooted there. -/
def receiverTokens (gap : String) (rooted : Bool) (s : String) (segments : List String) :
    List Token :=
  if rooted then .word gap "this" :: dotted (s :: segments) else .word gap s :: dotted segments

lemma receiverTokens_false (gap s : String) (segments : List String) :
    receiverTokens gap false s segments = .word gap s :: dotted segments := rfl

lemma receiverTokens_true (gap s : String) (segments : List String) :
    receiverTokens gap true s segments = .word gap "this" :: .sign "" "." :: .word "" s ::
      dotted segments := rfl

lemma render_rooted (s : String) (segments : List String) :
    (Expr.selector true (s :: segments)).render = ".".intercalate ("this" :: s :: segments) := by
  rw [String.intercalate_cons_cons]
  rfl

lemma textOf_receiverTokens (gap : String) (rooted : Bool) (s : String) (segments : List String) :
    Token.textOf (receiverTokens gap rooted s segments) =
      (Expr.selector rooted (s :: segments)).render := by
  cases rooted with
  | false => exact textOf_name gap s segments
  | true => exact (textOf_name gap "this" (s :: segments)).trans (render_rooted s segments).symm

lemma receiverTokens_ne_nil (gap : String) (rooted : Bool) (s : String) (segments : List String) :
    receiverTokens gap rooted s segments ≠ [] := by
  cases rooted <;> exact List.cons_ne_nil _ _

/-- The last name and the name of the first call are neighbours in one dotted name. -/
lemma dotted_append_callTokens (segments : List String) (m : String) (methods : List String)
    (rest : List Token) :
    dotted segments ++ (callTokens (m :: methods) ++ rest) = dotted (segments ++ [m]) ++
      (.sign "" "(" :: .sign "" ")" :: (callTokens methods ++ rest)) := by
  simp [dotted, callTokens]

lemma reads_primary {fuel : Nat} (hatom : Reads (atom g) ts o us)
    (hchain : Reads (chain g (.ofList ts) fuel o) us r rest) (hfuel : ts.length = fuel) :
    Reads (primary g) ts r rest := by
  subst hfuel
  exact (reads_here ts).bind (hatom.bind hchain)

lemma length_dotted (segments : List String) : (dotted segments).length = 2 * segments.length := by
  induction segments with
  | nil => rfl
  | cons s segments ih =>
    rw [dotted_cons, List.length_cons, List.length_cons, List.length_cons, ih]
    omega

lemma length_le_callTokens (methods : List String) :
    methods.length ≤ (callTokens methods).length := by
  induction methods with
  | nil => exact Nat.le_refl _
  | cons m methods ih =>
    change methods.length + 1 ≤ (callTokens methods).length + 4
    omega

/-- The calls follow the last name, with more rounds left than there are calls. -/
lemma reads_chain_receiver {rooted : Bool} (hmethods : ∀ m ∈ methods, isIdentifier m = true)
    (hrest : ¬Begins (·.IsSign [".", "[", "::"]) rest)
    (hview : o.view = .selector rooted (s :: segments)) (extra : Nat) :
    Reads (chain (.level n) (.ofList (receiverTokens gap rooted s segments ++
      (callTokens methods ++ rest))) ((callTokens methods ++ rest).length + extra) o)
      (callTokens methods ++ rest) (methods.foldl Operand.called o) rest := by
  have hcount := length_le_callTokens methods
  have htext : o.view.render = Token.textOf (receiverTokens gap rooted s segments) := by
    rw [hview, textOf_receiverTokens]
  refine reads_chain_calls hrest hmethods (receiverTokens_ne_nil gap rooted s segments) htext ?_
  rw [List.length_append]
  omega

/-- Calls on a chain of names are read as one operand. -/
lemma exists_reads_primary (hall : ∀ x ∈ s :: segments, isIdentifier x = true)
    (hmethods : ∀ x ∈ m :: methods, isIdentifier x = true)
    (hrest : ¬Begins (·.IsSign [".", "[", "::"]) rest) (gap : String) (rooted : Bool) :
    ∃ o, o.view = .selector rooted (s :: segments) ∧ o.inner = [] ∧
      Reads (primary (.level (n + 2)))
        (receiverTokens gap rooted s segments ++ (callTokens (m :: methods) ++ rest))
        ((m :: methods).foldl Operand.called o) rest := by
  obtain ⟨hs, hsegments⟩ := List.forall_mem_cons.mp hall
  have hdot : ¬Begins (·.IsSign ["("]) (callTokens (m :: methods) ++ rest) := by simp [callTokens]
  cases rooted with
  | false =>
    have hatom : Reads (atom (.level (n + 2)))
        (receiverTokens gap false s segments ++ (callTokens (m :: methods) ++ rest))
        { view := .name s, isTarget := true }
        (dotted segments ++ (callTokens (m :: methods) ++ rest)) := by
      have hnames : ∀ x ∈ s :: (segments ++ [m]), isIdentifier x = true :=
        List.forall_mem_append.mpr ⟨hall, by simpa using hmethods m List.mem_cons_self⟩
      rw [receiverTokens_false, List.cons_append, dotted_append_callTokens]
      exact reads_atom_name hnames (by simp) (by simp [EndsType])
    obtain ⟨o, hview, hinner, hchain⟩ :=
      exists_reads_fields (o := { view := .name s, isTarget := true }) hsegments hdot rfl rfl _
    refine ⟨o, hview, hinner, reads_primary hatom (hchain _ _ _
      (reads_chain_receiver hmethods hrest hview (segments.length + 1))) ?_⟩
    simp only [receiverTokens_false, List.cons_append, List.length_cons, List.length_append,
      length_dotted]
    omega
  | true =>
    have hnext : ¬Begins (·.IsSign ["("])
        (dotted segments ++ (callTokens (m :: methods) ++ rest)) := not_begins_dotted hdot
    obtain ⟨text, hfirst⟩ := exists_reads_field (g := .level (n + 2)) hs hnext (.ofList
      (receiverTokens gap true s segments ++ (callTokens (m :: methods) ++ rest))) { view := .this }
    obtain ⟨o, hview, hinner, hchain⟩ :=
      exists_reads_fields (o := Operand.field { view := .this } s text) hsegments hdot rfl rfl _
    refine ⟨o, hview, hinner, reads_primary (reads_atom_this _ gap _) (reads_chain hfirst
      (hchain _ _ _ (reads_chain_receiver hmethods hrest hview (segments.length + 2)))) ?_⟩
    simp only [receiverTokens_true, List.cons_append, List.length_cons, List.length_append,
      length_dotted]
    omega

end

end Cartograph.Java.Rule
