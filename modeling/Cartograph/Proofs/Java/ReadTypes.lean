import Cartograph.Java.Source
import Cartograph.Proofs.Java.Spelling
import Cartograph.Proofs.Text.GenericSections

/-!
# Reading written types

The rules for types read the tokens of a type up to anything that does not go on with it, and give
the type back. The rules call each other one level of the grammar further down; a type of so many
tokens is read at any level above their number.
-/

namespace Cartograph.Java

open Java.Parser Text WrittenType

/-! ### What ends a type -/

/-- The tokens do not go on with the class type before them. -/
def EndsName (ts : List Token) : Prop := ¬Begins (·.IsSign [".", "<"]) ts

/-- The tokens do not go on with the type before them. -/
def EndsType (ts : List Token) : Prop := ¬Begins (·.IsSign [".", "<", "[", "@"]) ts

/-- The tokens begin with what follows a type argument. -/
def EndsArg (ts : List Token) : Prop := Begins (·.IsSign [",", ">"]) ts

lemma EndsType.endsName {ts : List Token} (h : EndsType ts) : EndsName ts :=
  not_begins_of_subset h (by decide)

lemma EndsArg.endsType {ts : List Token} (h : EndsArg ts) : EndsType ts := by
  obtain ⟨t, ht, -, htext⟩ := h
  rintro ⟨u, hu, -, hutext⟩
  obtain rfl := Option.mem_unique ht hu
  revert htext hutext
  generalize t.text = s
  simp only [List.mem_cons, List.not_mem_nil, or_false]
  rintro (rfl | rfl) <;> decide

lemma EndsArg.not_begins_word {ts : List Token} (h : EndsArg ts) (words : List String) :
    ¬Begins (·.IsWord words) ts := by
  obtain ⟨t, ht, hkind, -⟩ := h
  rintro ⟨u, hu, hword, -⟩
  obtain rfl := Option.mem_unique ht hu
  rw [hkind] at hword
  cases hword

/-! ### Words that begin a type -/

/-- The word may begin a type. -/
def leads (w : String) : Bool := isIdentifier w || ("void" :: Rule.primitiveNames).contains w

lemma leads_of_isIdentifier {w : String} (h : isIdentifier w = true) : leads w = true := by
  rw [leads, h, Bool.true_or]

namespace WrittenType

lemma isValue_array {t : WrittenType} {dims : Nat} (h : (WrittenType.array t dims).isValue = true) :
    t.isArray = false ∧ 1 ≤ dims ∧ t.isValue = true := by
  simp only [isValue, Bool.and_eq_true, Bool.not_eq_true', decide_eq_true_eq] at h
  exact ⟨h.1.1, h.1.2, h.2⟩

lemma isWritten_of_isValue {t : WrittenType} (h : t.isValue = true) : t.isWritten = true := by
  cases t with
  | void => rfl
  | _ => exact h

/-- A type begins with a word, and a dot, an angle bracket or a square bracket follows it if there
is more of the type. -/
lemma exists_tokens_eq {t : WrittenType} (h : t.isWritten = true) (gap : String) :
    ∃ w ts, t.tokens gap = .word gap w :: ts ∧ leads w = true ∧
      (ts = [] ∨ Begins (·.IsSign [".", "<", "["]) ts) := by
  match t with
  | .primitive name =>
    have hname : name ∈ Rule.primitiveNames := by simpa [isWritten, isValue] using h
    refine ⟨name, [], rfl, ?_, Or.inl rfl⟩
    simp [leads, hname]
  | .void => exact ⟨"void", [], rfl, by decide, Or.inl rfl⟩
  | .named name args =>
    simp only [isWritten, isValue, Bool.and_eq_true] at h
    obtain ⟨s, segments, hall, -, htokens⟩ := exists_segments h.1
    have hs := leads_of_isIdentifier (hall s List.mem_cons_self)
    refine ⟨s, dotted segments ++ argsTokens args, by rw [tokens, htokens]; rfl, hs, ?_⟩
    cases segments with
    | nil => cases args <;> simp [argsTokens]
    | cons t segments => simp
  | .array t dims =>
    obtain ⟨-, hdims, hvalue⟩ := isValue_array h
    obtain ⟨w, ts, htokens, hw, hmore⟩ := exists_tokens_eq (isWritten_of_isValue hvalue) gap
    refine ⟨w, ts ++ bracketTokens dims, by rw [tokens, htokens]; rfl, hw, Or.inr ?_⟩
    rcases hmore with rfl | hmore
    · obtain ⟨n, rfl⟩ : ∃ n, dims = n + 1 := ⟨dims - 1, by omega⟩
      simp [bracketTokens]
    · exact begins_append hmore _

/-- A type does not begin with a word that may not begin one. -/
lemma not_begins_isWord {t : WrittenType} (h : t.isWritten = true) {words : List String}
    (hwords : ∀ w ∈ words, leads w = false) (gap : String) (rest : List Token) :
    ¬Begins (·.IsWord words) (t.tokens gap ++ rest) := by
  obtain ⟨w, ts, htokens, hw, -⟩ := exists_tokens_eq h gap
  rw [htokens, List.cons_append, begins_cons, Token.isWord_word]
  intro hmem
  simp [hwords w hmem] at hw

/-- A type does not begin with a sign. -/
lemma not_begins_isSign {t : WrittenType} (h : t.isWritten = true) (signs : List String)
    (gap : String) (rest : List Token) : ¬Begins (·.IsSign signs) (t.tokens gap ++ rest) := by
  obtain ⟨w, ts, htokens, -, -⟩ := exists_tokens_eq h gap
  simp [htokens]

end WrittenType

namespace Rule

variable {n bound : Nat} {ts rest : List Token} {gap : String}

/-! ### Type arguments -/

/-- The grammar reads every type of fewer tokens than the bound. -/
def ReadsTypes (g : Grammar) (bound : Nat) : Prop :=
  ∀ (t : WrittenType) (gap : String) (rest : List Token), t.isValue = true →
    (t.tokens gap).length < bound → EndsType rest → Reads g.type (t.tokens gap ++ rest) t rest

lemma refuses_annotationUse (n : Nat) (h : ¬Begins (·.IsSign ["@"]) ts) :
    Refuses (Grammar.level n).annotationUse ts := by
  cases n with
  | zero => rfl
  | succ n => exact (refuses_sign h).bind

lemma reads_annotatedType (h : ReadsTypes (.level n) bound) {t : WrittenType}
    (ht : t.isValue = true) (hlength : (t.tokens gap).length < bound) (hrest : EndsType rest) :
    Reads (annotatedType (.level n)) (t.tokens gap ++ rest) t rest :=
  (refuses_annotationUse n (not_begins_isSign (isWritten_of_isValue ht) _ gap rest)).many.bind
    (h t gap rest ht hlength hrest)

lemma reads_typeArg (h : ReadsTypes (.level n) bound) {a : TypeArg} (ha : isArg a = true)
    (hlength : (argTokens gap a).length < bound) (hrest : EndsArg rest) :
    Reads (typeArg (.level n)) (argTokens gap a ++ rest) a rest := by
  cases a with
  | type t =>
    have hwritten := isWritten_of_isValue ha
    have hwild : Refuses (sign "?") (t.tokens gap ++ rest) :=
      refuses_sign (not_begins_isSign hwritten _ gap rest)
    have htype := reads_annotatedType h ha hlength hrest.endsType
    refine Refuses.orElse ?_ (htype.bind (reads_pure _ _))
    exact (refuses_annotationUse n (not_begins_isSign hwritten _ gap rest)).many.bind_refuses
      hwild.bind
  | anything =>
    have hbound : Refuses (wordAmong ["extends", "super"]) rest :=
      refuses_wordAmong (hrest.not_begins_word _)
    refine Reads.orElse ?_
    exact (refuses_annotationUse n (by simp [argTokens])).many.bind ((reads_sign gap "?" rest).bind
      (hbound.bind.maybe.bind (reads_pure _ _)))
  | bounded t =>
    have hlt : (t.tokens " ").length < bound := by
      simp only [argTokens, List.length_cons] at hlength
      omega
    have hword : Reads (wordAmong ["extends", "super"])
        (.word " " "extends" :: (t.tokens " " ++ rest)) "extends" (t.tokens " " ++ rest) :=
      reads_wordWith (by decide) " " _
    have hbound := hword.bind (f := fun _ => annotatedType (.level n))
      (reads_annotatedType h ha hlt hrest.endsType)
    refine Reads.orElse ?_
    exact (refuses_annotationUse n (by simp [argTokens])).many.bind ((reads_sign gap "?" _).bind
      (hbound.maybe.bind (reads_pure _ _)))

lemma endsArg_restTokens (as : List TypeArg) (rest : List Token) :
    EndsArg (restTokens as ++ .sign "" ">" :: rest) := by
  cases as <;> simp [EndsArg, restTokens]

lemma reads_restTokens (h : ReadsTypes (.level n) bound) {as : List TypeArg}
    (has : areArgs as = true) (hlength : (restTokens as).length < bound) (rest : List Token) :
    Reads (many (do sign ","; typeArg (.level n))) (restTokens as ++ .sign "" ">" :: rest) as
      (.sign "" ">" :: rest) := by
  induction as with
  | nil => exact (refuses_sign (by simp [restTokens])).bind.many
  | cons a as ih =>
    rw [areArgs, Bool.and_eq_true] at has
    rw [restTokens, List.length_cons, List.length_append] at hlength
    have hlt : (argTokens " " a).length < bound := by omega
    have harg := reads_typeArg h has.1 hlt (endsArg_restTokens as rest)
    rw [restTokens, List.cons_append, List.append_assoc]
    refine ((reads_sign "" "," _).bind harg).many ?_ (ih has.2 (by omega))
    simp only [List.length_append, List.length_cons]
    omega

lemma refuses_typeArgs (g : Grammar) (h : EndsName ts) : Refuses (typeArgs g) ts :=
  refuses_listed (not_begins_of_subset h (by decide))

/-- Type arguments are read if there are any. -/
lemma reads_maybe_typeArgs (h : ReadsTypes (.level n) bound) {args : List TypeArg}
    (hargs : areArgs args = true) (hlength : (argsTokens args).length < bound)
    (hrest : EndsName rest) :
    ∃ read, Reads (maybe (typeArgs (.level n))) (argsTokens args ++ rest) read rest ∧
      read.getD [] = args := by
  cases args with
  | nil => exact ⟨none, (refuses_typeArgs _ hrest).maybe, rfl⟩
  | cons a as =>
    rw [areArgs, Bool.and_eq_true] at hargs
    simp only [argsTokens, List.length_cons, List.length_append] at hlength
    have hlt : (argTokens "" a).length < bound := by omega
    have harg := reads_typeArg h hargs.1 hlt (endsArg_restTokens as rest)
    have hmore := reads_restTokens h hargs.2 (by omega) rest
    refine ⟨some (a :: as), ?_, rfl⟩
    simp only [argsTokens, List.cons_append, List.append_assoc, List.nil_append]
    exact (harg.separated hmore).listed.maybe

/-! ### Class types -/

/-- A segment of a class type after the first, with the text up to it and its type arguments. -/
def segment (g : Grammar) (start : Input) : Parser (String × Option (List TypeArg)) := do
  sign "."
  let _ ← many g.annotationUse
  let _ ← wordExcept typelessWords
  let text ← textSince start
  return (text, ← maybe (typeArgs g))

lemma refuses_segment (g : Grammar) (start : Input) (h : EndsName ts) :
    Refuses (segment g start) ts :=
  (refuses_sign (not_begins_of_subset h (by decide))).bind

lemma not_mem_of_isIdentifier {s : String} (h : isIdentifier s = true) {words : List String}
    (hwords : ∀ w ∈ words, isIdentifier w = false) : s ∉ words := by
  intro hmem
  simp [hwords s hmem] at h

lemma isIdentifier_of_mem_typelessWords : ∀ w ∈ typelessWords, isIdentifier w = false := by decide

/-- One more segment is read: the text up to it, and what follows it as type arguments. -/
lemma reads_segment {s : String} (hs : isIdentifier s = true) (read : List Token)
    {args : Option (List TypeArg)} (hargs : Reads (maybe (typeArgs (.level n))) ts args rest) :
    Reads (segment (.level n) (.ofList (read ++ .sign "" "." :: .word "" s :: ts)))
      (.sign "" "." :: .word "" s :: ts)
      (Token.textOf (read ++ [.sign "" ".", .word "" s]), args) rest := by
  have hword := not_mem_of_isIdentifier hs isIdentifier_of_mem_typelessWords
  have htext := reads_textSince (read ++ [.sign "" ".", .word "" s]) ts
  rw [List.append_assoc] at htext
  exact (reads_sign "" "." _).bind ((refuses_annotationUse n (by simp)).many.bind
    ((reads_wordWith (by simpa using hword) "" ts).bind (htext.bind (hargs.bind (reads_pure _ _)))))

/-- The last of the segments has the whole name, and what follows the name as type arguments. -/
lemma reads_many_segment {mid : List Token} {args : Option (List TypeArg)}
    (hargs : Reads (maybe (typeArgs (.level n))) (mid ++ rest) args rest) (hrest : EndsName rest)
    {s : String} {segments : List String} (hall : ∀ x ∈ s :: segments, isIdentifier x = true)
    (read : List Token) :
    ∃ more, more.getLast? = some (Token.textOf (read ++ dotted (s :: segments)), args) ∧
      Reads
        (many (segment (.level n) (.ofList (read ++ (dotted (s :: segments) ++ (mid ++ rest))))))
        (dotted (s :: segments) ++ (mid ++ rest)) more rest := by
  -- the text is always taken from the start, so the tokens read before the segment grow
  induction segments generalizing s read with
  | nil =>
    have hstep := reads_segment (hall s List.mem_cons_self) read hargs
    exact ⟨_, rfl, hstep.many (by simp; omega) (refuses_segment _ _ hrest).many⟩
  | cons t segments ih =>
    obtain ⟨hs, hmore⟩ := List.forall_mem_cons.mp hall
    obtain ⟨more, hlast, hreads⟩ := ih hmore (read ++ [.sign "" ".", .word "" s])
    have hnone : Refuses (typeArgs (.level n)) (dotted (t :: segments) ++ (mid ++ rest)) :=
      refuses_listed (by simp)
    have hstep := reads_segment hs read hnone.maybe
    rw [List.append_assoc] at hreads hlast
    exact ⟨_, by simp [List.getLast?_cons, hlast], hstep.many (by simp) hreads⟩

lemma textOf_name (gap s : String) (segments : List String) :
    Token.textOf (.word gap s :: dotted segments) = ".".intercalate (s :: segments) := by
  induction segments generalizing gap s with
  | nil => exact String.append_empty
  | cons t segments ih =>
    rw [String.intercalate_cons_cons, ← ih "" t, String.append_assoc]
    simp [Token.textOf, dotted, Token.word, Token.sign]

/-- A dotted name has only letters, digits and dots. -/
lemma isLetterOrDigit_of_mem_join {s : String} {segments : List String}
    (hall : ∀ x ∈ s :: segments, isIdentifier x = true) {c : Char}
    (hc : c ∈ (".".intercalate (s :: segments)).toList) : isLetterOrDigit c = true ∨ c = '.' := by
  rcases mem_toList_intercalate hc with hdot | ⟨x, hx, hmem⟩
  · exact Or.inr (List.mem_singleton.mp hdot)
  · left
    obtain ⟨d, ds, htext, -, hparts⟩ :=
      exists_of_isPlainWord (isPlainWord_of_isIdentifier (hall x hx))
    exact hparts c (htext ▸ hmem)

/-- A dotted name has nothing to leave out. -/
lemma stripGenerics_compact_join {s : String} {segments : List String}
    (hall : ∀ x ∈ s :: segments, isIdentifier x = true) :
    stripGenerics (compact (".".intercalate (s :: segments))) =
      ".".intercalate (s :: segments) := by
  have hchar {c : Char} (hc : c ∈ (".".intercalate (s :: segments)).toList) :=
    isLetterOrDigit_of_mem_join hall hc
  have hcompact : compact (".".intercalate (s :: segments)) = ".".intercalate (s :: segments) := by
    rw [compact, List.filter_eq_self.mpr, String.ofList_toList]
    intro c hc
    rcases hchar hc with hpart | rfl
    · rw [isBlank_of_isLetterOrDigit hpart, Bool.not_false]
    · rfl
  have hbracket {d : Char} (hd : ¬(isLetterOrDigit d = true ∨ d = '.')) :
      d ∉ (".".intercalate (s :: segments)).toList := fun hmem => hd (hchar hmem)
  rw [hcompact, stripGenerics_of_not_mem (hbracket (by decide)) (hbracket (by decide))]

lemma reads_classType (h : ReadsTypes (.level n) bound) {name : String} {args : List TypeArg}
    (hname : isDottedName name = true) (hargs : areArgs args = true)
    (hlength : (argsTokens args).length < bound) {reserved : List String}
    (hreserved : ∀ w ∈ reserved, isIdentifier w = false) (hrest : EndsName rest) :
    Reads (classType (.level n) reserved) ((WrittenType.named name args).tokens gap ++ rest)
      (.named name args) rest := by
  obtain ⟨s, segments, hall, rfl, htokens⟩ := exists_segments hname
  obtain ⟨read, hread, hgiven⟩ := reads_maybe_typeArgs h hargs hlength hrest
  have hword : s ∉ reserved := not_mem_of_isIdentifier (hall s List.mem_cons_self) hreserved
  have hvalue : WrittenType.named (stripGenerics (compact
      (Token.textOf (.word gap s :: dotted segments)))) (read.getD []) =
      .named (".".intercalate (s :: segments)) args := by
    rw [textOf_name, stripGenerics_compact_join hall, hgiven]
  rw [tokens, htokens, List.append_assoc, ← hvalue]
  cases segments with
  | nil =>
    exact (reads_here _).bind ((reads_wordWith (by simpa using hword) gap _).bind
      ((reads_textSince [.word gap s] _).bind (hread.bind
        ((refuses_segment _ _ hrest).many.bind (reads_pure _ _)))))
  | cons t segments =>
    obtain ⟨more, hlast, hreads⟩ :=
      reads_many_segment hread hrest (List.forall_mem_cons.mp hall).2 [.word gap s]
    have hnone : Refuses (typeArgs (.level n))
        (dotted (t :: segments) ++ (argsTokens args ++ rest)) := refuses_listed (by simp)
    refine (reads_here _).bind ((reads_wordWith (by simpa using hword) gap _).bind
      ((reads_textSince [.word gap s] _).bind (hnone.maybe.bind (hreads.bind ?_))))
    -- only the last segment gives the name and the arguments
    rw [hlast]
    exact reads_pure _ _

lemma reads_simpleType_named (h : ReadsTypes (.level n) bound) {name : String} {args : List TypeArg}
    (hname : isDottedName name = true) (hargs : areArgs args = true)
    (hlength : (argsTokens args).length < bound) {reserved : List String}
    (hreserved : ∀ w ∈ reserved, isIdentifier w = false) (hrest : EndsName rest) :
    Reads (simpleType (.level n) reserved) ((WrittenType.named name args).tokens gap ++ rest)
      (.named name args) rest := by
  obtain ⟨s, segments, hall, -, htokens⟩ := exists_segments hname
  have hfirst : ∀ words : List String, (∀ w ∈ words, isIdentifier w = false) →
      ¬Begins (·.IsWord words) ((WrittenType.named name args).tokens gap ++ rest) := by
    intro words hwords
    simpa [tokens, htokens] using not_mem_of_isIdentifier (hall s List.mem_cons_self) hwords
  exact (refuses_wordAmong (hfirst _ (by decide))).bind.orElse
    ((refuses_keyword (hfirst _ (by decide))).bind.orElse
      (reads_classType h hname hargs hlength hreserved hrest))

lemma reads_simpleType (h : ReadsTypes (.level n) bound) {t : WrittenType}
    (ht : t.isWritten = true) (hplain : t.isArray = false)
    (hlength : (t.tokens gap).length ≤ bound) {reserved : List String}
    (hreserved : ∀ w ∈ reserved, isIdentifier w = false) (hrest : EndsName rest) :
    Reads (simpleType (.level n) reserved) (t.tokens gap ++ rest) t rest := by
  cases t with
  | primitive name =>
    have hname : name ∈ primitiveNames := by simpa [isWritten, isValue] using ht
    refine Reads.orElse ?_
    exact (reads_wordWith (by simpa using hname) gap rest).bind (reads_pure _ _)
  | void =>
    have hword : Refuses (wordAmong primitiveNames) (.word gap "void" :: rest) :=
      refuses_wordAmong (by simp [primitiveNames])
    refine hword.bind.orElse (Reads.orElse ?_)
    exact (reads_keyword gap "void" rest).bind (reads_pure _ _)
  | named name args =>
    simp only [isWritten, isValue, Bool.and_eq_true] at ht
    obtain ⟨s, segments, -, -, htokens⟩ := exists_segments ht.1
    have hlt : (argsTokens args).length < bound := by
      rw [tokens, htokens, List.length_append, List.length_cons] at hlength
      omega
    exact reads_simpleType_named h ht.1 ht.2 hlt hreserved hrest
  | array t dims => cases hplain

/-! ### Arrays -/

/-- A pair of square brackets, possibly with annotations before it. -/
def bracketPair (g : Grammar) : Parser Unit := do
  let _ ← many g.annotationUse
  sign "["
  sign "]"

lemma reads_bracketPair (n : Nat) (ts : List Token) :
    Reads (bracketPair (.level n)) (.sign "" "[" :: .sign "" "]" :: ts) () ts :=
  (refuses_annotationUse n (by simp)).many.bind
    ((reads_sign "" "[" _).bind (reads_sign "" "]" ts))

lemma refuses_bracketPair (n : Nat) (h : EndsType ts) : Refuses (bracketPair (.level n)) ts :=
  (refuses_annotationUse n (not_begins_of_subset h (by decide))).many.bind_refuses
    (refuses_sign (not_begins_of_subset h (by decide))).bind

lemma reads_many_bracketPair (n : Nat) (hrest : EndsType rest) (dims : Nat) :
    Reads (many (bracketPair (.level n))) (bracketTokens dims ++ rest) (List.replicate dims ())
      rest := by
  induction dims with
  | zero => exact (refuses_bracketPair n hrest).many
  | succ dims ih =>
    refine (reads_bracketPair n _).many ?_ ih
    simp only [List.length_cons]
    omega

lemma textOf_bracketTokens (dims : Nat) : Token.textOf (bracketTokens dims) = brackets dims := by
  have hconcat : ∀ k,
      String.join ((bracketTokens k).map fun u => u.gap ++ u.text) = brackets k := by
    intro k
    induction k with
    | zero => rfl
    | succ k ih =>
      rw [brackets, ← ih]
      simp [bracketTokens, Token.sign, ← String.append_assoc]
  cases dims with
  | zero => rfl
  | succ dims =>
    rw [← hconcat]
    simp [bracketTokens, Token.textOf, Token.sign]

lemma count_brackets (dims : Nat) : (brackets dims).toList.count '[' = dims := by
  induction dims with
  | zero => rfl
  | succ dims ih =>
    rw [brackets, String.toList_append, List.count_append, ih, Nat.add_comm]
    rfl

lemma reads_dims (n : Nat) (hrest : EndsType rest) (dims : Nat) :
    Reads (Rule.dims (.level n)) (bracketTokens (dims + 1) ++ rest) (dims + 1) rest := by
  have htext := reads_textSince (bracketTokens (dims + 1)) rest
  have hcount : (Token.textOf (bracketTokens (dims + 1))).toList.count '[' = dims + 1 := by
    rw [textOf_bracketTokens, count_brackets]
  have hvalue : Reads
      (Parser.pure ((Token.textOf (bracketTokens (dims + 1))).toList.count '[')) rest (dims + 1)
      rest := by
    rw [hcount]
    exact reads_pure _ _
  exact (reads_here _).bind ((reads_bracketPair n _).bind
    ((reads_many_bracketPair n hrest dims).bind (htext.bind hvalue)))

lemma refuses_dims (n : Nat) (h : EndsType ts) : Refuses (dims (.level n)) ts :=
  (reads_here ts).bind_refuses (refuses_bracketPair n h).bind

/-! ### Types -/

lemma reads_wrapped (h : ReadsTypes (.level n) bound) {t : WrittenType} (ht : t.isWritten = true)
    (hlength : (t.tokens gap).length ≤ bound) {reserved : List String}
    (hreserved : ∀ w ∈ reserved, isIdentifier w = false) (hrest : EndsType rest) :
    Reads (do let t ← simpleType (.level n) reserved; return wrapped t (← maybe (dims (.level n))))
      (t.tokens gap ++ rest) t rest := by
  cases harray : t.isArray with
  | false =>
    exact (reads_simpleType h ht harray hlength hreserved hrest.endsName).bind
      ((refuses_dims n hrest).maybe.bind (reads_pure _ _))
  | true =>
    obtain ⟨t, dims, rfl⟩ : ∃ t' dims, t = .array t' dims := by
      cases t with
      | array t dims => exact ⟨t, dims, rfl⟩
      | _ => cases harray
    obtain ⟨hplain, hdims, hvalue⟩ := isValue_array ht
    obtain ⟨k, rfl⟩ : ∃ k, dims = k + 1 := ⟨dims - 1, by omega⟩
    rw [tokens, List.length_append] at hlength
    rw [tokens, List.append_assoc]
    exact (reads_simpleType h (isWritten_of_isValue hvalue) hplain (by omega) hreserved
      (by simp [EndsName, bracketTokens])).bind
        ((reads_dims n hrest k).maybe.bind (reads_pure _ _))

/-- Types of so many tokens are read at every level above their number. -/
lemma readsTypes_level (n : Nat) : ReadsTypes (.level n) n := by
  -- a type argument has fewer tokens than its type and is read one level further down
  induction n with
  | zero =>
    intro t gap rest _ hlength _
    exact absurd hlength (Nat.not_lt_zero _)
  | succ n ih =>
    intro t gap rest ht hlength hrest
    exact reads_wrapped ih (isWritten_of_isValue ht) (by omega) isIdentifier_of_mem_typelessWords
      hrest

lemma reads_memberType {t : WrittenType} (ht : t.isWritten = true)
    (hlength : (t.tokens gap).length ≤ n) (hrest : EndsType rest) :
    Reads (memberType (.level n)) (t.tokens gap ++ rest) t rest :=
  reads_wrapped (readsTypes_level n) ht hlength (by simp) hrest

end Rule

end Cartograph.Java
