import Cartograph.Proofs.Java.ReadTypes

/-!
# A class with one method

The source text of a class with one method is read as that class, whatever type the method gives a
value of, and whether its head is followed by a semicolon or by a block. The facts of the block are
the body of the method.
-/

namespace Cartograph.Java

open Java.Parser Text WrittenType

/-- A method without modifiers and parameters on the first line. -/
def methodWith (name : String) (returns : WrittenType) (body : Body) : Method where
  name
  modifiers := {}
  annotations := []
  typeParams := []
  returns
  params := []
  throws := []
  body
  line := 1

def classWith (m : Method) : Decl where
  name := "A"
  kind := .classType
  methods := [m]
  line := 1

/-- The tokens of the head of a method, and what follows it. -/
def methodTokens (gap : String) (t : WrittenType) (name : String) (rest : List Token) :
    List Token :=
  t.tokens gap ++ .word " " name :: .sign "" "(" :: .sign "" ")" :: rest

/-- The tokens of the class, up to the end of the head of its method. -/
def classTokensWith (t : WrittenType) (name : String) (rest : List Token) : List Token :=
  .word "" "class" :: .word " " "A" :: .sign " " "\x7b" :: methodTokens " " t name rest

/-- The text from the name of the method on is cut into tokens, and so is the text of the class. -/
lemma lexes_classTokensWith {t : WrittenType} (ht : t.isWritten = true) {name : String}
    {cs : List Char} {rest : List Token} (hends : EndsWord cs)
    (hlexes : Lexes cs (.word " " name :: .sign "" "(" :: .sign "" ")" :: rest)) :
    Lexes ("class A \x7b ".toList ++ (t.render.toList ++ cs)) (classTokensWith t name rest) := by
  have htype : Lexes (" ".toList ++ (t.render.toList ++ cs)) (methodTokens " " t name rest) := by
    cases t with
    | void => exact hlexes.word isSpace_blank (w := "void") rfl hends
    | _ => exact lexes_render _ ht isSpace_blank hends hlexes
  have hbrace := htype.loneSign isSpace_blank (s := "\x7b") rfl (by decide)
  have hname := hbrace.word isSpace_blank (w := "A") rfl (endsWord_cons.mpr rfl)
  exact hname.word isSpace_empty (w := "class") rfl (endsWord_cons.mpr rfl)

namespace Rule

variable {n : Nat} {ts us rest : List Token} {gap : String}

/-! ### Rules that do not apply -/

/-- The first half of a hyphenated modifier, with the hyphen after it, does not begin the tokens. -/
def NotHyphenated (ts : List Token) : Prop :=
  ∀ t us, ts = t :: us → t.IsWord ["non"] → ¬Begins (·.IsSign ["-"]) us

lemma notHyphenated_cons {t : Token} (h : ¬t.IsWord ["non"]) (us : List Token) :
    NotHyphenated (t :: us) := by
  rintro _ _ heq hnon
  obtain ⟨rfl, rfl⟩ := List.cons.inj heq
  exact absurd hnon h

lemma refuses_modifierWord
    (hword : ¬Begins (·.IsWord (["sealed", "default", "synchronized"] ++ modifierWords)) ts)
    (hhyphen : NotHyphenated ts) : Refuses modifierWord ts := by
  have hplain : Refuses (wordAmong modifierWords) ts :=
    refuses_wordAmong (not_begins_of_subset hword (by decide))
  have hbefore : Refuses (wordAmong ["sealed", "default", "synchronized"]) ts :=
    refuses_wordAmong (not_begins_of_subset hword (by decide))
  refine hplain.orElse_refuses (hbefore.bind.orElse_refuses ?_)
  cases ts with
  | nil => exact (refuses_keyword not_begins_nil).bind
  | cons t us =>
    by_cases hnon : t.IsWord ["non"]
    · have hread : Reads (keyword "non") (t :: us) () us :=
        (reads_token (by simpa [Token.IsWord, Token.Is] using hnon) us).bind (reads_pure _ _)
      exact hread.bind_refuses (refuses_adjacent (hhyphen t us rfl hnon)).bind
    · exact (refuses_keyword (by simpa using hnon)).bind

lemma reads_modifiers (n : Nat)
    (hword : ¬Begins (·.IsWord (["sealed", "default", "synchronized"] ++ modifierWords)) ts)
    (hhyphen : NotHyphenated ts) (hat : ¬Begins (·.IsSign ["@"]) ts) :
    Reads (modifiers (.level n)) ts ({}, []) ts := by
  have hmodifier := refuses_modifierWord hword hhyphen
  exact (hmodifier.bind.orElse_refuses (refuses_annotationUse n hat).bind).many.bind
    (reads_pure _ _)

lemma refuses_declaration (n line : Nat) (mods : Modifiers) (annotations : List AnnotationUse)
    (hword : ¬Begins (·.IsWord ["class", "interface", "enum", "record"]) ts)
    (hat : ¬Begins (·.IsSign ["@"]) ts) :
    Refuses ((Grammar.level n).declaration line mods annotations) ts := by
  have hkeyword {w : String} (hw : w ∈ ["class", "interface", "enum", "record"]) :
      Refuses (keyword w) ts :=
    refuses_keyword (not_begins_of_subset hword (by simpa using hw))
  cases n with
  | zero => rfl
  | succ n =>
    exact (hkeyword (by decide)).bind.orElse_refuses ((hkeyword (by decide)).bind.orElse_refuses
      ((hkeyword (by decide)).bind.orElse_refuses ((hkeyword (by decide)).bind.orElse_refuses
        (refuses_sign hat).bind)))

/-- Where no word stands there is no type. -/
lemma refuses_simpleType (g : Grammar) (reserved : List String) (h : ¬Begins (·.kind = .word) ts) :
    Refuses (simpleType g reserved) ts := by
  have hword (words : List String) : ¬Begins (·.IsWord words) ts := by
    rintro ⟨t, ht, hkind, -⟩
    exact h ⟨t, ht, hkind⟩
  exact (refuses_wordAmong (hword _)).bind.orElse_refuses
    ((refuses_keyword (hword _)).bind.orElse_refuses
      ((reads_here ts).bind_refuses (refuses_wordExcept reserved h).bind))

lemma refuses_type (n : Nat) (h : ¬Begins (·.kind = .word) ts) :
    Refuses (Grammar.level n).type ts := by
  cases n with
  | zero => rfl
  | succ n => exact (refuses_simpleType _ _ h).bind

/-- Empty parentheses hold no receiver and no parameters. -/
lemma reads_params_nil (n : Nat) (ts : List Token) :
    Reads (params (.level n)) (.sign "" "(" :: .sign "" ")" :: ts) [] ts := by
  have hat : ¬Begins (·.IsSign ["@"]) (.sign "" ")" :: ts) := by simp
  have htype : Refuses (Grammar.level n).type (.sign "" ")" :: ts) := refuses_type n (by simp)
  have hreceiver : Refuses (receiver (.level n)) (.sign "" ")" :: ts) :=
    ((refuses_annotationUse n hat).many.bind_refuses htype).bind
  have hhyphen : NotHyphenated (.sign "" ")" :: ts) := notHyphenated_cons (by simp) ts
  have hparam : Refuses (param (.level n)) (.sign "" ")" :: ts) :=
    (reads_modifiers n (by simp) hhyphen hat).bind_refuses htype.bind
  have hnone : Refuses (separated (param (.level n)) ",") (.sign "" ")" :: ts) := hparam.bind
  refine (reads_sign "" "(" _).bind (hreceiver.bind.orElse ?_)
  exact hnone.maybe.bind ((reads_sign "" ")" ts).bind (reads_pure _ _))

/-! ### A method -/

section

variable {t : WrittenType} {name : String} {facts : List Fact}

/-- Of the signs, only a dot or an opening bracket can follow the first word of a type. -/
lemma not_begins_second (ht : t.isWritten = true) {signs : List String}
    (hsigns : ∀ s ∈ signs, s ∉ [".", "<", "["]) {u : Token}
    (h : methodTokens gap t name rest = u :: us) : ¬Begins (·.IsSign signs) us := by
  obtain ⟨w, ts, htokens, -, hmore⟩ := exists_tokens_eq ht gap
  rw [methodTokens, htokens, List.cons_append] at h
  obtain ⟨rfl, rfl⟩ := List.cons.inj h
  rcases hmore with rfl | ⟨v, hv, -, hvtext⟩
  · simp
  · rintro ⟨v', hv', -, htext⟩
    have hhead : v = v' := by
      rw [List.head?_append, Option.mem_def.mp hv] at hv'
      exact Option.mem_some_iff.mp hv'
    exact hsigns v'.text htext (hhead ▸ hvtext)

/-- A type is no name of a constructor, as no parameters and no body follow its first word. -/
lemma refuses_constructorName_bind (ht : t.isWritten = true) {α : Type} {f : String → Parser α}
    (hf : ∀ w us, ¬Begins (·.IsSign ["(", "\x7b"]) us → Refuses (f w) us) :
    Refuses (constructorName >>= f) (methodTokens gap t name rest) := by
  obtain ⟨w, ts, htokens, -, -⟩ := exists_tokens_eq ht gap
  obtain ⟨us, hcons⟩ : ∃ us, methodTokens gap t name rest = .word gap w :: us :=
    ⟨_, by rw [methodTokens, htokens, List.cons_append]⟩
  have hsecond := hf w _ (not_begins_second ht (by decide) hcons)
  rw [hcons]
  by_cases hw : w ∈ "void" :: primitiveNames
  · exact (refuses_wordExcept_of_mem (by simpa using hw)).bind
  · have hname : Reads (wordExcept ("void" :: primitiveNames)) (.word gap w :: us) w us :=
      reads_wordWith (by simpa using hw) gap us
    exact hname.bind_refuses hsecond

lemma refuses_constructorHead (ht : t.isWritten = true) (n : Nat) :
    Refuses (constructorHead (.level n)) (methodTokens gap t name rest) := by
  have hparams : Refuses (typeParams (.level n)) (methodTokens gap t name rest) :=
    (refuses_sign (not_begins_isSign ht _ gap _)).bind
  refine hparams.maybe.bind_refuses (refuses_constructorName_bind ht ?_)
  intro w us hus
  exact (refuses_sign (not_begins_of_subset hus (by decide))).bind.bind

lemma refuses_compactHead (ht : t.isWritten = true) :
    Refuses compactHead (methodTokens gap t name rest) := by
  refine refuses_constructorName_bind ht ?_
  intro w us hus
  exact (refuses_sign (not_begins_of_subset hus (by decide))).ahead.bind

/-- The tokens may follow the parameters of a method that declares no exceptions. -/
def EndsHead (ts : List Token) : Prop := EndsType ts ∧ ¬Begins (·.IsWord ["throws"]) ts

lemma reads_methodHead (ht : t.isWritten = true) (hlength : (t.tokens gap).length ≤ n)
    (hrest : EndsHead rest) :
    Reads (methodHead (.level n) (memberType (.level n))) (methodTokens gap t name rest)
      (.method [] t name [] []) rest := by
  have hparams : Refuses (typeParams (.level n)) (methodTokens gap t name rest) :=
    (refuses_sign (not_begins_isSign ht _ gap _)).bind
  have htype := reads_memberType ht hlength
    (show EndsType (.word " " name :: .sign "" "(" :: .sign "" ")" :: rest) by simp [EndsType])
  have hthrows : Reads (throwsClause (.level n)) rest [] rest :=
    (refuses_keyword hrest.2).bind.maybe.bind (reads_pure _ _)
  exact hparams.bind.maybe.bind (htype.bind ((reads_anyWord " " name _).bind
    ((reads_params_nil n _).bind ((refuses_dims n hrest.1).maybe.bind
      (hthrows.bind (reads_pure _ _))))))

/-- The head of a member of a class. -/
def memberHead (g : Grammar) : Parser MemberHead :=
  constructorHead g <|> compactHead <|> methodHead g (memberType g) <|> fieldHead g

lemma refuses_initializer (n : Nat) (hstatic : ¬Begins (·.IsWord ["static"]) ts)
    (hbrace : ¬Begins (·.IsSign ["\x7b"]) ts) : Refuses (initializer (.level n)) ts := by
  have hblock : Refuses (block (.level n)) ts := (refuses_sign hbrace).bind
  exact ((refuses_keyword hstatic).maybe.bind_refuses hblock).listen.bind

/-- The facts of what follows the head of a method are its body. -/
lemma tells_classMember (ht : t.isWritten = true) (hlength : (t.tokens gap).length ≤ n)
    (hrest : EndsHead rest) (hend : Tells (sign ";" <|> block (.level n)) rest () facts us) :
    Tells (classMember (.level n)) (methodTokens gap t name rest)
      (.method (methodWith name t (Body.ofFacts facts))) facts us := by
  have hword {words : List String} (h : ∀ w ∈ words, leads w = false) :
      ¬Begins (·.IsWord words) (methodTokens gap t name rest) := not_begins_isWord ht h gap _
  have hsign (signs : List String) :
      ¬Begins (·.IsSign signs) (methodTokens gap t name rest) := not_begins_isSign ht signs gap _
  have hhyphen : NotHyphenated (methodTokens gap t name rest) :=
    fun u us h _ => not_begins_second ht (by decide) h
  have hline : Reads line (methodTokens gap t name rest) 1 (methodTokens gap t name rest) := by
    obtain ⟨w, ts, htokens, -, -⟩ := exists_tokens_eq ht gap
    rw [methodTokens, htokens]
    rfl
  have hhead : Reads (memberHead (.level n)) (methodTokens gap t name rest)
      (.method [] t name [] []) rest :=
    (refuses_constructorHead ht n).orElse ((refuses_compactHead ht).orElse
      (reads_methodHead ht hlength hrest).orElse)
  -- it is no initializer and no lone semicolon, has no modifiers, and is no nested type
  refine (refuses_initializer n (hword (by decide)) (hsign _)).orElse_tells
    ((refuses_sign (hsign _)).bind.orElse_tells (hline.bind_tells
      ((reads_modifiers n (hword (by decide)) hhyphen (hsign _)).bind_tells ?_)))
  refine Refuses.orElse_tells (refuses_declaration _ _ _ _ (hword (by decide)) (hsign _)).bind ?_
  exact (refuses_wordAmong (hword (by decide))).notAhead.bind_tells
    (hhead.bind_tells (hend.listen.bind_reads (reads_pure _ _)))

/-- The closing brace is no member. -/
lemma refuses_classMember (n : Nat) : Refuses (classMember (.level n)) [.sign " " "\x7d"] := by
  have hhyphen : NotHyphenated [.sign " " "\x7d"] := notHyphenated_cons (by simp) []
  have hparams : Refuses (typeParams (.level n)) [.sign " " "\x7d"] := (refuses_sign (by simp)).bind
  have hname : Refuses constructorName [.sign " " "\x7d"] := refuses_wordExcept _ (by simp)
  have htype : Refuses (memberType (.level n)) [.sign " " "\x7d"] :=
    (refuses_simpleType _ _ (by simp)).bind
  have hhead : Refuses (memberHead (.level n)) [.sign " " "\x7d"] :=
    (hparams.maybe.bind_refuses hname.bind).orElse_refuses (hname.bind.orElse_refuses
      ((hparams.bind.maybe.bind_refuses htype.bind).orElse_refuses htype.bind))
  refine (refuses_initializer n (by simp) (by simp)).orElse_refuses
    ((refuses_sign (by simp)).bind.orElse_refuses ((reads_line _ _).bind_refuses
      ((reads_modifiers n (by simp) hhyphen (by simp)).bind_refuses ?_)))
  refine (refuses_declaration _ _ _ _ (by simp) (by simp)).bind.orElse_refuses ?_
  exact (refuses_wordAmong (by simp)).notAhead.bind_refuses hhead.bind

/-! ### The class -/

/-- A class without type parameters and parents is read like its body. -/
lemma tells_declaration {members : List TypeMember}
    (h : Tells (classBody (.level n)) (.sign " " "\x7b" :: ts) members facts rest) (name : String)
    (line : Nat) :
    Tells (declaration (.level n) line {} [])
      (.word "" "class" :: .word " " name :: .sign " " "\x7b" :: ts)
      (withMembers { name, kind := .classType, line } members) facts rest := by
  have hparams : Refuses (typeParams (.level n)) (.sign " " "\x7b" :: ts) :=
    (refuses_sign (by simp)).bind
  have hword (w : String) : Refuses (keyword w) (.sign " " "\x7b" :: ts) :=
    refuses_keyword (by simp)
  have hnone (w : String) :
      Reads (typesIf (.level n) w) (.sign " " "\x7b" :: ts) [] (.sign " " "\x7b" :: ts) :=
    (hword w).bind.maybe.bind (reads_pure _ _)
  refine Tells.orElse ?_
  exact (reads_keyword "" "class" _).bind_tells ((reads_anyWord " " name _).bind_tells
    (hparams.maybe.bind_tells ((hword "extends").bind.maybe.bind_tells
      ((hnone "implements").bind_tells ((hnone "permits").bind_tells
        (h.bind_reads (reads_pure _ _)))))))

lemma tells_classBody (ht : t.isWritten = true) (hlength : (t.tokens gap).length ≤ n)
    (hrest : EndsHead rest)
    (hend : Tells (sign ";" <|> block (.level n)) rest () facts [.sign " " "\x7d"]) :
    Tells (classBody (.level n)) (.sign " " "\x7b" :: methodTokens gap t name rest)
      [.method (methodWith name t (Body.ofFacts facts))] facts [] := by
  have hmembers : Tells (many (classMember (.level n))) (methodTokens gap t name rest)
      [.method (methodWith name t (Body.ofFacts facts))] (facts ++ []) [.sign " " "\x7d"] := by
    refine (tells_classMember ht hlength hrest hend).many ?_ (refuses_classMember n).many
    simp only [methodTokens, List.length_append, List.length_cons, List.length_nil]
    omega
  rw [List.append_nil] at hmembers
  exact (reads_sign " " "\x7b" _).bind_tells
    (hmembers.bind_reads ((reads_sign " " "\x7d" []).bind (reads_pure _ _)))

lemma tells_sourceFile (ht : t.isWritten = true) (hlength : (t.tokens " ").length ≤ n)
    (hrest : EndsHead rest)
    (hend : Tells (sign ";" <|> block (.level n)) rest () facts [.sign " " "\x7d"]) :
    Tells (sourceFile (.level n)) (classTokensWith t name rest)
      [.type (classWith (methodWith name t (Body.ofFacts facts)))] facts [] := by
  have hword {words : List String} (h : "class" ∉ words) :
      ¬Begins (·.IsWord words) (classTokensWith t name rest) := by
    simpa [classTokensWith] using h
  have hat : ¬Begins (·.IsSign ["@"]) (classTokensWith t name rest) := by simp [classTokensWith]
  have hhyphen : NotHyphenated (classTokensWith t name rest) := notHyphenated_cons (by simp) _
  have hpackage : Refuses (packageDecl (.level n)) (classTokensWith t name rest) :=
    (refuses_annotationUse n hat).many.bind_refuses (refuses_keyword (hword (by decide))).bind
  have himport : Refuses importDecl (classTokensWith t name rest) :=
    (refuses_keyword (hword (by decide))).bind
  have hitem : Tells (topItem (.level n)) (classTokensWith t name rest)
      (.type (classWith (methodWith name t (Body.ofFacts facts)))) facts [] := by
    have hmodifiers := reads_modifiers n (hword (by decide)) hhyphen hat
    refine hpackage.bind.orElse_tells (himport.bind.orElse_tells (Tells.orElse ?_))
    exact (reads_line _ _).bind_tells (hmodifiers.bind_tells ((tells_declaration
      (tells_classBody ht hlength hrest hend) "A" 1).bind_reads (reads_pure _ _)))
  have hitems := hitem.many (by simp [classTokensWith]) (reads_many_nil _)
  rw [List.append_nil] at hitems
  exact hitems.bind_reads (reads_atEnd.bind (reads_pure _ _))

end

end Rule

/-- The text of a class is read as the class with the method that its text gives. -/
lemma parse?_eq_classWith {t : WrittenType} (ht : t.isWritten = true) {source name : String}
    {cs : List Char} {rest : List Token} {facts : List Fact}
    (hsource : source.toList = "class A \x7b ".toList ++ (t.render.toList ++ cs))
    (hends : EndsWord cs)
    (hlexes : Lexes cs (.word " " name :: .sign "" "(" :: .sign "" ")" :: rest))
    (hrest : Rule.EndsHead rest)
    (hend : ∀ n, Tells (sign ";" <|> Rule.block (.level (n + 4))) rest () facts
      [.sign " " "\x7d"]) (path : String) :
    SourceUnit.parse? path source =
      some { path, types := [classWith (methodWith name t (Body.ofFacts facts))] } := by
  have hstart : StartsWord source.toList := by
    rw [hsource]
    exact ⟨'c', rfl, by decide⟩
  have hclass : Lexes source.toList (classTokensWith t name rest) := by
    rw [hsource]
    exact lexes_classTokensWith ht hends hlexes
  have hlength : (t.tokens " ").length ≤ 2 * (classTokensWith t name rest).length + 4 := by
    simp only [classTokensWith, methodTokens, List.length_cons, List.length_append]
    omega
  have hread : Tells (Rule.sourceFile _) (classTokensWith t name rest) _ facts [] :=
    Rule.tells_sourceFile ht hlength hrest (hend _)
  simp only [SourceUnit.parse?, Token.ofSource?_eq_some hstart hclass, Option.bind_eq_bind,
    Option.bind_some, show Rule.sourceFile _ (.ofList (classTokensWith t name rest)) = _ from hread]
  rfl

end Cartograph.Java
