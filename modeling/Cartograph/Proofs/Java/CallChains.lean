import Cartograph.Proofs.Java.ReadCalls
import Cartograph.Proofs.Java.SyntaxTrees
import Mathlib.Data.List.Induction

/-!
# Chained calls

The calls of a method whose body calls methods one after the other, the first on a chain of names.
They are found with the last call first, each on the call before it with the source text up to
there, and nothing else is found: neither a field access on the way to the first call nor a local
variable. Reading the source text and walking over the syntax tree of the body give the same.
-/

namespace Cartograph.Java

open Java.Parser Text

/-! ### The calls of a chain -/

/-- The text of calls without arguments, each behind its dot. -/
def callsText (methods : List String) : String :=
  String.join (methods.map fun m => "." ++ m ++ "()")

/-- The text of a receiver and of calls on it, one after the other. -/
def chainText (receiver : Expr) (methods : List String) : String :=
  receiver.render ++ callsText methods

/-- What comes after the calls is on the last of them, or on the receiver if there are none. -/
def scopeAfter (receiver : Expr) (methods : List String) : Expr :=
  match methods.getLast? with
  | none => receiver
  | some m => .call m (chainText receiver methods)

/-- The calls in the order in which they are written. -/
def chainCalls (receiver : Expr) (methods : List String) : List Call :=
  methods.mapIdx fun i m => ⟨some (scopeAfter receiver (methods.take i)), m, []⟩

lemma chainText_concat (receiver : Expr) (methods : List String) (m : String) :
    chainText receiver (methods ++ [m]) = chainText receiver methods ++ "." ++ m ++ "()" := by
  simp [chainText, callsText, String.append_assoc]

lemma render_scopeAfter (receiver : Expr) (methods : List String) :
    (scopeAfter receiver methods).render = chainText receiver methods := by
  cases hlast : methods.getLast? with
  | none =>
    obtain rfl := List.getLast?_eq_none_iff.mp hlast
    exact String.append_empty.symm
  | some m => rw [scopeAfter, hlast, Expr.render]

lemma scopeAfter_concat (receiver : Expr) (methods : List String) (m : String) :
    scopeAfter receiver (methods ++ [m]) = .call m (chainText receiver (methods ++ [m])) := by
  rw [scopeAfter, List.getLast?_concat]

lemma chainCalls_concat (receiver : Expr) (methods : List String) (m : String) :
    chainCalls receiver (methods ++ [m]) =
      chainCalls receiver methods ++ [⟨some (scopeAfter receiver methods), m, []⟩] := by
  have hbefore : (methods.mapIdx fun i x =>
      (⟨some (scopeAfter receiver ((methods ++ [m]).take i)), x, []⟩ : Call)) =
        chainCalls receiver methods := by
    refine List.mapIdx_eq_mapIdx_iff.mpr fun i hi => ?_
    rw [List.take_append_of_le_length (Nat.le_of_lt hi)]
  rw [chainCalls, List.mapIdx_concat, hbefore, List.take_left]

namespace Rule

variable {n : Nat} {ts rest : List Token} {gap m s : String} {segments methods : List String}

lemma view_foldl_called (o : Operand) (methods : List String) :
    (methods.foldl Operand.called o).view = scopeAfter o.view methods := by
  induction methods using List.reverseRecOn with
  | nil => rfl
  | append_singleton methods m ih =>
    rw [List.foldl_concat, scopeAfter_concat, chainText_concat, ← render_scopeAfter, ← ih]
    rfl

lemma inner_foldl_called (o : Operand) (methods : List String) :
    (methods.foldl Operand.called o).inner =
      ((chainCalls o.view methods).map Fact.call).reverse ++ o.inner := by
  induction methods using List.reverseRecOn with
  | nil => rfl
  | append_singleton methods m ih =>
    rw [List.foldl_concat, chainCalls_concat]
    simp [Operand.called, Operand.call, view_foldl_called, ih]

lemma exists_foldl_called (o : Operand) (hne : methods ≠ []) :
    ∃ (o' : Operand) (m : String), methods.foldl Operand.called o = o'.called m := by
  rw [← List.dropLast_concat_getLast hne, List.foldl_concat]
  exact ⟨_, _, rfl⟩

/-- Of the facts of the operand none is an access once a method is called on it. -/
lemma facts_foldl_called {o : Operand} (hinner : o.inner = []) (hne : methods ≠ []) :
    (methods.foldl Operand.called o).facts =
      (chainCalls o.view methods).reverse.map Fact.call := by
  obtain ⟨o', m, hlast⟩ := exists_foldl_called o hne
  have haccess : (methods.foldl Operand.called o).access = [] := by
    rw [hlast]
    rfl
  rw [Operand.facts, haccess, List.nil_append, inner_foldl_called, hinner, List.append_nil,
    List.map_reverse]

/-- Nothing can be assigned to the operand once a method is called on it. -/
lemma isTarget_foldl_called (o : Operand) (hne : methods ≠ []) :
    (methods.foldl Operand.called o).isTarget = false := by
  obtain ⟨o', m, hlast⟩ := exists_foldl_called o hne
  rw [hlast]
  rfl

/-- The facts of calls on a chain of names, as they are found. -/
def chainFacts (rooted : Bool) (segments methods : List String) : List Fact :=
  (chainCalls (.selector rooted segments) methods).reverse.map Fact.call

end Rule

/-! ### The syntax tree -/

namespace SyntaxNode

def select (n : SyntaxNode) (name : String) : SyntaxNode := n.fieldOf name (n.source ++ "." ++ name)

/-- A call without arguments behind a dot after the node. -/
def called (n : SyntaxNode) (m : String) : SyntaxNode :=
  .callOn (some n) m (n.source ++ "." ++ m ++ "()") (.group "()" [])

/-- The tree of a chain of names, which begins at `this` if it is rooted there. -/
def ofChain : Bool → List String → SyntaxNode
  | false, s :: segments => segments.foldl select (.ofName s)
  | _, segments => segments.foldl select (.node .this "this" [])

/-- A block with the node as its one statement. -/
def inBlock (n : SyntaxNode) : SyntaxNode :=
  .group ("\x7b " ++ n.source ++ "; \x7d") [.group (n.source ++ ";") [n]]

end SyntaxNode

section

variable {reader : TypeReader} {o : Rule.Operand} {n : SyntaxNode} {rooted : Bool}

lemma render_selector_concat (rooted : Bool) {names : List String} (hne : names ≠ [])
    (s : String) : (Expr.selector rooted (names ++ [s])).render =
      (Expr.selector rooted names).render ++ "." ++ s := by
  have hjoin : ".".intercalate (names ++ [s]) = ".".intercalate names ++ "." ++ s := by
    rw [String.intercalate_append_of_ne_nil hne (List.cons_ne_nil _ _),
      String.intercalate_singleton]
  cases rooted with
  | false => exact hjoin
  | true => simp only [Expr.render, if_true, hjoin, String.append_assoc]

/-- The operand is a chain of names without facts of its own inside, and the node is its tree. -/
structure StandsForChain (reader : TypeReader) (rooted : Bool) (names : List String)
    (o : Rule.Operand) (n : SyntaxNode) : Prop extends StandsFor reader o n where
  chain : o.view = .selector rooted names
  inner : o.inner = []
  source : n.source = o.view.render

lemma StandsForChain.foldl_select {names : List String} (h : StandsForChain reader rooted names o n)
    (hne : names ≠ []) (segments : List String) :
    ∃ o', StandsForChain reader rooted (names ++ segments) o'
      (segments.foldl SyntaxNode.select n) := by
  induction segments generalizing o n names with
  | nil => exact ⟨o, by rwa [List.append_nil]⟩
  | cons s segments ih =>
    have hnext : StandsForChain reader rooted (names ++ [s])
        (o.field s (n.source ++ "." ++ s)) (n.select s) := by
      have hview : (o.field s (n.source ++ "." ++ s)).view = .selector rooted (names ++ [s]) := by
        simp only [Rule.Operand.field, h.chain]
      refine ⟨h.toStandsFor.field s _, hview, h.inner, ?_⟩
      rw [hview, render_selector_concat rooted hne, ← h.chain, ← h.source]
      rfl
    have hmore := ih hnext (by simp)
    rwa [List.append_assoc] at hmore

/-- Every chain of names has an operand that stands for its tree. -/
lemma exists_standsForChain (reader : TypeReader) (rooted : Bool) {segments : List String}
    (hne : segments ≠ []) :
    ∃ o, StandsForChain reader rooted segments o (.ofChain rooted segments) := by
  obtain ⟨s, segments, rfl⟩ := List.exists_cons_of_ne_nil hne
  cases rooted with
  | false =>
    have hname : StandsForChain reader false [s] { view := .name s, isTarget := true }
        (.ofName s) := by
      refine ⟨standsFor_name s, rfl, rfl, ?_⟩
      exact (show ".".intercalate [s] = s from String.intercalate_singleton).symm
    exact hname.foldl_select (List.cons_ne_nil _ _) segments
  | true =>
    have hfirst : StandsForChain reader true [s]
        (Rule.Operand.field { view := .this } s ("this." ++ s))
        ((SyntaxNode.node .this "this" []).select s) := by
      refine ⟨(standsFor_this "this").field s _, rfl, rfl, ?_⟩
      exact congrArg ("this." ++ ·) String.intercalate_singleton.symm
    exact hfirst.foldl_select (List.cons_ne_nil _ _) segments

/-- Calls one after the other stand for their tree if what they are called on does. -/
lemma StandsFor.foldl_called (h : StandsFor reader o n) (hsource : n.source = o.view.render)
    (methods : List String) :
    StandsFor reader (methods.foldl Rule.Operand.called o) (methods.foldl SyntaxNode.called n) ∧
      (methods.foldl SyntaxNode.called n).source =
        (methods.foldl Rule.Operand.called o).view.render := by
  induction methods generalizing o n with
  | nil => exact ⟨h, hsource⟩
  | cons m methods ih =>
    have hcalled : StandsFor reader (o.called m) (n.called m) := by
      rw [SyntaxNode.called, hsource]
      exact standsFor_call (.some h) .nil m _ "()"
    have hrender : (n.called m).source = (o.called m).view.render := by
      rw [SyntaxNode.called, hsource]
      rfl
    exact ih hcalled hrender

/-- The tree of calls on a chain of names, in the block that is the body of a method. -/
def SyntaxNode.ofCalls (rooted : Bool) (segments methods : List String) : SyntaxNode :=
  (methods.foldl called (.ofChain rooted segments)).inBlock

/-- From the body the walk finds the calls, and no access on the way to the first of them. -/
lemma collect_ofCalls (reader : TypeReader) (rooted : Bool) {segments methods : List String}
    (hsegments : segments ≠ []) (hmethods : methods ≠ []) :
    Occurrence.collect reader ⟨none, .ofCalls rooted segments methods⟩ =
      Rule.chainFacts rooted segments methods := by
  obtain ⟨o, hchain⟩ := exists_standsForChain reader rooted hsegments
  obtain ⟨hcalls, -⟩ := hchain.toStandsFor.foldl_called hchain.source methods
  have hstatement := standsFor_group (.cons hcalls .nil)
    ((methods.foldl SyntaxNode.called (.ofChain rooted segments)).source ++ ";")
  rw [SyntaxNode.ofCalls, SyntaxNode.inBlock, collect_group (.cons hstatement .nil),
    List.flatMap_singleton, Rule.Operand.facts, List.nil_append, List.flatMap_singleton,
    Rule.facts_foldl_called hchain.inner hmethods, hchain.chain]
  rfl

/-- The body is the tree of the text. -/
lemma source_ofCalls (rooted : Bool) {segments : List String} (hsegments : segments ≠ [])
    (methods : List String) :
    (SyntaxNode.ofCalls rooted segments methods).source =
      "\x7b " ++ chainText (.selector rooted segments) methods ++ "; \x7d" := by
  obtain ⟨o, hchain⟩ := exists_standsForChain ⟨fun _ => .void, fun _ => []⟩ rooted hsegments
  obtain ⟨-, hsource⟩ := hchain.toStandsFor.foldl_called hchain.source methods
  rw [SyntaxNode.ofCalls, SyntaxNode.inBlock, hsource, Rule.view_foldl_called, render_scopeAfter,
    hchain.chain]
  rfl

end

namespace Rule

variable {n : Nat} {ts rest : List Token} {gap m s : String} {segments methods : List String}

/-! ### The statement -/

lemma plain_receiver (hall : ∀ x ∈ s :: segments, isIdentifier x = true) (gap : String)
    (rooted : Bool) (m : String) (methods : List String) (rest : List Token) :
    Plain (receiverTokens gap rooted s segments ++ (callTokens (m :: methods) ++ rest)) := by
  cases rooted with
  | true => exact plain_dotted (by decide) gap _
  | false =>
    have hs := not_mem_openingWords (hall s List.mem_cons_self)
    cases segments with
    | nil => exact plain_dotted hs gap _
    | cons t segments => exact plain_dotted hs gap _

/-- Nothing can be assigned to the operand, and no operator follows it. -/
lemma tells_expression {o : Operand} (hplain : Plain ts)
    (hprimary : Reads (primary (.level n)) ts o (.sign gap ";" :: rest))
    (htarget : o.isTarget = false) :
    Tells (expression (.level n) true) ts o.view o.facts (.sign gap ";" :: rest) := by
  have hcheck : Refuses (check o.isTarget) (.sign gap ";" :: rest) := refuses_check htarget _
  have hcount : Refuses (oneOf ["++", "--"]) (.sign gap ";" :: rest) := refuses_oneOf (by simp)
  have hoperand : Tells (operand (.level n) true) ts o.view o.facts (.sign gap ";" :: rest) := by
    refine (operand_eq _ hplain).trans (hprimary.bind_tells ?_)
    exact (tells_tell o.facts _).bind_reads (hcheck.bind.bind.orElse (hcount.bind.bind.orElse
      (reads_pure _ _)))
  have hbinary : Refuses binary (.sign gap ";" :: rest) :=
    (refuses_oneOf (by simp)).orElse_refuses (refuses_sign (by simp)).bind
  have hmore : Refuses (continuation (.level n) true) (.sign gap ";" :: rest) :=
    hbinary.bind.orElse_refuses ((refuses_keyword (by simp)).bind.orElse_refuses
      (refuses_sign (by simp)).bind)
  exact (reads_here ts).bind_tells (hoperand.bind_reads (hmore.many.bind (reads_pure _ _)))

/-- What is left of the rules for statements where no word or sign of its own stands. -/
def openStatement (g : Grammar) : Parser Unit :=
  localVariables g
  <|> (do let _ ← wordExcept expressionWords; sign ":"; g.statement)
  <|> (do let _ ← expression g true; sign ";")

lemma refuses_wordStatement (g : Grammar) (h : Plain ts) : Refuses (wordStatement g) ts := by
  have hword {w : String} (hw : w ∈ openingWords) {α : Type} {f : Unit → Parser α} :
      Refuses (keyword w >>= f) ts := (h.keyword hw).bind
  have hbreak : Refuses (wordAmong ["break", "continue"]) ts := h.wordAmong (by decide)
  refine (hword (by decide)).orElse_refuses ((hword (by decide)).orElse_refuses
    ((hword (by decide)).orElse_refuses ((hword (by decide)).orElse_refuses
      ((hword (by decide)).orElse_refuses ((hword (by decide)).orElse_refuses ?_)))))
  exact (hword (by decide)).orElse_refuses (hbreak.bind.orElse_refuses
    ((hword (by decide)).orElse_refuses ((hword (by decide)).orElse_refuses
      ((hword (by decide)).orElse_refuses (hword (by decide))))))

lemma statement_eq (n : Nat) (h : Plain ts) :
    statement (.level n) (.ofList ts) = openStatement (.level n) (.ofList ts) := by
  have hblock : Refuses (block (.level n)) ts := (h.sign (by decide)).bind
  have himport : Refuses importDecl ts := (h.keyword (by decide)).bind
  have hat : ¬Begins (·.IsSign ["@"]) ts := not_begins_of_subset h.signs (by decide)
  have hannotation := (refuses_annotationUse n hat).many
  have hpackage : Refuses (packageDecl (.level n)) ts :=
    hannotation.bind_refuses (h.keyword (by decide)).bind
  have hmodule : Refuses (moduleDecl (.level n)) ts := hannotation.bind_refuses
    ((h.keyword (by decide)).maybe.bind_refuses (h.keyword (by decide)).bind)
  have hlocal : Refuses (localType (.level n)) ts := by
    refine Reads.bind_refuses (show Reads line ts _ ts from rfl)
      ((h.reads_modifiers n).bind_refuses ?_)
    exact (refuses_declaration _ _ _ _ (not_begins_of_subset h.words (by decide)) hat).bind
  have hahead : Refuses (wordAmong ("case" :: "default" :: statementWords)) ts :=
    h.wordAmong (by decide)
  exact (h.sign (by decide)).orElse_eq.trans (hblock.orElse_eq.trans
    ((refuses_wordStatement _ h).orElse_eq.trans (himport.bind.orElse_eq.trans
      (hpackage.bind.orElse_eq.trans (hlocal.orElse_eq.trans (hmodule.orElse_eq.trans
        hahead.notAhead.bind_eq))))))

/-- The receiver and the name of the first call may be a type, but no variable follows them. -/
lemma refuses_localVariables (hall : ∀ x ∈ s :: segments, isIdentifier x = true)
    (hm : isIdentifier m = true) (rooted : Bool) (methods : List String) (rest : List Token) :
    Refuses (localVariables (.level (n + 1)))
      (receiverTokens gap rooted s segments ++ (callTokens (m :: methods) ++ rest)) := by
  have hplain := plain_receiver hall gap rooted m methods rest
  have hmodifiers := hplain.reads_modifiers (n + 1)
  refine (hmodifiers.bind_refuses ?_).held.bind
  cases rooted with
  | true =>
    have hclass : Refuses (wordExcept typelessWords)
        (receiverTokens gap true s segments ++ (callTokens (m :: methods) ++ rest)) :=
      refuses_wordExcept_of_mem (by simp [receiverTokens_true, typelessWords, expressionWords])
    have hprimitive : Refuses (wordAmong primitiveNames)
        (receiverTokens gap true s segments ++ (callTokens (m :: methods) ++ rest)) :=
      refuses_wordAmong (by simp [receiverTokens_true, primitiveNames])
    have hvoid : Refuses (keyword "void")
        (receiverTokens gap true s segments ++ (callTokens (m :: methods) ++ rest)) :=
      refuses_keyword (by simp [receiverTokens_true])
    exact (hprimitive.bind.orElse_refuses (hvoid.bind.orElse_refuses
      ((reads_here _).bind_refuses hclass.bind))).bind.bind
  | false =>
    have hnames : ∀ x ∈ s :: (segments ++ [m]), isIdentifier x = true :=
      List.forall_mem_append.mpr ⟨hall, by simpa using hm⟩
    have hvariable : Refuses (separated (declarator (.level (n + 1))) ",")
        (.sign "" "(" :: .sign "" ")" :: (callTokens methods ++ rest)) :=
      (refuses_wordExcept _ (by simp)).bind.bind
    rw [receiverTokens_false, List.cons_append, dotted_append_callTokens]
    exact (reads_type_name hnames (by simp [EndsType])).bind_refuses hvariable.bind

/-- The statement is read as an expression, with its calls as the facts. -/
lemma tells_statement (hall : ∀ x ∈ s :: segments, isIdentifier x = true)
    (hmethods : ∀ x ∈ m :: methods, isIdentifier x = true) (gap : String) (rooted : Bool)
    (rest : List Token) :
    Tells (statement (.level (n + 2))) (receiverTokens gap rooted s segments ++
      (callTokens (m :: methods) ++ .sign "" ";" :: rest)) ()
      (chainFacts rooted (s :: segments) (m :: methods)) rest := by
  have hplain := plain_receiver hall gap rooted m methods (.sign "" ";" :: rest)
  have hend : ¬Begins (·.IsSign [".", "[", "::"]) (.sign "" ";" :: rest) := by simp
  obtain ⟨o, hview, hinner, hprimary⟩ := exists_reads_primary hall hmethods hend gap rooted
  have hexpression := tells_expression hplain hprimary
    (isTarget_foldl_called o (List.cons_ne_nil m methods))
  rw [facts_foldl_called hinner (List.cons_ne_nil m methods), hview] at hexpression
  refine (statement_eq _ hplain).trans ((refuses_localVariables hall
    (hmethods m List.mem_cons_self) rooted methods _).orElse_tells (Refuses.orElse_tells ?_
      (hexpression.bind_reads (reads_sign "" ";" rest))))
  -- no colon follows the first word
  exact hplain.word_bind fun us hus =>
    (refuses_sign (not_begins_of_subset hus (by decide))).bind

/-- The closing brace is no statement. -/
lemma refuses_statement (n : Nat) (gap : String) (ts : List Token) :
    Refuses (statement (.level n)) (.sign gap "\x7d" :: ts) := by
  have hplain : Plain (.sign gap "\x7d" :: ts) := plain_closing (by decide) gap ts
  have htype : Refuses (type (.level n)) (.sign gap "\x7d" :: ts) :=
    (refuses_simpleType _ _ (by simp)).bind
  have hvariables : Refuses (localVariables (.level n)) (.sign gap "\x7d" :: ts) :=
    ((hplain.reads_modifiers n).bind_refuses htype.bind).held.bind
  refine (statement_eq n hplain).trans (hvariables.orElse_refuses ?_)
  exact (refuses_wordExcept _ (by simp)).bind.orElse_refuses
    (refuses_expression (by decide) n gap ts).bind

lemma tells_block (hall : ∀ x ∈ s :: segments, isIdentifier x = true)
    (hmethods : ∀ x ∈ m :: methods, isIdentifier x = true) (rooted : Bool) (rest : List Token) :
    Tells (block (.level (n + 3))) (.sign " " "\x7b" :: (receiverTokens " " rooted s segments ++
      (callTokens (m :: methods) ++ .sign "" ";" :: .sign " " "\x7d" :: rest))) ()
      (chainFacts rooted (s :: segments) (m :: methods)) rest := by
  have hmany := (tells_statement (n := n) hall hmethods " " rooted
    (.sign " " "\x7d" :: rest)).many (by simp; omega) (refuses_statement (n + 2) " " rest).many
  rw [List.append_nil] at hmany
  exact (reads_sign " " "\x7b" _).bind_tells (hmany.bind_reads (reads_sign " " "\x7d" rest))

end Rule

/-! ### The source text -/

section

variable {cs : List Char} {ts : List Token} {gap : String}

lemma toList_callsText_cons (m : String) (methods : List String) :
    (callsText (m :: methods)).toList =
      '.' :: (m.toList ++ '(' :: ')' :: (callsText methods).toList) := by
  rw [callsText, List.map_cons, String.join_cons]
  simp only [String.toList_append, List.append_assoc]
  rfl

lemma lexes_callTokens (hts : Lexes cs ts) {methods : List String}
    (hall : ∀ m ∈ methods, isIdentifier m = true) :
    Lexes ((callsText methods).toList ++ cs) (Rule.callTokens methods ++ ts) := by
  induction methods with
  | nil => exact hts
  | cons m methods ih =>
    obtain ⟨hm, hmore⟩ := List.forall_mem_cons.mp hall
    have hplain := isPlainWord_of_isIdentifier hm
    have hclose := (ih hmore).loneSign isSpace_empty (s := ")") rfl (by decide)
    have hopen := hclose.loneSign isSpace_empty (s := "(") rfl (by decide)
    have hname := hopen.word isSpace_empty hplain (endsWord_cons.mpr rfl)
    have hdot := hname.sign isSpace_empty (s := ".") rfl (by decide)
      (cut?_dot ((startsWord_of_isPlainWord hplain).append _))
    rw [toList_callsText_cons, List.cons_append, List.append_assoc]
    exact hdot

lemma lexes_receiverTokens (hgap : IsSpace gap) (hcs : EndsWord cs) (hts : Lexes cs ts)
    (rooted : Bool) {s : String} {segments : List String}
    (hall : ∀ x ∈ s :: segments, isIdentifier x = true) :
    Lexes (gap.toList ++ ((Expr.selector rooted (s :: segments)).render.toList ++ cs))
      (Rule.receiverTokens gap rooted s segments ++ ts) := by
  have hwords : ∀ x ∈ s :: segments, isPlainWord x = true := fun x hx =>
    isPlainWord_of_isIdentifier (hall x hx)
  cases rooted with
  | false => exact WrittenType.lexes_join hgap hcs hts hwords
  | true =>
    rw [Rule.render_rooted]
    exact WrittenType.lexes_join hgap hcs hts (List.forall_mem_cons.mpr ⟨by decide, hwords⟩)

end

lemma Body.ofFacts_map_call (calls : List Call) :
    Body.ofFacts (calls.map Fact.call) = { calls } := by
  simp [Body.ofFacts, List.filterMap_map]

/-- The source text is read as a class with the method, whose body has the calls. -/
lemma parse?_chain (path : String) (rooted : Bool) {s m : String} {segments methods : List String}
    (hnames : ∀ x ∈ s :: segments, isIdentifier x = true)
    (hcalled : ∀ x ∈ m :: methods, isIdentifier x = true) :
    SourceUnit.parse? path ("class A \x7b void f() \x7b " ++
        chainText (.selector rooted (s :: segments)) (m :: methods) ++ "; \x7d \x7d") =
      some { path, types := [classWith (methodWith "f" .void
        (.ofFacts (Rule.chainFacts rooted (s :: segments) (m :: methods))))] } := by
  have hlast := lexes_nil.loneSign isSpace_blank (s := "\x7d") rfl (by decide)
  have hbrace := hlast.loneSign isSpace_blank (s := "\x7d") rfl (by decide)
  have hend := hbrace.loneSign isSpace_empty (s := ";") rfl (by decide)
  have hdot : EndsWord ((callsText (m :: methods)).toList ++ "; \x7d \x7d".toList) := by
    rw [toList_callsText_cons]
    exact endsWord_cons.mpr rfl
  have hreceiver := lexes_receiverTokens isSpace_blank hdot (lexes_callTokens hend hcalled) rooted
    hnames
  have hblock := hreceiver.loneSign isSpace_blank (s := "\x7b") rfl (by decide)
  have hclose := hblock.loneSign isSpace_empty (s := ")") rfl (by decide)
  have hopen := hclose.loneSign isSpace_empty (s := "(") rfl (by decide)
  have hname := hopen.word isSpace_blank (w := "f") rfl (endsWord_cons.mpr rfl)
  refine parse?_eq_classWith (t := .void) rfl ?_ (endsWord_cons.mpr rfl) hname ?_ (fun n => ?_) path
  · simp only [chainText, String.toList_append, List.append_assoc]
    rfl
  · simp [Rule.EndsHead, EndsType]
  · exact (refuses_sign (by simp)).orElse_tells (Rule.tells_block hnames hcalled rooted _)

/-- In a method that only calls methods without arguments one after the other, the first on a chain
of names, the calls are found with the last one first, the first on the chain and each other on the
call before it. No field access, creation, local variable or handler is found. The walk over the
syntax tree of the body ends, and finds the same. -/
theorem calls_of_chain (path : String) (rooted : Bool) (segments methods : List String)
    (hsegments : segments ≠ []) (hmethods : methods ≠ [])
    (hall : ∀ x ∈ segments ++ methods, isIdentifier x = true) :
    SourceUnit.parse? path ("class A \x7b void f() \x7b " ++
        chainText (.selector rooted segments) methods ++ "; \x7d \x7d") =
      some { path, types := [classWith (methodWith "f" .void
        { calls := (chainCalls (.selector rooted segments) methods).reverse })] } ∧
    (SyntaxNode.ofCalls rooted segments methods).source =
      "\x7b " ++ chainText (.selector rooted segments) methods ++ "; \x7d" ∧
    ∀ reader, ∃ visited,
      (Walk.start [⟨none, .ofCalls rooted segments methods⟩]).Ends Occurrence.children visited ∧
      Body.ofFacts (visited.flatMap (Occurrence.ownFacts reader)) =
        { calls := (chainCalls (.selector rooted segments) methods).reverse } := by
  have hbody : Body.ofFacts (Rule.chainFacts rooted segments methods) =
      { calls := (chainCalls (.selector rooted segments) methods).reverse } :=
    Body.ofFacts_map_call _
  rw [← hbody]
  refine ⟨?_, source_ofCalls rooted hsegments methods, fun reader => ?_⟩
  · obtain ⟨s, segments, rfl⟩ := List.exists_cons_of_ne_nil hsegments
    obtain ⟨m, methods, rfl⟩ := List.exists_cons_of_ne_nil hmethods
    obtain ⟨hnames, hcalled⟩ := List.forall_mem_append.mp hall
    exact parse?_chain path rooted hnames hcalled
  · have hcollect := collect_ofCalls reader rooted hsegments hmethods
    exact ⟨_, (Occurrence.ends_iff _).mpr rfl, congrArg Body.ofFacts hcollect⟩

/-- Three calls on a chain at `this`, with a sign, a digit and an underscore in the names. -/
theorem calls_of_chain_order :
    (∀ x ∈ ["order", "lines$1"] ++ ["first", "price", "_2"], isIdentifier x = true) ∧
      SourceUnit.parse? "A.java"
          "class A \x7b void f() \x7b this.order.lines$1.first().price()._2(); \x7d \x7d" =
        some { path := "A.java", types := [classWith (methodWith "f" .void { calls := [
          ⟨some (.call "price" "this.order.lines$1.first().price()"), "_2", []⟩,
          ⟨some (.call "first" "this.order.lines$1.first()"), "price", []⟩,
          ⟨some (.selector true ["order", "lines$1"]), "first", []⟩] })] } := by
  have hall : ∀ x ∈ ["order", "lines$1"] ++ ["first", "price", "_2"], isIdentifier x = true :=
    List.forall_iff_forall_mem.mp (by decide)
  exact ⟨hall, (calls_of_chain "A.java" true ["order", "lines$1"] ["first", "price", "_2"]
    (by decide) (by decide) hall).1⟩

end Cartograph.Java
