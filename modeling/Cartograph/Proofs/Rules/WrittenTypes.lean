import Cartograph.Classification
import Mathlib.Data.List.Basic
import Mathlib.Logic.Relation

/-!
# Written types are found

A class depends on the classes whose names stand in the types that it writes: the types of its
fields, record components, parameters, results and local variables. The main statement says that
each such name leads to a finding of type structure, however deep it stands in type arguments,
arrays and bounds, and however deep its declaration is nested in the class.

There is one gap. The type of a field or of a record component counts by its innermost elements
alone if it is an array, so a name in the type arguments of the elements is lost there.
-/

namespace Cartograph

open Text Java

namespace Java

/-! ### The walk over a tree -/

/-- The walk meets what can be reached from the stack by going from values to their children. -/
lemma mem_unstack {α : Type} [SizeOf α] {children : α → List α}
    {h : ∀ a, totalSize (children a) < sizeOf a} {stack : List α} {b : α} :
    b ∈ unstack children h stack ↔
      ∃ a ∈ stack, Relation.ReflTransGen (fun x y => y ∈ children x) a b := by
  fun_induction unstack children h stack with
  | case1 => simp
  | case2 a stack ih =>
    rw [List.mem_cons, ih, List.exists_mem_cons_iff, Relation.ReflTransGen.cases_head_iff]
    simp only [List.mem_append, or_and_right, exists_or, or_assoc, eq_comm]

/-- A declaration contains itself, those nested in it, those nested in these and so on. -/
def Decl.Contains : Decl → Decl → Prop :=
  Relation.ReflTransGen fun outer inner => inner ∈ outer.nested

lemma Decl.mem_selfAndNested {d e : Decl} : e ∈ d.selfAndNested ↔ d.Contains e := by
  simp only [selfAndNested, mem_unstack, List.mem_singleton, exists_eq_left, Contains]

namespace WrittenType

/-! ### Names in a written type -/

/-- The name of a class stands in the type, be it in an array, a type argument or a bound. -/
inductive Mentions (name : String) : WrittenType → Prop
  | here {args : List TypeArg} : Mentions name (.named name args)
  | element {t : WrittenType} {dims : Nat} : Mentions name t → Mentions name (.array t dims)
  | argument {outer : String} {args : List TypeArg} {t : WrittenType} :
    .type t ∈ args → Mentions name t → Mentions name (.named outer args)
  | bound {outer : String} {args : List TypeArg} {t : WrittenType} :
    .bounded t ∈ args → Mentions name t → Mentions name (.named outer args)

variable {name : String} {t : WrittenType}

lemma mem_nestedArguments {b : WrittenType} :
    b ∈ t.nestedArguments ↔
      ∃ a ∈ t.typeArguments, Relation.ReflTransGen (fun x y => y ∈ x.typeArguments) a b :=
  mem_unstack

/-- What the rules look at in a type covers it: the name is that of the innermost elements of the
type or of one of its nested arguments. -/
lemma Mentions.element_or_nested (h : t.Mentions name) :
    t.element.className? = some name ∨
      ∃ a ∈ t.nestedArguments, a.element.className? = some name := by
  -- An argument with all that is nested in it is nested in the type around it.
  have inside {outer : String} {args : List TypeArg} {t : WrittenType}
      (ht : t ∈ args.filterMap TypeArg.type?)
      (ih : t.element.className? = some name ∨
        ∃ a ∈ t.nestedArguments, a.element.className? = some name) :
      ∃ a ∈ (named outer args).nestedArguments, a.element.className? = some name := by
    simp only [mem_nestedArguments] at ih ⊢
    obtain hname | ⟨b, ⟨a, ha, hb⟩, hname⟩ := ih
    · exact ⟨t, ⟨t, ht, .refl⟩, hname⟩
    · exact ⟨b, ⟨t, ht, .head ha hb⟩, hname⟩
  induction h with
  | here => exact .inl rfl
  | element _ ih => exact ih
  | argument ht _ ih => exact .inr (inside (List.mem_filterMap.mpr ⟨_, ht, rfl⟩) ih)
  | bound ht _ ih => exact .inr (inside (List.mem_filterMap.mpr ⟨_, ht, rfl⟩) ih)

end WrittenType

/-! ### Places of types -/

/-- Where a declaration writes a type. -/
inductive Place
  | field
  | component
  | parameter
  | result
  | localVariable
deriving DecidableEq

/-- The types of fields and record components are those that a class holds. -/
def Place.isHeld : Place → Bool
  | .field | .component => true
  | _ => false

/-- The declaration itself, not one nested in it, writes the type in the place. -/
inductive Decl.Writes (d : Decl) : Place → WrittenType → Prop
  | field {f : Field} : f ∈ d.fields → d.Writes .field f.type
  | component {c : Param} : c ∈ d.components → d.Writes .component c.type
  | result {m : Method} : m ∈ d.methods → d.Writes .result m.returns
  | methodParam {m : Method} {p : Param} :
    m ∈ d.methods → p ∈ m.params → d.Writes .parameter p.type
  | constructorParam {c : Constructor} {p : Param} :
    c ∈ d.constructors → p ∈ c.params → d.Writes .parameter p.type
  | methodLocal {m : Method} {l : LocalVar} :
    m ∈ d.methods → l ∈ m.body.locals → d.Writes .localVariable l.type
  | constructorLocal {c : Constructor} {l : LocalVar} :
    c ∈ d.constructors → l ∈ c.body.locals → d.Writes .localVariable l.type
  | initializerLocal {l : LocalVar} :
    l ∈ d.initializers.locals → d.Writes .localVariable l.type

lemma Decl.exists_mem_bodies (d outer : Decl) {body : Body} :
    (∃ vs, (body, vs) ∈ d.bodies outer) ↔
      (∃ m ∈ d.methods, m.body = body) ∨ (∃ c ∈ d.constructors, c.body = body) ∨
        d.initializers = body := by
  simp [bodies, exists_or, eq_comm]

end Java

/-! ### Findings of a name -/

namespace ClassView

/-- The name is recorded when it is written as a type: it is no type variable of the class, and what
it stands for is neither blank nor basic. -/
def Records (v : ClassView) (name : String) : Prop :=
  name ∉ v.typeVars ∧
    isBlankText (v.resolve name) = false ∧ isBasicType (v.resolve name) = false

instance (v : ClassView) (name : String) : Decidable (v.Records name) :=
  inferInstanceAs (Decidable (_ ∧ _ ∧ _))

/-- Among the findings is one of type structure whose target is what the name stands for. -/
def Shows (v : ClassView) (name : String) (findings : List Finding) : Prop :=
  ∃ f ∈ findings, f.target = v.resolve name ∧ f.kind.code.startsWith "001_" = true

instance (v : ClassView) (name : String) (findings : List Finding) :
    Decidable (v.Shows name findings) :=
  inferInstanceAs (Decidable (∃ f ∈ findings, _))

variable {v : ClassView} {name : String}

@[simp] lemma shows_append {fs gs : List Finding} :
    v.Shows name (fs ++ gs) ↔ v.Shows name fs ∨ v.Shows name gs := by
  simp only [Shows, List.mem_append, or_and_right, exists_or]

@[simp] lemma shows_flatMap {α : Type} {xs : List α} {g : α → List Finding} :
    v.Shows name (xs.flatMap g) ↔ ∃ x ∈ xs, v.Shows name (g x) := by
  simp only [Shows, List.mem_flatMap]
  constructor
  · rintro ⟨f, ⟨x, hx, hf⟩, hfinding⟩
    exact ⟨x, hx, f, hf, hfinding⟩
  · rintro ⟨x, hx, f, hf, hfinding⟩
    exact ⟨f, ⟨x, hx, hf⟩, hfinding⟩

end ClassView

namespace Rules

open ClassView

variable {v : ClassView} {name : String} {kind : Kind} {t : WrittenType} {d : Decl}
variable (hrec : v.Records name)
include hrec

lemma shows_emitType (hkind : kind.code.startsWith "001_" = true)
    (ht : t.className? = some name) : v.Shows name (emitType (v.resolveType? t) kind) := by
  obtain ⟨hvar, hblank, hbasic⟩ := hrec
  have hfound : emitType (v.resolveType? t) kind = [⟨v.resolve name, kind⟩] := by
    simp [resolveType?, ht, hvar, emitType, hbasic, emit, hblank]
  rw [hfound]
  exact ⟨_, List.mem_singleton_self _, rfl, hkind⟩

lemma shows_generics (hkind : kind.code.startsWith "001_" = true)
    (ht : ∃ a ∈ t.nestedArguments, a.element.className? = some name) :
    v.Shows name (generics v kind t) := by
  obtain ⟨a, ha, hname⟩ := ht
  exact shows_flatMap.mpr ⟨a, ha, shows_emitType hrec hkind hname⟩

/-- Outside fields and record components a type counts with all names in it. -/
lemma shows_mentionedType (hkind : kind.code.startsWith "001_" = true) (ht : t.Mentions name) :
    v.Shows name (mentionedType v kind t) := by
  rw [mentionedType, shows_append]
  obtain hname | hnested := ht.element_or_nested
  · exact .inl (shows_emitType hrec hkind hname)
  · exact .inr (shows_generics hrec (by decide +kernel) hnested)

lemma shows_fieldType (ht : t.Mentions name)
    (harray : t.isArray = true → t.element.className? = some name) :
    v.Shows name (fieldType v t) := by
  unfold fieldType
  split
  case isTrue h => exact shows_emitType hrec (by decide +kernel) (harray h)
  case isFalse h =>
    have helement : t.element = t := by
      cases t <;> simp_all [WrittenType.isArray, WrittenType.element]
    rw [shows_append]
    obtain hname | hnested := ht.element_or_nested
    · exact .inl (shows_emitType hrec (by decide +kernel) (helement ▸ hname))
    · -- Both kinds that a type argument of a field can have are kinds of type structure.
      exact .inr (shows_generics hrec (by split_ifs <;> decide +kernel) hnested)

lemma shows_parameters {params : List Param} {p : Param} (hp : p ∈ params)
    (ht : p.type.Mentions name) : v.Shows name (parameters v params) :=
  shows_flatMap.mpr ⟨p, hp, shows_mentionedType hrec (by decide +kernel) ht⟩

lemma shows_code {body : Body} {l : LocalVar} (vs : Variables) (hl : l ∈ body.locals)
    (ht : l.type.Mentions name) : v.Shows name (code v body vs) := by
  simp only [code, shows_append, shows_flatMap]
  exact .inl (.inl (.inl (.inl ⟨l, hl, shows_mentionedType hrec (by decide +kernel) ht⟩)))

lemma shows_locals {body : Body} {l : LocalVar} (hbody : ∃ vs, (body, vs) ∈ d.bodies v.decl)
    (hl : l ∈ body.locals) (ht : l.type.Mentions name) :
    ∃ body vs, (body, vs) ∈ d.bodies v.decl ∧ v.Shows name (code v body vs) := by
  obtain ⟨vs, hvs⟩ := hbody
  exact ⟨body, vs, hvs, shows_code hrec vs hl ht⟩

omit hrec in
/-- What the members of a declaration of the class show, the class shows. -/
lemma shows_typeStructure (hd : v.decl.Contains d)
    (h : v.Shows name (signatures v d) ∨ v.Shows name (fields v d) ∨
      ∃ body vs, (body, vs) ∈ d.bodies v.decl ∧ v.Shows name (code v body vs)) :
    v.Shows name (typeStructure v) := by
  rw [typeStructure, shows_append, shows_flatMap]
  have hmem : d ∈ v.declarations := by
    rw [ClassView.declarations, Decl.mem_selfAndNested]
    exact hd
  refine .inr ⟨d, hmem, ?_⟩
  simp only [shows_append, shows_flatMap, Prod.exists]
  tauto

/-- The members of a declaration show every type that it writes. -/
lemma shows_of_writes {place : Place} (ht : d.Writes place t) (hname : t.Mentions name)
    (harray : place.isHeld = true → t.isArray = true → t.element.className? = some name) :
    v.Shows name (signatures v d) ∨ v.Shows name (fields v d) ∨
      ∃ body vs, (body, vs) ∈ d.bodies v.decl ∧ v.Shows name (code v body vs) := by
  simp only [signatures, fields, shows_append, shows_flatMap]
  cases ht with
  | field hf => exact .inr (.inl (.inl ⟨_, hf, shows_fieldType hrec hname (harray rfl)⟩))
  | component hc => exact .inr (.inl (.inr ⟨_, hc, shows_fieldType hrec hname (harray rfl)⟩))
  | result hm =>
    exact .inl (.inl ⟨_, hm, .inl (.inr (shows_mentionedType hrec (by decide +kernel) hname))⟩)
  | methodParam hm hp => exact .inl (.inl ⟨_, hm, .inr (shows_parameters hrec hp hname)⟩)
  | constructorParam hc hp => exact .inl (.inr ⟨_, hc, .inr (shows_parameters hrec hp hname)⟩)
  | methodLocal hm hl =>
    have hbody := (d.exists_mem_bodies v.decl).mpr (.inl ⟨_, hm, rfl⟩)
    exact .inr (.inr (shows_locals hrec hbody hl hname))
  | constructorLocal hc hl =>
    have hbody := (d.exists_mem_bodies v.decl).mpr (.inr (.inl ⟨_, hc, rfl⟩))
    exact .inr (.inr (shows_locals hrec hbody hl hname))
  | initializerLocal hl =>
    have hbody := (d.exists_mem_bodies v.decl).mpr (.inr (.inr rfl))
    exact .inr (.inr (shows_locals hrec hbody hl hname))

end Rules

/-- Every class name in a type that the class or a declaration nested in it writes leads to a
finding of type structure, if it is recorded at all. In the type of a field or a record component
that is an array, the name has to be that of the innermost elements. -/
theorem ClassView.shows_of_mentions (v : ClassView) {d : Decl} {place : Place} {t : WrittenType}
    {name : String} (hd : v.decl.Contains d) (ht : d.Writes place t) (hname : t.Mentions name)
    (hrec : v.Records name)
    (harray : place.isHeld = true → t.isArray = true → t.element.className? = some name) :
    v.Shows name v.findings := by
  have h := Rules.shows_typeStructure hd (Rules.shows_of_writes hrec ht hname harray)
  simp only [findings, shows_append, h, true_or]

/-- The argument of a bound in an array of maps, written as a parameter in a nested declaration, and
the elements of an array, written as a field. -/
theorem ClassView.shows_of_mentions_orders :
    let t : WrittenType :=
      .array (.named "Map"
        [.type (.plain "String"), .bounded (.named "List" [.type (.plain "Order")])]) 1
    let inner : Decl :=
      { name := "Inner", kind := .classType
        methods := [⟨"put", {}, [], [], .void, [⟨"orders", t, [], false⟩], [], {}, 1⟩] }
    let main : Decl :=
      { name := "Main", kind := .classType, nested := [inner]
        fields := [⟨{}, [], .array (.plain "Draft") 2, ["drafts"], 1⟩] }
    let unit : SourceUnit := { package := some "app", types := [main] }
    let v : ClassView := ⟨main, "app.Main", .ofUnit unit, { registry := .ofUnits "" [unit] }⟩
    (main.Contains inner ∧ inner.Writes .parameter t ∧ t.Mentions "Order" ∧ v.Records "Order" ∧
      v.Shows "Order" v.findings) ∧
    main.Writes .field (.array (.plain "Draft") 2) ∧ v.Records "Draft" ∧
      v.Shows "Draft" v.findings := by
  intro t inner main unit v
  have hinner : main.Contains inner := .single (.head _)
  have ht : inner.Writes .parameter t :=
    .methodParam (p := ⟨"orders", t, [], false⟩) (.head _) (.head _)
  have horder : t.Mentions "Order" :=
    .element (.bound (.tail _ (.head _)) (.argument (.head _) .here))
  have hdraft : main.Writes .field (.array (.plain "Draft") 2) :=
    .field (f := ⟨{}, [], .array (.plain "Draft") 2, ["drafts"], 1⟩) (.head _)
  have hrec : v.Records "Order" ∧ v.Records "Draft" := by decide +kernel
  have hshown : v.Shows "Order" v.findings :=
    v.shows_of_mentions hinner ht horder hrec.1 nofun
  have hheld : v.Shows "Draft" v.findings :=
    v.shows_of_mentions .refl hdraft (.element .here) hrec.2 fun _ _ => rfl
  exact ⟨⟨hinner, ht, horder, hrec.1, hshown⟩, hdraft, hrec.2, hheld⟩

/-- A field that is an array of generic types hides the type arguments: nothing is found of `Order`
in `Optional<Order>[] drafts`. -/
theorem ClassView.not_shows_of_mentions_drafts :
    ¬∀ (v : ClassView) (d : Decl) (place : Place) (t : WrittenType) (name : String),
      v.decl.Contains d → d.Writes place t → t.Mentions name → v.Records name →
        v.Shows name v.findings := by
  intro h
  let t : WrittenType := .array (.named "Optional" [.type (.plain "Order")]) 1
  let main : Decl :=
    { name := "Main", kind := .classType, fields := [⟨{}, [], t, ["drafts"], 1⟩] }
  let unit : SourceUnit := { package := some "app", types := [main] }
  let v : ClassView := ⟨main, "app.Main", .ofUnit unit, { registry := .ofUnits "" [unit] }⟩
  have ht : main.Writes .field t := .field (f := ⟨{}, [], t, ["drafts"], 1⟩) (.head _)
  have hclaim := h v main .field t "Order" .refl ht (.element (.argument (.head _) .here))
    (by decide +kernel)
  revert hclaim
  decide +kernel

end Cartograph
