import Cartograph.Proofs.Resolution.SimpleNames
import Cartograph.Proofs.Text.Pieces

/-!
# Chains of names

A type can be written as a dotted name, which is resolved as a text, or stand at the beginning of a
chain of names, which is resolved by its segments. Where the whole chain names a type, both give the
same name, so what a class uses is not told apart by how it is written. A chain that goes on behind
the type means what its longest beginning means that still looks like one.
-/

namespace Cartograph

open Text Java

/-- The text can be a segment of a dotted name. -/
structure IsSegment (x : String) : Prop where
  ne_empty : x ≠ ""
  no_dot : '.' ∉ x.toList
  no_blank : ∀ c ∈ x.toList, isBlank c = false

/-- The whole chain names a type of the scope: one that is known by its first segment, or one that
is qualified by lower-case segments, the first of which is no imported class. Types nested in it may
follow. -/
inductive Scope.NamesType (s : Scope) : List String → Prop
  | known {head : String} {nested : List String} (hhead : startsUpper head = true)
      (hnested : ∀ x ∈ nested, looksLikeType x = true) : NamesType s (head :: nested)
  | qualified {head type : String} {lower nested : List String} (hhead : startsUpper head = false)
      (hscope : s.explicit? head = none) (hlower : ∀ x ∈ lower, startsUpper x = false)
      (htype : startsUpper type = true) (hnested : ∀ x ∈ nested, looksLikeType x = true) :
      NamesType s (head :: lower ++ type :: nested)

/-- The chain begins with these segments, and those behind the first one look like types. -/
def IsTypeStart (start segments : List String) : Prop :=
  start <+: segments ∧ ∀ x ∈ start.tail, looksLikeType x = true

namespace Resolver

variable {r : Registry} {s : Scope} {head rest : String} {segments : List String}

/-! ### Dotted names as texts -/

lemma splitHead?_append_dot (hhead : '.' ∉ head.toList) (rest : String) :
    splitHead? (head ++ "." ++ rest) = some (head, rest) := by
  have hchars : (head ++ "." ++ rest).toList = head.toList ++ '.' :: rest.toList := by simp
  have hpass : ∀ c ∈ head.toList, (c != '.') = true := forall_bne_iff.mpr hhead
  simp [splitHead?, hchars, List.takeWhile_append_of_pos hpass, List.dropWhile_append_of_pos hpass]

/-- What follows a class in a dotted name follows what the class stands for. -/
lemma resolve_append_of_startsUpper (hhead : IsSegment head) (hupper : startsUpper head = true)
    (hblank : ∀ c ∈ (head ++ "." ++ rest).toList, isBlank c = false) :
    resolve { registry := r } s (head ++ "." ++ rest) =
      resolve { registry := r } s head ++ "." ++ rest := by
  have hname : head ++ "." ++ rest ≠ "" := by simp
  rw [resolve_of_simple r s hhead.ne_empty hhead.no_dot hhead.no_blank]
  cases hscope : s.explicit? head with
  | some path =>
    simp [resolve, trim_of_not_blank hblank, hname, splitHead?_append_dot hhead.no_dot, hscope,
      resolveSimple]
  | none =>
    simp [resolve, trim_of_not_blank hblank, hname, splitHead?_append_dot hhead.no_dot, hscope,
      hupper]

/-- A dotted name that begins with a lower-case segment stands for itself. -/
lemma resolve_append_of_not_startsUpper (hhead : IsSegment head)
    (hupper : startsUpper head = false) (hscope : s.explicit? head = none)
    (hblank : ∀ c ∈ (head ++ "." ++ rest).toList, isBlank c = false) :
    resolve { registry := r } s (head ++ "." ++ rest) = head ++ "." ++ rest := by
  have hname : head ++ "." ++ rest ≠ "" := by simp
  simp [resolve, trim_of_not_blank hblank, hname, splitHead?_append_dot hhead.no_dot, hscope,
    hupper]

lemma isBlank_of_mem_join (hsegments : ∀ x ∈ segments, IsSegment x) {c : Char}
    (hc : c ∈ (".".intercalate segments).toList) : isBlank c = false := by
  rcases mem_toList_intercalate hc with hdot | ⟨x, hx, hc⟩
  · rw [List.mem_singleton.mp hdot]
    rfl
  · exact (hsegments x hx).no_blank c hc

/-! ### Chains by their segments -/

lemma nestedSegments_of_types {nested : List String}
    (hnested : ∀ x ∈ nested, looksLikeType x = true) :
    nestedSegments nested = String.join (nested.map ("." ++ ·)) := by
  rw [nestedSegments, List.takeWhile_eq_self_iff.mpr hnested]

lemma resolvePath?_of_startsUpper (hupper : startsUpper head = true) (nested : List String) :
    resolvePath? { registry := r } s (head :: nested) =
      some (resolve { registry := r } s head ++ nestedSegments nested) := by
  simp [resolvePath?, hupper]

/-- A chain that begins with lower-case segments gives these, the type and what is nested in it. -/
lemma resolvePath?_of_qualified {type : String} {lower nested : List String}
    (hhead : startsUpper head = false) (hlower : ∀ x ∈ lower, startsUpper x = false)
    (htype : startsUpper type = true) :
    resolvePath? { registry := r } s (head :: lower ++ type :: nested) =
      some (".".intercalate (head :: lower ++ [type]) ++ nestedSegments nested) := by
  have hpass : ∀ x ∈ head :: lower, (!startsUpper x) = true := by
    intro x hx
    rcases List.mem_cons.mp hx with rfl | hx
    · simp [hhead]
    · simp [hlower x hx]
  have hlower' : (head :: lower ++ type :: nested).takeWhile (fun x => !startsUpper x) =
      head :: lower := by
    rw [List.takeWhile_append_of_pos hpass]
    simp [htype]
  have hrest : (head :: lower ++ type :: nested).dropWhile (fun x => !startsUpper x) =
      type :: nested := by
    rw [List.dropWhile_append_of_pos hpass]
    simp [htype]
  rw [List.cons_append] at hlower' hrest ⊢
  simp [resolvePath?, hhead, hlower', hrest]

/-- A chain that names a type stands for what its dotted name stands for. -/
lemma resolvePath?_eq_resolve_join (hsegments : ∀ x ∈ segments, IsSegment x)
    (h : s.NamesType segments) :
    resolvePath? { registry := r } s segments =
      some (resolve { registry := r } s (".".intercalate segments)) := by
  have hblank : ∀ c ∈ (".".intercalate segments).toList, isBlank c = false := by
    intro c hc
    exact isBlank_of_mem_join hsegments hc
  cases h with
  | @known head nested hhead hnested =>
    rw [resolvePath?_of_startsUpper hhead, nestedSegments_of_types hnested]
    by_cases hnil : nested = []
    · subst hnil
      simp
    · have hjoin : ".".intercalate (head :: nested) = head ++ "." ++ ".".intercalate nested :=
        String.intercalate_append_of_ne_nil (List.cons_ne_nil head []) hnil
      rw [hjoin] at hblank ⊢
      rw [resolve_append_of_startsUpper (hsegments head List.mem_cons_self) hhead hblank,
        ← sep_append_intercalate "." hnil, String.append_assoc]
  | @qualified head type lower nested hhead hscope hlower htype hnested =>
    have hjoin : ".".intercalate (head :: lower ++ type :: nested) =
        head ++ "." ++ ".".intercalate (lower ++ type :: nested) :=
      String.intercalate_append_of_ne_nil (List.cons_ne_nil head []) (by simp)
    rw [resolvePath?_of_qualified hhead hlower htype, nestedSegments_of_types hnested,
      intercalate_append_join "." (by simp), List.append_assoc, List.singleton_append]
    rw [hjoin] at hblank ⊢
    rw [resolve_append_of_not_startsUpper (hsegments head (by simp)) hhead hscope hblank]

/-! ### Chains that go on behind the type -/

/-- The first segment and the types that follow it make the longest beginning that looks like a
type. -/
lemma isTypeStart_takeWhile (head : String) (rest : List String) :
    IsTypeStart (head :: rest.takeWhile looksLikeType) (head :: rest) := by
  refine ⟨List.cons_prefix_cons.mpr ⟨rfl, List.takeWhile_prefix _⟩, ?_⟩
  intro x hx
  exact List.mem_takeWhile_imp hx

lemma length_le_of_isTypeStart {head : String} {start rest : List String}
    (h : IsTypeStart start (head :: rest)) :
    start.length ≤ (head :: rest.takeWhile looksLikeType).length := by
  obtain ⟨hbegins, htypes⟩ := h
  cases start with
  | nil => simp
  | cons x types =>
    obtain ⟨-, more, rfl⟩ := List.cons_prefix_cons.mp hbegins
    rw [List.tail_cons] at htypes
    rw [List.takeWhile_append_of_pos htypes, List.length_cons, List.length_cons,
      List.length_append]
    omega

/-- What follows the longest beginning that looks like a type does not count. -/
lemma resolvePath?_takeWhile (hupper : startsUpper head = true) (rest : List String) :
    resolvePath? { registry := r } s (head :: rest) =
      resolvePath? { registry := r } s (head :: rest.takeWhile looksLikeType) := by
  rw [resolvePath?_of_startsUpper hupper, resolvePath?_of_startsUpper hupper, nestedSegments,
    nestedSegments, List.takeWhile_takeWhile]
  simp

end Resolver

/-- The two ways to resolve agree: a chain of names that names a type as a whole stands for what its
dotted name stands for. A chain that begins with an upper-case segment stands for what its longest
beginning stands for in which all segments behind the first look like types. -/
theorem resolvePath?_agrees_with_resolve (r : Registry) (s : Scope) :
    (∀ segments, (∀ x ∈ segments, IsSegment x) → s.NamesType segments →
      Resolver.resolvePath? { registry := r } s segments =
        some (Resolver.resolve { registry := r } s (".".intercalate segments))) ∧
    ∀ head rest, startsUpper head = true →
      ∃ start, IsTypeStart start (head :: rest) ∧
        (∀ other, IsTypeStart other (head :: rest) → other.length ≤ start.length) ∧
        Resolver.resolvePath? { registry := r } s (head :: rest) =
          Resolver.resolvePath? { registry := r } s start := by
  constructor
  · intro segments hsegments hnames
    exact Resolver.resolvePath?_eq_resolve_join hsegments hnames
  · intro head rest hupper
    refine ⟨head :: rest.takeWhile looksLikeType, ?_, ?_, ?_⟩
    · exact Resolver.isTypeStart_takeWhile head rest
    · intro other hother
      exact Resolver.length_le_of_isTypeStart hother
    · exact Resolver.resolvePath?_takeWhile hupper rest

/-- A class that is found below an imported package, a type nested in it, and a constant behind
both. -/
theorem resolvePath?_agrees_with_resolve_order :
    let r := (Registry.register {} "shop.model" "Order" .classType none).1
    let s : Scope := { package := some "web", wildcards := ["shop"] }
    (∀ x ∈ ["Order", "Line"], IsSegment x) ∧ s.NamesType ["Order", "Line"] ∧
      Resolver.resolve { registry := r } s "Order.Line" = "shop.model.Order.Line" ∧
      Resolver.resolvePath? { registry := r } s ["Order", "Line"] = some "shop.model.Order.Line" ∧
      ∃ start, IsTypeStart start ["Order", "Line", "MAX_SIZE"] ∧
        (∀ other, IsTypeStart other ["Order", "Line", "MAX_SIZE"] →
          other.length ≤ start.length) ∧
        Resolver.resolvePath? { registry := r } s ["Order", "Line", "MAX_SIZE"] =
          Resolver.resolvePath? { registry := r } s start := by
  intro r s
  have hsegments : ∀ x ∈ ["Order", "Line"], IsSegment x := by
    have horder : IsSegment "Order" :=
      ⟨by decide, by decide, List.forall_iff_forall_mem.mp (by decide)⟩
    have hline : IsSegment "Line" :=
      ⟨by decide, by decide, List.forall_iff_forall_mem.mp (by decide)⟩
    simp [horder, hline]
  have hupper : startsUpper "Order" = true := by decide +kernel
  have hnames : s.NamesType ["Order", "Line"] := .known hupper (by decide +kernel)
  have hresolve : Resolver.resolve { registry := r } s "Order.Line" = "shop.model.Order.Line" := by
    decide +kernel
  obtain ⟨hagrees, hlongest⟩ := resolvePath?_agrees_with_resolve r s
  refine ⟨hsegments, hnames, hresolve, ?_, hlongest "Order" ["Line", "MAX_SIZE"] hupper⟩
  rw [hagrees _ hsegments hnames, ← hresolve]
  rfl

end Cartograph
