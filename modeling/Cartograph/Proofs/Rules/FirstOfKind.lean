import Cartograph.Rules.Table
import Mathlib.Data.List.Count
import Mathlib.Data.List.Induction
import Mathlib.Data.List.Nodup

/-!
# The first rule of each kind

A table of rules is scanned once, and of each kind only the first rule that passes counts. Which rules
these are can be told from their places alone, without the scan: a rule counts if it passes and no
rule of its kind before it does. The law is the same for rules on calls and on declared variables, so
it is proved once, for rules of any type with a kind, a test and a target. Nothing is assumed of the
tables.
-/

namespace Cartograph.Rules

open Text Java

variable {ρ : Type} {kind : ρ → Kind} {passes : ρ → Bool} {target : ρ → String}

/-! ### The scan -/

lemma firing_cons_of_mem {met : List Kind} {rule : ρ} (h : kind rule ∈ met) (rules : List ρ) :
    firing kind passes met (rule :: rules) = firing kind passes met rules := by
  rw [firing, if_pos (by simp [h])]

lemma firing_cons_of_not_passes {met : List Kind} {rule : ρ} (h : passes rule = false)
    (rules : List ρ) :
    firing kind passes met (rule :: rules) = firing kind passes met rules := by
  rw [firing, if_pos (by simp [h])]

lemma firing_cons_of_passes {met : List Kind} {rule : ρ} (hmet : kind rule ∉ met)
    (h : passes rule = true) (rules : List ρ) :
    firing kind passes met (rule :: rules) =
      rule :: firing kind passes (kind rule :: met) rules := by
  rw [firing, if_neg (by simp [hmet, h])]

/-- Only the set of the kinds met before matters. -/
lemma firing_congr {met met' : List Kind} (h : ∀ k, k ∈ met ↔ k ∈ met') (rules : List ρ) :
    firing kind passes met rules = firing kind passes met' rules := by
  induction rules generalizing met met' with
  | nil => rfl
  | cons rule rules ih =>
    by_cases hmem : kind rule ∈ met
    · rw [firing_cons_of_mem hmem, firing_cons_of_mem ((h _).mp hmem), ih h]
    · have hmem' : kind rule ∉ met' := fun hk => hmem ((h _).mpr hk)
      cases hpass : passes rule with
      | false => rw [firing_cons_of_not_passes hpass, firing_cons_of_not_passes hpass, ih h]
      | true =>
        rw [firing_cons_of_passes hmem hpass, firing_cons_of_passes hmem' hpass]
        congr 1
        apply ih
        intro k
        rw [List.mem_cons, List.mem_cons, h]

/-- A table in two parts: in the second part the kinds count as met of which a rule of the first part
passes. -/
lemma firing_append (met : List Kind) (rules more : List ρ) :
    firing kind passes met (rules ++ more) =
      firing kind passes met rules ++
        firing kind passes ((rules.filter passes).map kind ++ met) more := by
  induction rules generalizing met with
  | nil => rfl
  | cons rule rules ih =>
    rw [List.cons_append]
    cases hpass : passes rule with
    | false =>
      rw [firing_cons_of_not_passes hpass, firing_cons_of_not_passes hpass, ih,
        List.filter_cons_of_neg (by simp [hpass])]
    | true =>
      rw [List.filter_cons_of_pos hpass, List.map_cons]
      by_cases hmem : kind rule ∈ met
      · rw [firing_cons_of_mem hmem, firing_cons_of_mem hmem, ih]
        congr 1
        apply firing_congr
        intro k
        by_cases hk : k = kind rule <;> simp [hk, hmem]
      · rw [firing_cons_of_passes hmem hpass, firing_cons_of_passes hmem hpass, ih,
          List.cons_append]
        congr 2
        apply firing_congr
        intro k
        simp only [List.mem_append, List.mem_cons, List.cons_append]
        tauto

/-! ### Rules that count -/

/-- The rules of a table that count, in its order: those that pass while no rule of their kind before
them does. -/
def firstOfEachKind (kind : ρ → Kind) (passes : ρ → Bool) (rules : List ρ) : List ρ :=
  (rules.zipIdx.filter fun (x : ρ × Nat) =>
    passes x.1 ∧ ∀ rule ∈ rules.take x.2, passes rule → kind rule ≠ kind x.1).map (·.1)

/-- A further rule counts if it passes and none before it of its kind does. -/
lemma firstOfEachKind_concat (rules : List ρ) (rule : ρ) :
    firstOfEachKind kind passes (rules ++ [rule]) =
      firstOfEachKind kind passes rules ++
        if passes rule ∧ kind rule ∉ (rules.filter passes).map kind then [rule] else [] := by
  have hbefore : ∀ x ∈ rules.zipIdx, (rules ++ [rule]).take x.2 = rules.take x.2 := by
    intro x hx
    exact List.take_append_of_le_length (Nat.le_of_lt (List.snd_lt_of_mem_zipIdx hx))
  rw [firstOfEachKind, List.zipIdx_append, List.filter_append, List.map_append]
  congr 1
  · rw [firstOfEachKind]
    congr 1
    apply List.filter_congr
    intro x hx
    rw [hbefore x hx]
  · by_cases hpass : passes rule = true <;> simp [List.filter_cons, hpass, apply_ite]

lemma firing_eq_firstOfEachKind (rules : List ρ) :
    firing kind passes [] rules = firstOfEachKind kind passes rules := by
  induction rules using List.reverseRecOn with
  | nil => rfl
  | append_singleton rules rule ih =>
    rw [firing_append, firstOfEachKind_concat, ih, List.append_nil]
    congr 1
    split_ifs with h
    · rw [firing_cons_of_passes h.2 h.1, firing]
    · rcases not_and_or.mp h with hpass | hmem
      · rw [firing_cons_of_not_passes (by simpa using hpass), firing]
      · rw [firing_cons_of_mem (not_not.mp hmem), firing]

/-! ### One kind at a time -/

/-- Of a kind not met before, the first rule that passes counts and no other. -/
lemma filter_firing (met : List Kind) (rules : List ρ) (k : Kind) :
    (firing kind passes met rules).filter (kind · = k) =
      if k ∈ met then [] else (rules.find? fun rule => kind rule = k ∧ passes rule).toList := by
  induction rules generalizing met with
  | nil => simp [firing]
  | cons rule rules ih =>
    cases hpass : passes rule with
    | false =>
      rw [firing_cons_of_not_passes hpass, ih, List.find?_cons_of_neg (by simp [hpass])]
    | true =>
      by_cases hk : kind rule = k
      · subst hk
        by_cases hmem : kind rule ∈ met
        · rw [firing_cons_of_mem hmem, ih, if_pos hmem, if_pos hmem]
        · rw [firing_cons_of_passes hmem hpass, List.filter_cons_of_pos (by simp), ih,
            if_pos List.mem_cons_self, if_neg hmem, List.find?_cons_of_pos (by simp [hpass])]
          rfl
      · rw [List.find?_cons_of_neg (by simp [hk])]
        by_cases hmem : kind rule ∈ met
        · rw [firing_cons_of_mem hmem, ih]
        · rw [firing_cons_of_passes hmem hpass, List.filter_cons_of_neg (by simpa using hk), ih]
          simp only [List.mem_cons, Ne.symm hk, false_or]

/-- What the rules that count find. -/
def found (kind : ρ → Kind) (passes : ρ → Bool) (target : ρ → String) (rules : List ρ) :
    List Finding :=
  (firing kind passes [] rules).flatMap fun rule => emit (target rule) (kind rule)

lemma filter_emit (text : String) (k k' : Kind) :
    (emit text k).filter (·.kind = k') = if k = k' then emit text k else [] := by
  unfold emit
  by_cases hk : k = k' <;> split_ifs <;> simp [hk]

lemma found_eq_map (rules : List ρ) :
    found kind passes target rules =
      ((firstOfEachKind kind passes rules).filter fun rule => !isBlankText (target rule)).map
        fun rule => ⟨target rule, kind rule⟩ := by
  rw [found, firing_eq_firstOfEachKind]
  induction firstOfEachKind kind passes rules with
  | nil => rfl
  | cons rule rules ih =>
    rw [List.flatMap_cons, ih]
    cases hblank : isBlankText (target rule) <;> simp [emit, hblank]

lemma filter_found (rules : List ρ) (k : Kind) :
    (found kind passes target rules).filter (·.kind = k) =
      (rules.find? fun rule => kind rule = k ∧ passes rule).toList.flatMap fun rule =>
        emit (target rule) k := by
  have hcounts : (firing kind passes [] rules).filter (kind · = k) =
      (rules.find? fun rule => kind rule = k ∧ passes rule).toList :=
    (filter_firing [] rules k).trans (if_neg List.not_mem_nil)
  rw [← hcounts, found]
  induction firing kind passes [] rules with
  | nil => rfl
  | cons rule rules ih =>
    rw [List.flatMap_cons, List.filter_append, filter_emit, ih]
    by_cases hk : kind rule = k <;> simp [hk]

lemma nodup_map_kind_found (rules : List ρ) :
    ((found kind passes target rules).map (·.kind)).Nodup := by
  rw [List.nodup_iff_count_le_one]
  intro k
  have hcount : ((found kind passes target rules).map (·.kind)).count k =
      ((found kind passes target rules).filter (·.kind = k)).length := by
    rw [List.count, List.countP_map, List.countP_eq_length_filter]
    rfl
  rw [hcount, filter_found]
  cases rules.find? fun rule => kind rule = k ∧ passes rule with
  | none => simp
  | some rule =>
    simp only [Option.toList_some, List.flatMap_singleton, emit]
    split_ifs <;> simp

/-- Tables with the same rules of each kind in the same order find the same, up to the order. -/
lemma found_perm {rules rules' : List ρ}
    (h : ∀ k, rules.filter (kind · = k) = rules'.filter (kind · = k)) :
    (found kind passes target rules).Perm (found kind passes target rules') := by
  rw [List.perm_iff_count]
  intro f
  have hfind : ∀ table : List ρ, (table.find? fun rule => kind rule = f.kind ∧ passes rule) =
      (table.filter (kind · = f.kind)).find? passes := by
    intro table
    rw [List.find?_filter]
    simp
  have hkind : ∀ fs : List Finding, fs.count f = (fs.filter (·.kind = f.kind)).count f := by
    intro fs
    rw [List.count_filter (by simp)]
  rw [hkind, filter_found, hfind, h, ← hfind, ← filter_found, ← hkind]

/-- A rule behind one of its kind that passes never counts. -/
lemma found_append_of_passes {before : List ρ} {rule : ρ} (hmem : rule ∈ before)
    (hpass : passes rule = true) {later : ρ} (hkind : kind later = kind rule) (after : List ρ) :
    found kind passes target (before ++ later :: after) =
      found kind passes target (before ++ after) := by
  have hmet : kind later ∈ (before.filter passes).map kind ++ [] := by
    rw [List.append_nil, hkind]
    exact List.mem_map_of_mem (List.mem_filter.mpr ⟨hmem, hpass⟩)
  rw [found, found, firing_append, firing_append, firing_cons_of_mem hmet]

/-! ### The law -/

/-- How a table is to be applied to one construct: `findings` gives for each table what its rules find,
`passes` says which rules fit the construct, and `target` what they find there. -/
structure AppliesFirstOfKind (kind : ρ → Kind) (passes : ρ → Bool) (target : ρ → String)
    (findings : List ρ → List Finding) : Prop where
  /-- In the order of the table come the targets of the rules that count, without the blank ones. -/
  inTableOrder (rules : List ρ) :
    findings rules =
      ((firstOfEachKind kind passes rules).filter fun rule => !isBlankText (target rule)).map
        fun rule => ⟨target rule, kind rule⟩
  /-- Of each kind it is the target of the first rule that passes, if that is not blank. -/
  ofKind (rules : List ρ) (k : Kind) :
    (findings rules).filter (·.kind = k) =
      match rules.find? fun rule => kind rule = k ∧ passes rule with
      | some rule => if isBlankText (target rule) then [] else [⟨target rule, k⟩]
      | none => []
  onePerKind (rules : List ρ) : ((findings rules).map (·.kind)).Nodup
  /-- Rules of different kinds can be moved past each other. -/
  perm (rules rules' : List ρ) :
    (∀ k, rules.filter (kind · = k) = rules'.filter (kind · = k)) →
      (findings rules).Perm (findings rules')
  /-- A rule behind one of its kind that passes can be left out. -/
  leaveOut (before between after : List ρ) (rule later : ρ) :
    passes rule = true → kind later = kind rule →
      findings (before ++ rule :: between ++ later :: after) =
        findings (before ++ rule :: between ++ after)

lemma appliesFirstOfKind_found (kind : ρ → Kind) (passes : ρ → Bool) (target : ρ → String) :
    AppliesFirstOfKind kind passes target (found kind passes target) where
  inTableOrder := found_eq_map
  ofKind rules k := by
    rw [filter_found]
    cases rules.find? fun rule => kind rule = k ∧ passes rule with
    | none => rfl
    | some rule => simp [emit]
  onePerKind := nodup_map_kind_found
  perm _ _ := found_perm
  leaveOut before between after rule later hpass hkind :=
    found_append_of_passes (List.mem_append_right before List.mem_cons_self) hpass hkind after

/-- Every table of call rules is applied to every call by the first rule of each kind whose name test
and guard pass, and every table of variable rules to every declared variable by the first of each
kind whose sites and name test do. -/
theorem tables_apply_first_of_kind :
    (∀ site : CallSite,
      AppliesFirstOfKind CallRule.kind
        (fun rule => rule.names.passes site.call.name && site.meets rule.guard)
        (fun rule => site.target rule.target) (onCall · site)) ∧
    ∀ use : VariableUse,
      AppliesFirstOfKind VariableRule.kind
        (fun rule => rule.sites.contains use.site && rule.names.passes use.type)
        (fun rule => use.target rule.target) (onVariable · use) :=
  ⟨fun _ => appliesFirstOfKind_found _ _ _, fun _ => appliesFirstOfKind_found _ _ _⟩

/-- A rule whose target is blank uses up its kind all the same. -/
example :
    let rule (text : String) : CallRule :=
      ⟨.tokenExtraction, ⟨["getHeader"], []⟩, .hasArguments, .fixed text⟩
    onCall [rule " ", rule "Token:header"]
      ⟨⟨none, "getHeader", [.text "Authorization"]⟩, none⟩ = [] := by
  decide +kernel

end Cartograph.Rules
