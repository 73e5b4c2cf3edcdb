import Cartograph.Finding
import Cartograph.Java.Code
import Cartograph.Text.Dotted

/-!
# Rule tables

Rules that look at one call or at one declared variable. Of the rules of a kind only the first that
passes counts, and the findings come in the order of the table.
-/

namespace Cartograph.Rules

open Text Java

/-- The rules that count: those that pass, the first of each kind, kinds already met left out. -/
def firing {ρ : Type} (kind : ρ → Kind) (passes : ρ → Bool) : List Kind → List ρ → List ρ
  | _, [] => []
  | met, rule :: rules =>
    if met.contains (kind rule) || !passes rule then firing kind passes met rules
    else rule :: firing kind passes (kind rule :: met) rules

/-- A test on a name: it is one of the listed names, or it contains one of the fragments. -/
structure NameTest where
  exact : List String := []
  fragments : List String := []

def NameTest.passes (t : NameTest) (name : String) : Bool :=
  t.exact.contains name || t.fragments.any (mentions · name)

/-! ### Calls -/

/-- A further condition on a call. -/
inductive Guard
  | always
  /-- The scope, or the type of the variable that it names, contains a fragment in any case. -/
  | scope (fragments : List String)
  /-- The same, but a call without a scope passes too. -/
  | scopeOrAbsent (fragments : List String)
  /-- An argument contains a fragment. -/
  | argument (fragments : List String)
  | hasArguments

/-- How the target of a call rule is written. -/
inductive CallTarget
  /-- The text and the name of the method. -/
  | named (start : String)
  | fixed (text : String)
  /-- The text and the first text argument, or else the name of the method. -/
  | firstText (start : String)

/-- A rule on calls. -/
structure CallRule where
  kind : Kind
  names : NameTest
  guard : Guard := .always
  target : CallTarget

/-- A call with the type of the variable that its scope names, as written. -/
structure CallSite where
  call : Call
  scopeType : Option String

namespace CallSite

/-- Whether the scope or its type contains a fragment; `none` without a scope. -/
def scopeMentions? (site : CallSite) (fragments : List String) : Option Bool :=
  site.call.scopeText?.map fun scope =>
    fragments.any fun f =>
      mentions (asciiLower f) (asciiLower scope) ||
        mentions (asciiLower f) (asciiLower (site.scopeType.getD ""))

/-- The call meets the condition. -/
def meets (site : CallSite) : Guard → Bool
  | .always => true
  | .scope fragments => (site.scopeMentions? fragments).getD false
  | .scopeOrAbsent fragments => (site.scopeMentions? fragments).getD true
  | .argument fragments => site.call.args.any fun a => fragments.any (mentions · a.render)
  | .hasArguments => !site.call.args.isEmpty

def target (site : CallSite) : CallTarget → String
  | .named start => start ++ site.call.name
  | .fixed text => text
  | .firstText start => start ++ (firstText? site.call.args).getD site.call.name

def passes (site : CallSite) (rule : CallRule) : Bool :=
  rule.names.passes site.call.name && site.meets rule.guard

end CallSite

def onCall (rules : List CallRule) (site : CallSite) : List Finding :=
  (firing CallRule.kind site.passes [] rules).flatMap fun rule =>
    emit (site.target rule.target) rule.kind

/-! ### Declared variables -/

/-- Where a variable is declared. -/
inductive Site
  | field
  | parameter
deriving DecidableEq

/-- How the target of a variable rule is written. -/
inductive VariableTarget
  | fixed (text : String)
  /-- The text and the type as written. -/
  | type (start : String)
  /-- The text and the name of the variable. -/
  | name (start : String)

/-- A rule on declared variables. -/
structure VariableRule where
  kind : Kind
  sites : List Site
  names : NameTest
  target : VariableTarget

/-- A declared variable with its type as written. -/
structure VariableUse where
  site : Site
  type : String
  name : String

namespace VariableUse

def passes (use : VariableUse) (rule : VariableRule) : Bool :=
  rule.sites.contains use.site && rule.names.passes use.type

def target (use : VariableUse) : VariableTarget → String
  | .fixed text => text
  | .type start => start ++ use.type
  | .name start => start ++ use.name

end VariableUse

def onVariable (rules : List VariableRule) (use : VariableUse) : List Finding :=
  (firing VariableRule.kind use.passes [] rules).flatMap fun rule =>
    emit (use.target rule.target) rule.kind

end Cartograph.Rules
