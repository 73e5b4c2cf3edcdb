import Cartograph.Member
import Cartograph.Rules.Concern
import Cartograph.Rules.Layering
import Cartograph.Rules.Messaging
import Cartograph.Rules.Persistence
import Cartograph.Rules.Security
import Cartograph.Rules.Structure
import Cartograph.Rules.Usage

/-!
# Classification

All rules run over a class, family by family, and over the classes of a source file.
-/

namespace Cartograph

open Java

/-- All findings of a class: type structure, wiring with persistence, configuration and messaging,
concerns, security, uses, and layers. -/
def ClassView.findings (v : ClassView) : List Finding :=
  Rules.typeStructure v ++
    (Rules.wiring v ++ Rules.persistence v ++ Rules.configuration v ++ Rules.messaging v) ++
    Rules.concerns v ++ Rules.security v ++ Rules.usage v ++ Rules.layering v

/-- What is found out about a registered class. -/
structure ClassFindings where
  classId : ClassId
  findings : List Finding
  members : List Member

/-- What is found out about a top-level class of a source file, if it is registered. -/
def Resolver.classify? (r : Resolver) (u : SourceUnit) (d : Decl) : Option ClassFindings :=
  let key := classKey (u.package.getD "") d.name
  (r.registry.lookup? key).map fun id =>
    let view : ClassView := ⟨d, key, Scope.ofUnit u, r⟩
    ⟨id, view.findings, view.members id⟩

/-- What is found out about the registered classes of a source file, in order. -/
def Resolver.classifyUnit (r : Resolver) (u : SourceUnit) : List ClassFindings :=
  u.types.filterMap (r.classify? u)

end Cartograph
