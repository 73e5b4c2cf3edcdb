import Cartograph.Rules.Injection

/-!
# Persistence

Repositories with their queries, entities, data transfer objects and mappers.
-/

namespace Cartograph.Rules

open Text Java

/-- The repository types that the class extends. -/
def repositoryTypes (v : ClassView) : List Finding :=
  v.decl.superTypes.flatMap fun t =>
    if t.className?.any (mentions "JpaRepository") then
      emitType (v.resolveType? t) .repositoryInterface
    else []

/-- The queries of a repository interface: by the beginning of their name or by annotation. -/
def queries (v : ClassView) : List Finding :=
  let parents := v.decl.superTypes.filterMap (·.className?)
  let extendsRepository := parents.any (·.endsWith "Repository")
  if v.decl.kind = .interfaceType && (v.isRepository || extendsRepository) then
    v.decl.methods.flatMap fun m =>
      if queryBeginnings.any (m.name.startsWith ·) || isAnnotated m.annotations "Query" then
        emit m.name .queryMethod
      else []
  else []

/-- The class only carries data, by its package or its name. -/
def dataTransfer (v : ClassView) : List Finding :=
  if mentions "dto" (asciiLower v.package) || v.simpleName.endsWith "Dto" ||
      v.simpleName.endsWith "DTO"
  then emit v.fqn .dataTransfer
  else []

/-- The types that the mapping methods of a mapper take and give. -/
def mappers (v : ClassView) : List Finding :=
  if v.isAnnotated "Mapper" then
    emit v.fqn .mapper ++
      v.decl.methods.flatMap fun m =>
        if isAnnotated m.annotations "Mapping" || isAnnotated m.annotations "Mappings" then
          parameterTypes v .mapper m.params ++ emitType (v.resolveType? m.returns.element) .mapper
        else []
  else []

def persistence (v : ClassView) : List Finding :=
  repositoryTypes v ++ (if v.isAnnotated "Entity" then emit v.fqn .persistentEntity else []) ++
    queries v ++ dataTransfer v ++ mappers v

end Cartograph.Rules
