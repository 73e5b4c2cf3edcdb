import Cartograph.ClassView
import Cartograph.Finding
import Cartograph.Rules.Names

/-!
# Injection

Roles of beans, and the types that are injected into them through setters, constructors and fields
or defined by their methods.
-/

namespace Cartograph.Rules

open Text Java

/-- The roles that the class declares by its annotations. -/
def roles (v : ClassView) : List Finding :=
  (if v.isController then emit v.fqn .controller else []) ++
    (if v.isService then emit v.fqn .service else []) ++
    (if v.isAnnotated "Repository" then emit v.fqn .repository else [])

def asksForInjection (annotations : List AnnotationUse) : Bool :=
  injectionMarkers.any (isAnnotated annotations)

/-- The class types of parameters. -/
def parameterTypes (v : ClassView) (kind : Kind) (params : List Param) : List Finding :=
  params.flatMap fun p => emitType (v.resolveType? p.type.element) kind

/-- Injection through setters, constructors and fields; a single constructor needs no annotation. -/
def injection (v : ClassView) (d : Decl) : List Finding :=
  d.methods.flatMap (fun m =>
    if asksForInjection m.annotations && m.name.startsWith "set" then
      parameterTypes v .setterInjection m.params
    else []) ++
  d.constructors.flatMap (fun c =>
    if asksForInjection c.annotations || d.constructors.length == 1 then
      parameterTypes v .constructorInjection c.params
    else []) ++
  d.fields.flatMap fun f =>
    if asksForInjection f.annotations then emitType (v.resolveType? f.type.element) .fieldInjection
    else []

/-- Injection into a bean through a generated constructor, which takes the final fields or all. -/
def generatedConstructor (v : ClassView) : List Finding :=
  let all := v.isAnnotated "AllArgsConstructor"
  if v.decl.constructors.isEmpty && v.isComponent &&
      (all || v.isAnnotated "RequiredArgsConstructor") then
    (v.decl.fields.filter fun f => !f.modifiers.isStatic && (all || f.modifiers.isFinal)).flatMap
      fun f => emitType (v.resolveType? f.type.element) .constructorInjection
  else []

def beanMethods (v : ClassView) : List Method :=
  v.decl.methods.filter fun m => isAnnotated m.annotations "Bean"

/-- The types of the beans that a configuration defines. -/
def beanDefinitions (v : ClassView) : List Finding :=
  if v.isConfiguration then
    (beanMethods v).flatMap fun m => emitType (v.resolveType? m.returns.element) .beanDefinition
  else []

def wiring (v : ClassView) : List Finding :=
  roles v ++ v.declarations.flatMap (injection v) ++ generatedConstructor v ++ beanDefinitions v

end Cartograph.Rules
