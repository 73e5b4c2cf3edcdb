import Cartograph.Rules.Injection

/-!
# Security

Security that declarations show: base types, beans, guarded methods, and objects that stand for
encoders and authorities.
-/

namespace Cartograph.Rules

open Text Java

/-- Security by the types that the class extends or implements, and by well-known methods. -/
def securityTypes (v : ClassView) : List Finding :=
  let parents := (v.decl.superTypes ++ v.decl.interfaces).map (·.simpleClassName)
  (if parents.any (·.endsWith "UserDetails") then emit "UserDetails:implementation" .userDetails
    else []) ++
    (if v.decl.interfaces.any fun t => mentions "UserDetailsService" t.simpleClassName then
      emit "UserDetailsService:implementation" .userDetailsService
    else []) ++
    (if parents.contains "AuthenticationProvider" then
      emit "AuthenticationProvider:implementation" .authenticationProvider
    else []) ++
    (if parents.contains "OncePerRequestFilter" then
      emit "OncePerRequestFilter:extends" .oncePerRequestFilter
    else []) ++
    v.decl.methods.flatMap fun m =>
      if m.name = "loadUserByUsername" then
        emit "UserDetailsService:loadUserByUsername" .userDetailsService
      else if m.name = "doFilterInternal" then
        emit "OncePerRequestFilter:doFilterInternal" .oncePerRequestFilter
      else []

/-- The security beans that the class defines. -/
def securityBeans (v : ClassView) : List Finding :=
  (beanMethods v).flatMap fun m =>
    let gives (fragment : String) : Bool := mentions fragment m.returns.simpleClassName
    (if gives "SecurityFilterChain" then
      emit ("SecurityFilterChain:" ++ m.name) .securityFilterChain
    else []) ++
    (if gives "PasswordEncoder" then emit ("PasswordEncoder:@Bean:" ++ m.name) .passwordEncoder
      else []) ++
    (if gives "AuthenticationProvider" then
      emit ("AuthenticationProvider:@Bean:" ++ m.name) .authenticationProvider
    else [])

/-- The annotations that guard a class or a method, with what they ask for. -/
def guards (annotations : List AnnotationUse) : List Finding :=
  (annotations.filter fun a => guardNames.any a.isNamed).flatMap fun a =>
    match a.renderedAttr? "value" with
    | some value => emit (a.simpleName ++ ":" ++ value) .methodSecurity
    | none => emit a.simpleName .methodSecurity

/-- Guards on the class, guards switched on by it, and guards on its methods. -/
def methodSecurity (v : ClassView) : List Finding :=
  guards v.decl.annotations ++
    ["EnableMethodSecurity", "EnableGlobalMethodSecurity"].flatMap (fun name =>
      if v.isAnnotated name then emit name .methodSecurity else []) ++
    v.declarations.flatMap fun d => d.methods.flatMap fun m => guards m.annotations

/-- Encoders and authorities that code creates. -/
def securityObjects (v : ClassView) : List Finding :=
  v.declarations.flatMap fun d =>
    (d.bodies v.decl).flatMap fun (body, _) =>
      body.creations.flatMap fun c =>
        let name := c.type.simpleClassName
        (if mentions "PasswordEncoder" name then
          emit ("PasswordEncoder:new:" ++ name) .passwordEncoder
        else []) ++
        (if mentions "GrantedAuthority" name then
          emit ("Role:" ++ (firstText? c.args).getD name) .roleAuthority
        else [])

def security (v : ClassView) : List Finding :=
  securityTypes v ++ securityBeans v ++ methodSecurity v ++ securityObjects v

end Cartograph.Rules
