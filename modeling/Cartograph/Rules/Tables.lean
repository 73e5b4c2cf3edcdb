import Cartograph.Rules.Table

/-!
# The tables of call and variable rules

Calls and variable types that tell of security, of tokens, of web clients and of JSON.
-/

namespace Cartograph.Rules

def callRules : List CallRule :=
  [
    { kind := .httpSecurityRule
      names := {
        exact := ["authorizeHttpRequests", "authorizeRequests", "requestMatchers",
          "antMatchers", "mvcMatchers", "regexMatchers", "permitAll", "authenticated", "hasRole",
          "hasAnyRole", "hasAuthority", "hasAnyAuthority", "access", "denyAll"] }
      target := .named "HttpSecurity:" },
    { kind := .userDetails
      names := {
        exact := ["getAuthorities", "getRoles"]
        fragments := ["GrantedAuthority"] }
      target := .named "GrantedAuthority:" },
    { kind := .passwordEncoder
      names := { fragments := ["PasswordEncoder", "BCrypt", "Argon2", "Pbkdf2"] }
      target := .named "PasswordEncoder:new:" },
    { kind := .authenticationManager
      names := { exact := ["authenticate"] }
      guard := .scopeOrAbsent ["AuthenticationManager"]
      target := .fixed "AuthenticationManager:authenticate" },
    { kind := .roleAuthority
      names := { fragments := ["GrantedAuthority", "ROLE_", "SCOPE_"] }
      target := .firstText "Role:" },
    { kind := .securityContext
      names := { exact := ["getContext"] }
      guard := .scope ["SecurityContextHolder"]
      target := .fixed "SecurityContext:getContext" },
    { kind := .securityContext
      names := { exact := ["getAuthentication", "setAuthentication"] }
      target := .named "SecurityContext:" },
    { kind := .sessionManagement
      names := { exact := ["sessionManagement", "sessionCreationPolicy"] }
      target := .named "SessionManagement:" },
    { kind := .tokenExtraction
      names := { fragments := ["Authorization", "Bearer"] }
      target := .named "TokenExtraction:" },
    { kind := .tokenExtraction
      names := { exact := ["getHeader", "get"] }
      guard := .argument ["Authorization", "Bearer"]
      target := .named "TokenExtraction:" },
    { kind := .jwtVerification
      names := { fragments := ["JWT", "Jwt", "Jws", "Verifier", "Nimbus"] }
      target := .named "JWT:" },
    { kind := .jwtVerification
      names := { exact := ["verify", "parse", "parser", "parserBuilder", "parseSignedClaims"] }
      guard := .scopeOrAbsent ["jwt", "jws", "verifier", "decoder", "parser", "token"]
      target := .named "JWT:" },
    { kind := .claimToAuthority
      names := { fragments := ["getClaim"] }
      target := .named "ClaimToAuthority:" },
    { kind := .claimToAuthority
      names := { fragments := ["GrantedAuthority"] }
      guard := .hasArguments
      target := .named "ClaimToAuthority:" },
    { kind := .loginLogout
      names := {
        exact := ["formLogin", "httpBasic", "logout", "loginPage", "loginProcessingUrl",
          "defaultSuccessUrl", "failureUrl", "logoutUrl", "logoutSuccessUrl"] }
      target := .named "LoginLogout:" },
    { kind := .corsCsrf
      names := { exact := ["cors", "csrf"] }
      target := .named "CorsCsrf:" },
    { kind := .corsCsrf
      names := { exact := ["disable"] }
      target := .fixed "CorsCsrf:disable" },
    { kind := .jackson
      names := {
        exact := ["readValue", "writeValueAsString", "writeValue", "readTree",
          "convertValue", "valueToTree"]
        fragments := ["Json"] }
      guard := .scopeOrAbsent ["ObjectMapper"]
      target := .named "Jackson:ObjectMapper:" }
  ]

def variableRules : List VariableRule :=
  [
    { kind := .httpClient, sites := [.field]
      names := { fragments := ["WebClient"] }
      target := .fixed "WebClient" },
    { kind := .httpClient, sites := [.field]
      names := { fragments := ["RestTemplate"] }
      target := .fixed "RestTemplate" },
    { kind := .httpClient, sites := [.field]
      names := { fragments := ["RestClient"] }
      target := .fixed "RestClient" },
    { kind := .passwordEncoder, sites := [.field]
      names := { fragments := ["PasswordEncoder"] }
      target := .name "PasswordEncoder:field:" },
    { kind := .passwordEncoder, sites := [.parameter]
      names := { fragments := ["PasswordEncoder"] }
      target := .name "PasswordEncoder:parameter:" },
    { kind := .jwtVerification, sites := [.field]
      names := { fragments := ["JWT", "Jws", "JwtDecoder", "JwtEncoder", "Nimbus"] }
      target := .type "JWT:type:" },
    { kind := .jackson, sites := [.field, .parameter]
      names := { fragments := ["ObjectMapper", "JsonNode", "ObjectReader", "ObjectWriter"] }
      target := .type "Jackson:ObjectMapper:" }
  ]

end Cartograph.Rules
