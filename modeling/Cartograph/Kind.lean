/-!
# Kinds of dependency

Every dependency that is found has one of these kinds. A kind has a code, which begins with the
number of its category, and a description; its label joins the two.
-/

namespace Cartograph

/-- The families that the kinds belong to. -/
inductive Category
  | typeStructure
  | injection
  | persistence
  | configuration
  | messaging
  | crossCutting
  | security
  | library
  | layering
deriving DecidableEq, Inhabited

def Category.title : Category → String
  | .typeStructure => "type structure"
  | .injection => "dependency injection"
  | .persistence => "persistence"
  | .configuration => "configuration"
  | .messaging => "messaging"
  | .crossCutting => "cross-cutting"
  | .security => "security"
  | .library => "library"
  | .layering => "layering"

def Category.code : Category → String
  | .typeStructure => "type_structure"
  | .injection => "dependency_injection"
  | .persistence => "persistence"
  | .configuration => "configuration"
  | .messaging => "messaging"
  | .crossCutting => "cross_cutting"
  | .security => "security"
  | .library => "library"
  | .layering => "layering"

/-- A kind of dependency. -/
inductive Kind
  | extending
  | implementing
  | genericArgument
  | exceptionType
  | methodCall
  | returnType
  | parameterType
  | staticCall
  | composition
  | collectionElement
  | constantReference
  | localVariable
  | objectCreation
  | arrayElement
  | typeParameterBound
  | setterInjection
  | beanDefinition
  | constructorInjection
  | fieldInjection
  | controller
  | service
  | repository
  | repositoryInterface
  | persistentEntity
  | queryMethod
  | dataTransfer
  | mapper
  | valueInjection
  | configurationProperties
  | profileCondition
  | autoConfiguration
  | buildDependency
  | eventListener
  | httpClient
  | messageListener
  | transaction
  | aspect
  | loggingMetrics
  | beanValidation
  | securityFilterChain
  | httpSecurityRule
  | userDetails
  | userDetailsService
  | passwordEncoder
  | authenticationManager
  | authenticationProvider
  | oncePerRequestFilter
  | methodSecurity
  | roleAuthority
  | securityContext
  | sessionManagement
  | tokenExtraction
  | jwtVerification
  | claimToAuthority
  | loginLogout
  | corsCsrf
  | lombok
  | jackson
  | controllerToService
  | serviceToRepository
  | repositoryToEntity
  | requestBinding
  | testSlice
deriving DecidableEq, Inhabited

namespace Kind

/-- Every kind, in the order of the codes. -/
def all : List Kind :=
  [.extending, .implementing, .genericArgument, .exceptionType, .methodCall, .returnType,
    .parameterType, .staticCall, .composition, .collectionElement, .constantReference,
    .localVariable, .objectCreation, .arrayElement, .typeParameterBound, .setterInjection,
    .beanDefinition, .constructorInjection, .fieldInjection, .controller, .service, .repository,
    .repositoryInterface, .persistentEntity, .queryMethod, .dataTransfer, .mapper, .valueInjection,
    .configurationProperties, .profileCondition, .autoConfiguration, .buildDependency,
    .eventListener, .httpClient, .messageListener, .transaction, .aspect, .loggingMetrics,
    .beanValidation, .securityFilterChain, .httpSecurityRule, .userDetails, .userDetailsService,
    .passwordEncoder, .authenticationManager, .authenticationProvider, .oncePerRequestFilter,
    .methodSecurity, .roleAuthority, .securityContext, .sessionManagement, .tokenExtraction,
    .jwtVerification, .claimToAuthority, .loginLogout, .corsCsrf, .lombok, .jackson,
    .controllerToService, .serviceToRepository, .repositoryToEntity, .requestBinding, .testSlice]

def code : Kind → String
  | .extending => "001_001"
  | .implementing => "001_002"
  | .genericArgument => "001_003"
  | .exceptionType => "001_004"
  | .methodCall => "001_005"
  | .returnType => "001_006"
  | .parameterType => "001_007"
  | .staticCall => "001_008"
  | .composition => "001_009"
  | .collectionElement => "001_010"
  | .constantReference => "001_011"
  | .localVariable => "001_012"
  | .objectCreation => "001_013"
  | .arrayElement => "001_014"
  | .typeParameterBound => "001_015"
  | .setterInjection => "002_001"
  | .beanDefinition => "002_002"
  | .constructorInjection => "002_003"
  | .fieldInjection => "002_004"
  | .controller => "002_005"
  | .service => "002_006"
  | .repository => "002_007"
  | .repositoryInterface => "003_001"
  | .persistentEntity => "003_002"
  | .queryMethod => "003_003"
  | .dataTransfer => "003_004"
  | .mapper => "003_005"
  | .valueInjection => "004_001"
  | .configurationProperties => "004_002"
  | .profileCondition => "004_003"
  | .autoConfiguration => "004_004"
  | .buildDependency => "004_005"
  | .eventListener => "005_001"
  | .httpClient => "005_002"
  | .messageListener => "005_003"
  | .transaction => "006_001"
  | .aspect => "006_002"
  | .loggingMetrics => "006_003"
  | .beanValidation => "006_004"
  | .securityFilterChain => "007_001"
  | .httpSecurityRule => "007_002"
  | .userDetails => "007_003"
  | .userDetailsService => "007_004"
  | .passwordEncoder => "007_005"
  | .authenticationManager => "007_006"
  | .authenticationProvider => "007_007"
  | .oncePerRequestFilter => "007_008"
  | .methodSecurity => "007_009"
  | .roleAuthority => "007_010"
  | .securityContext => "007_011"
  | .sessionManagement => "007_012"
  | .tokenExtraction => "007_013"
  | .jwtVerification => "007_014"
  | .claimToAuthority => "007_015"
  | .loginLogout => "007_016"
  | .corsCsrf => "007_017"
  | .lombok => "008_001"
  | .jackson => "008_002"
  | .controllerToService => "009_001"
  | .serviceToRepository => "009_002"
  | .repositoryToEntity => "009_003"
  | .requestBinding => "009_004"
  | .testSlice => "009_005"

/-- What the kind stands for, in words. -/
def description : Kind → String
  | .extending => "extends"
  | .implementing => "implements"
  | .genericArgument => "generic type argument"
  | .exceptionType => "exception type"
  | .methodCall => "method call"
  | .returnType => "return type"
  | .parameterType => "parameter type"
  | .staticCall => "static method call"
  | .composition => "composition"
  | .collectionElement => "collection element"
  | .constantReference => "constant reference"
  | .localVariable => "local variable type"
  | .objectCreation => "object creation"
  | .arrayElement => "array element type"
  | .typeParameterBound => "type parameter bound"
  | .setterInjection => "setter injection"
  | .beanDefinition => "bean definition"
  | .constructorInjection => "constructor injection"
  | .fieldInjection => "field injection"
  | .controller => "controller"
  | .service => "service"
  | .repository => "repository"
  | .repositoryInterface => "JPA repository"
  | .persistentEntity => "JPA entity"
  | .queryMethod => "query method"
  | .dataTransfer => "DTO"
  | .mapper => "mapper"
  | .valueInjection => "value injection"
  | .configurationProperties => "configuration properties"
  | .profileCondition => "profile condition"
  | .autoConfiguration => "auto-configuration"
  | .buildDependency => "build dependency"
  | .eventListener => "event listener"
  | .httpClient => "HTTP client"
  | .messageListener => "message listener"
  | .transaction => "transaction"
  | .aspect => "aspect"
  | .loggingMetrics => "logging and metrics"
  | .beanValidation => "bean validation"
  | .securityFilterChain => "SecurityFilterChain"
  | .httpSecurityRule => "HttpSecurity rule"
  | .userDetails => "UserDetails"
  | .userDetailsService => "UserDetailsService"
  | .passwordEncoder => "PasswordEncoder"
  | .authenticationManager => "AuthenticationManager"
  | .authenticationProvider => "AuthenticationProvider"
  | .oncePerRequestFilter => "OncePerRequestFilter"
  | .methodSecurity => "method security"
  | .roleAuthority => "role or authority"
  | .securityContext => "SecurityContext"
  | .sessionManagement => "session management"
  | .tokenExtraction => "token extraction"
  | .jwtVerification => "JWT signing and verification"
  | .claimToAuthority => "claim to authority"
  | .loginLogout => "login and logout"
  | .corsCsrf => "CORS and CSRF"
  | .lombok => "Lombok"
  | .jackson => "Jackson"
  | .controllerToService => "controller to service"
  | .serviceToRepository => "service to repository"
  | .repositoryToEntity => "repository to entity"
  | .requestBinding => "request binding"
  | .testSlice => "test slice"

def category : Kind → Category
  | .extending => .typeStructure
  | .implementing => .typeStructure
  | .genericArgument => .typeStructure
  | .exceptionType => .typeStructure
  | .methodCall => .typeStructure
  | .returnType => .typeStructure
  | .parameterType => .typeStructure
  | .staticCall => .typeStructure
  | .composition => .typeStructure
  | .collectionElement => .typeStructure
  | .constantReference => .typeStructure
  | .localVariable => .typeStructure
  | .objectCreation => .typeStructure
  | .arrayElement => .typeStructure
  | .typeParameterBound => .typeStructure
  | .setterInjection => .injection
  | .beanDefinition => .injection
  | .constructorInjection => .injection
  | .fieldInjection => .injection
  | .controller => .injection
  | .service => .injection
  | .repository => .injection
  | .repositoryInterface => .persistence
  | .persistentEntity => .persistence
  | .queryMethod => .persistence
  | .dataTransfer => .persistence
  | .mapper => .persistence
  | .valueInjection => .configuration
  | .configurationProperties => .configuration
  | .profileCondition => .configuration
  | .autoConfiguration => .configuration
  | .buildDependency => .configuration
  | .eventListener => .messaging
  | .httpClient => .messaging
  | .messageListener => .messaging
  | .transaction => .crossCutting
  | .aspect => .crossCutting
  | .loggingMetrics => .crossCutting
  | .beanValidation => .crossCutting
  | .securityFilterChain => .security
  | .httpSecurityRule => .security
  | .userDetails => .security
  | .userDetailsService => .security
  | .passwordEncoder => .security
  | .authenticationManager => .security
  | .authenticationProvider => .security
  | .oncePerRequestFilter => .security
  | .methodSecurity => .security
  | .roleAuthority => .security
  | .securityContext => .security
  | .sessionManagement => .security
  | .tokenExtraction => .security
  | .jwtVerification => .security
  | .claimToAuthority => .security
  | .loginLogout => .security
  | .corsCsrf => .security
  | .lombok => .library
  | .jackson => .library
  | .controllerToService => .layering
  | .serviceToRepository => .layering
  | .repositoryToEntity => .layering
  | .requestBinding => .layering
  | .testSlice => .layering

/-- The label of an arrow: code and description. -/
def label (k : Kind) : String := k.code ++ "_" ++ k.description

def ofCode? (code : String) : Option Kind := all.find? (·.code == code)

end Kind

end Cartograph
