import Cartograph.Text.Dotted

/-!
# Names that the rules know

Annotations are matched by their simple name or by any qualified form of it.
-/

namespace Cartograph.Rules

open Text

/-- A written name is one of the listed ones or a qualified form of one. -/
def isOneOf (written : String) (names : List String) : Bool :=
  names.any (namesMatch written)

/-- Containers whose type arguments are their elements. -/
def collectionTypes : List String :=
  ["Collection", "List", "ArrayList", "LinkedList", "Set", "HashSet", "LinkedHashSet", "TreeSet",
    "SortedSet", "Queue", "Deque", "ArrayDeque", "Map", "HashMap", "LinkedHashMap", "TreeMap",
    "SortedMap", "ConcurrentMap", "ConcurrentHashMap", "Iterable"]

/-- How the names of derived repository queries begin. -/
def queryBeginnings : List String := ["find", "get", "count", "exists", "delete", "save"]

/-- Annotations that constrain a value. -/
def constraintNames : List String :=
  ["NotNull", "NotEmpty", "NotBlank", "Size", "Min", "Max", "Email", "Pattern", "Past", "Future",
    "DecimalMin", "DecimalMax", "Positive", "PositiveOrZero", "Negative", "NegativeOrZero"]

/-- Annotations that ask for the constraints of a value to be checked. -/
def validMarkers : List String := ["Valid", "Validated"]

def lombokOnTypes : List String :=
  ["Getter", "Setter", "Data", "Builder", "AllArgsConstructor", "NoArgsConstructor",
    "RequiredArgsConstructor", "ToString", "EqualsAndHashCode", "Slf4j", "Log", "Log4j2", "Value",
    "With"]

def lombokOnFields : List String := ["Getter", "Setter"]

def lombokOnConstructors : List String :=
  ["AllArgsConstructor", "NoArgsConstructor", "RequiredArgsConstructor"]

/-- Generators of a logger, with the type of the logger. -/
def lombokLoggers : List (String × String) :=
  [("Slf4j", "org.slf4j.Logger"), ("Log4j2", "org.apache.logging.log4j.Logger"),
    ("CommonsLog", "org.apache.commons.logging.Log"), ("Log", "java.util.logging.Logger")]

def loggerTypes : List String :=
  ["org.slf4j.Logger", "org.apache.logging.log4j.Logger", "java.util.logging.Logger",
    "org.apache.commons.logging.Log"]

def adviceNames : List String :=
  ["Around", "Before", "After", "AfterReturning", "AfterThrowing", "Pointcut"]

def guardNames : List String := ["PreAuthorize", "PostAuthorize", "Secured", "RolesAllowed"]

/-- Annotations that bind a parameter to a part of the request. -/
def bindingNames : List String :=
  ["PathVariable", "RequestParam", "RequestBody", "RequestHeader", "CookieValue", "ModelAttribute"]

def sliceNames : List String :=
  ["WebMvcTest", "DataJpaTest", "JsonTest", "WebFluxTest", "DataJdbcTest", "JdbcTest",
    "DataMongoTest", "DataRedisTest", "RestClientTest"]

def injectionMarkers : List String := ["Autowired", "Inject"]

def eventListeners : List String := ["EventListener", "TransactionalEventListener"]

/-- The written name of an annotation that steers JSON mapping. -/
def isJacksonName (written : String) : Bool :=
  (simpleName written).startsWith "Json" || mentions "com.fasterxml.jackson" written

/-- The written name of a generator: by its package, or one of the listed ones. -/
def isLombokName (written : String) (names : List String) : Bool :=
  written.startsWith "lombok." || isOneOf written names

end Cartograph.Rules
