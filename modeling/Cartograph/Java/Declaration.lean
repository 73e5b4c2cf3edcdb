import Cartograph.Java.AnnotationUse
import Cartograph.Java.Code

/-!
# Declarations

Types, their members, and the source file that declares them, kept in source order.
-/

namespace Cartograph.Java

open Text

/-- The kind of a declared type. -/
inductive DeclKind
  | classType
  | interfaceType
  | enumType
  | recordType
  | annotationType
deriving DecidableEq, Inhabited

def DeclKind.code : DeclKind → String
  | .classType => "Class"
  | .interfaceType => "Interface"
  | .enumType => "Enum"
  | .recordType => "Record"
  | .annotationType => "Annotation"

/-- Who can see a declaration. -/
inductive Visibility
  | publicAccess
  | protectedAccess
  | privateAccess
  | packageAccess
deriving DecidableEq, Inhabited

def Visibility.code : Visibility → String
  | .publicAccess => "PUBLIC"
  | .protectedAccess => "PROTECTED"
  | .privateAccess => "PRIVATE"
  | .packageAccess => "PACKAGE_PRIVATE"

/-- The modifiers that are kept. -/
structure Modifiers where
  visibility : Visibility := .packageAccess
  isStatic : Bool := false
  isFinal : Bool := false
  isAbstract : Bool := false
deriving DecidableEq, Inhabited

/-- A type parameter with its bounds. -/
structure TypeParam where
  name : String
  bounds : List WrittenType
deriving Inhabited

/-- A parameter of a method or constructor, or a component of a record. -/
structure Param where
  name : String
  type : WrittenType
  annotations : List AnnotationUse
  varargs : Bool
deriving Inhabited

/-- A field declaration; one declaration may name several fields of its type. -/
structure Field where
  modifiers : Modifiers
  annotations : List AnnotationUse
  type : WrittenType
  names : List String
  line : Nat

/-- A method declaration. -/
structure Method where
  name : String
  modifiers : Modifiers
  annotations : List AnnotationUse
  typeParams : List TypeParam
  returns : WrittenType
  params : List Param
  throws : List WrittenType
  body : Body
  line : Nat

/-- A constructor declaration. -/
structure Constructor where
  name : String
  modifiers : Modifiers
  annotations : List AnnotationUse
  params : List Param
  throws : List WrittenType
  body : Body
  line : Nat

/-- A type declaration. The code outside methods and constructors is in `initializers`. -/
structure Decl where
  name : String
  kind : DeclKind
  modifiers : Modifiers := {}
  annotations : List AnnotationUse := []
  typeParams : List TypeParam := []
  superTypes : List WrittenType := []
  interfaces : List WrittenType := []
  fields : List Field := []
  methods : List Method := []
  constructors : List Constructor := []
  components : List Param := []
  initializers : Body := {}
  nested : List Decl := []
  line : Nat := 0

instance : Inhabited Decl := ⟨{ name := "", kind := .classType }⟩

namespace Decl

def isAnnotated (d : Decl) (name : String) : Bool := Java.isAnnotated d.annotations name

/-- The type of the field with the name, of the first declaration that names it. -/
def fieldType? (d : Decl) (name : String) : Option WrittenType :=
  (d.fields.find? (·.names.contains name)).map (·.type)

/-- The declarations nested in one are together smaller than it. -/
theorem totalSize_nested (d : Decl) : totalSize d.nested < sizeOf d := by
  have := totalSize_lt d.nested
  cases d
  simp only [mk.sizeOf_spec] at *
  omega

/-- The declaration followed by all nested declarations, outer before inner, left to right. -/
def selfAndNested (d : Decl) : List Decl := unstack nested totalSize_nested [d]

end Decl

/-- An import; the path is without the trailing `.*`. -/
structure Import where
  path : String
  isStatic : Bool := false
  isWildcard : Bool := false
deriving Inhabited

def Import.simpleName (i : Import) : String := Text.simpleName i.path

/-- A source file: its package, if it declares one, its imports and its types. -/
structure SourceUnit where
  path : String := ""
  package : Option String := none
  imports : List Import := []
  types : List Decl := []
  hasSyntaxErrors : Bool := false
deriving Inhabited

end Cartograph.Java
