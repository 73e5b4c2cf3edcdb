import Cartograph.ClassView
import Cartograph.Finding
import Cartograph.Rules.Names

/-!
# Cross-cutting concerns

Transactions, aspects, logging and metrics, validation, and annotations of code generators and of
JSON mapping.
-/

namespace Cartograph.Rules

open Text Java

/-! ### Transactions and aspects -/

/-- A transaction with the settings that its annotation makes. -/
def transactionText (a : AnnotationUse) : String :=
  "Transaction" ++ String.join (["propagation", "isolation", "timeout", "readOnly"].map fun key =>
    match a.renderedAttr? key with
    | some value => ":" ++ key ++ "=" ++ simpleName (trim value)
    | none => "")

def transactions (v : ClassView) : List Finding :=
  (if v.isAnnotated "Transactional" then emit "Transaction:class-level" .transaction else []) ++
    v.declarations.flatMap fun d => d.methods.flatMap fun m =>
      match annotationNamed? m.annotations "Transactional" with
      | some a => emit (transactionText a) .transaction
      | none => []

/-- An aspect with its advice. -/
def aspects (v : ClassView) : List Finding :=
  if v.isAnnotated "Aspect" then
    emit ("Aspect:" ++ v.simpleName) .aspect ++
      v.decl.methods.flatMap fun m =>
        (m.annotations.filter fun a => isOneOf a.name adviceNames).flatMap fun a =>
          match a.textAttr? ["value", "pointcut"] with
          | some expression => emit ("Pointcut:" ++ expression) .aspect
          | none => emit ("Advice:" ++ m.name) .aspect
  else []

/-! ### Logging and metrics -/

def metrics (m : Method) : List Finding :=
  ["Timed", "Counted"].flatMap fun metric =>
    match annotationNamed? m.annotations metric with
    | some a =>
      emit ("Metric:" ++ metric ++ ":" ++ (a.textAttr? ["value", "name"]).getD m.name)
        .loggingMetrics
    | none => []

def loggerField (v : ClassView) (f : Field) : List Finding :=
  match v.resolveType? f.type with
  | some resolved =>
    if loggerTypes.contains resolved then emit ("Logger:" ++ resolved) .loggingMetrics else []
  | none => []

/-- Metrics and loggers, generated loggers included. -/
def loggingAndMetrics (v : ClassView) : List Finding :=
  v.declarations.flatMap (fun d => d.methods.flatMap metrics ++ d.fields.flatMap (loggerField v)) ++
    lombokLoggers.flatMap fun (name, logger) =>
      if v.isAnnotated name then emit ("Logger:" ++ logger) .loggingMetrics else []

/-! ### Validation -/

/-- The annotations that constrain a value. -/
def constraints (annotations : List AnnotationUse) : List AnnotationUse :=
  annotations.filter fun a => isOneOf a.name constraintNames

def parameterValidation (p : Param) : List Finding :=
  (if p.annotations.any fun a => isOneOf a.name validMarkers then
    emit ("Validation:@Valid:" ++ p.name) .beanValidation
  else []) ++
  (constraints p.annotations).flatMap fun a =>
    emit ("Validation:" ++ a.simpleName ++ ":" ++ p.name) .beanValidation

/-- The validation of fields, components and parameters. -/
def validation (v : ClassView) : List Finding :=
  v.declarations.flatMap fun d =>
    (d.fields.map (·.annotations) ++ d.components.map (·.annotations)).flatMap (fun annotations =>
      (constraints annotations).flatMap fun a =>
        emit ("Validation:" ++ a.simpleName) .beanValidation) ++
    d.methods.flatMap (fun m => m.params.flatMap parameterValidation) ++
    d.constructors.flatMap fun c => c.params.flatMap parameterValidation

/-! ### Libraries -/

/-- The generators among the annotations. -/
def generators (names : List String) (annotations : List AnnotationUse) : List Finding :=
  (annotations.filter fun a => isLombokName a.name names).flatMap fun a =>
    emit ("Lombok:" ++ a.simpleName) .lombok

/-- The generators on the class and on members. -/
def lombok (v : ClassView) : List Finding :=
  generators lombokOnTypes v.decl.annotations ++
    v.declarations.flatMap fun d =>
      d.fields.flatMap (fun f => generators lombokOnFields f.annotations) ++
        d.methods.flatMap (fun m => generators [] m.annotations) ++
        d.constructors.flatMap fun c => generators lombokOnConstructors c.annotations

/-- The annotations that steer JSON mapping. -/
def jsonMapping (annotations : List AnnotationUse) : List Finding :=
  (annotations.filter fun a => isJacksonName a.name).flatMap fun a =>
    emit ("Jackson:annotation:" ++ a.simpleName) .jackson

/-- JSON mapping on the class, its fields and its methods. -/
def jackson (v : ClassView) : List Finding :=
  jsonMapping v.decl.annotations ++
    v.declarations.flatMap fun d =>
      d.fields.flatMap (fun f => jsonMapping f.annotations) ++
        d.methods.flatMap fun m => jsonMapping m.annotations

/-- Cross-cutting concerns. -/
def concerns (v : ClassView) : List Finding :=
  transactions v ++ aspects v ++ loggingAndMetrics v ++ validation v ++ lombok v ++ jackson v

end Cartograph.Rules
