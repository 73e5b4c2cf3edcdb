import Cartograph.Rules.Configuration

/-!
# Messaging

Declared web clients, listeners for events and listeners for messages.
-/

namespace Cartograph.Rules

open Text Java

/-- The service that a declared web client talks to. -/
def webClient (v : ClassView) : List Finding :=
  if v.decl.kind = .interfaceType then
    match annotationNamed? v.decl.annotations "FeignClient" with
    | some a =>
      emit ((a.textAttr? ["name", "value", "url"]).getD ("FeignClient:" ++ v.simpleName))
        .httpClient
    | none => []
  else []

/-- The events that a method listens for: its parameters and the classes that its
annotation lists. -/
def listenedEvents (v : ClassView) (m : Method) : List Finding :=
  match eventListeners.findSome? (annotationNamed? m.annotations) with
  | some listener =>
    parameterTypes v .eventListener m.params ++
      ["classes", "value"].flatMap fun key =>
        ((listener.attr? key).map classLiterals |>.getD []).flatMap fun name =>
          emitType (some (v.resolve name)) .eventListener
  | none => []

/-- What the listener annotation of a broker says, if the method carries it. -/
def listened (m : Method) (name : String) (target : AnnotationUse → String) : List Finding :=
  match annotationNamed? m.annotations name with
  | some a => emit (target a) .messageListener
  | none => []

def listenedMessages (m : Method) : List Finding :=
  listened m "KafkaListener" (fun a =>
    let topics := a.textList ["topics"]
    if !topics.isEmpty then "kafka:topic:" ++ ",".intercalate topics
    else
      match a.textAttr? ["topicPattern"] with
      | some pattern => "kafka:pattern:" ++ pattern
      | none => "kafka:listener:" ++ m.name) ++
  listened m "RabbitListener" (fun a =>
    let queues := a.textList ["queues", "queue"]
    if queues.isEmpty then "rabbitmq:listener:" ++ m.name
    else "rabbitmq:queue:" ++ ",".intercalate queues) ++
  listened m "JmsListener" fun a =>
    match a.textAttr? ["destination"] with
    | some destination => "jms:destination:" ++ destination
    | none => "jms:listener:" ++ m.name

def messaging (v : ClassView) : List Finding :=
  webClient v ++ v.declarations.flatMap fun d =>
    d.methods.flatMap (listenedEvents v) ++ d.methods.flatMap listenedMessages

end Cartograph.Rules
