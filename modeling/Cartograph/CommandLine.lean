import Cartograph.Text.Dotted
import Cartograph.Uuid

/-!
# The command line

What can be asked for on the command line, and how it is read. Options of the program stand before
the command, those of a command after it, in any order with its arguments; none stands twice.
-/

namespace Cartograph

open Text

/-! ### Options -/

/-- An option: its long name, its short one if it has one, and whether a value follows it. -/
structure OptionForm where
  long : String
  short : Option Char := none
  hasValue : Bool := true

/-- What was read of a command line: the values of the options by their long names, the arguments,
and what remains. -/
structure ReadOptions where
  values : List (String × String) := []
  arguments : List String := []
  rest : List String := []

namespace ReadOptions

/-- The option that asks for help. -/
def help : OptionForm := { long := "help", short := some 'h', hasValue := false }

/-- A text that can follow an option as its value. -/
def isValue (s : String) : Bool := s == "-" || !s.startsWith "-"

/-- The value of an option: the one given with it, or else the next text; and what remains. -/
def valueFor (given : Option String) (rest : List String) : Option (String × List String) :=
  match given, rest with
  | some v, rest => some (v, rest)
  | none, v :: rest => if isValue v then some (v, rest) else none
  | none, [] => none

/-- Reads an option with a long name, with or without a value behind an equals sign. -/
def long? (forms : List OptionForm) (body : List Char) (rest : List String) :
    Option (List (String × String) × List String) :=
  let name := String.ofList (body.takeWhile (· != '='))
  let given := match body.dropWhile (· != '=') with
    | [] => none
    | _ :: value => some (String.ofList value)
  (forms.find? (·.long == name)).bind fun form =>
    if form.hasValue then (valueFor given rest).map fun (v, rest) => ([(name, v)], rest)
    else if given.isSome then none
    else some ([(name, "")], rest)

/-- Reads options with short names, of which the last one may have a value. -/
def short? (forms : List OptionForm) (rest : List String) :
    List Char → Option (List (String × String) × List String)
  | [] => some ([], rest)
  | c :: cs =>
    (forms.find? (·.short == some c)).bind fun form =>
      if form.hasValue then
        let given := match cs with
          | [] => none
          | '=' :: value => some (String.ofList value)
          | value => some (String.ofList value)
        (valueFor given rest).map fun (v, rest) => ([(form.long, v)], rest)
      else (short? forms rest cs).map fun (values, rest) => ((form.long, "") :: values, rest)

/-- Reads options and arguments up to the end; or up to the first argument, if that is a command. -/
def read? (forms : List OptionForm) (upToCommand : Bool) : Nat → List String → Option ReadOptions
  | _, [] => some {}
  | 0, _ => none
  | fuel + 1, arg :: rest =>
    let goOn (read : Option (List (String × String) × List String)) : Option ReadOptions :=
      read.bind fun (values, rest) =>
        if values.any (·.1 == help.long) then some { values }
        else
          (read? forms upToCommand fuel rest).map fun r => { r with values := values ++ r.values }
    match arg.toList with
    | ['-', '-'] => if upToCommand then none else some { arguments := rest }
    | '-' :: '-' :: body => goOn (long? forms body rest)
    | '-' :: c :: cs => goOn (short? forms rest (c :: cs))
    | _ =>
      if upToCommand then some { rest := arg :: rest }
      else
        (read? forms upToCommand fuel rest).map fun r => { r with arguments := arg :: r.arguments }

def value? (r : ReadOptions) (name : String) : Option String := r.values.lookup name

def has (r : ReadOptions) (name : String) : Bool := (r.value? name).isSome

/-- No option was given twice, and no path is empty. -/
def isSound (r : ReadOptions) (paths : List String) : Bool :=
  decide (r.values.map (·.1)).Nodup && paths.all fun name => r.value? name != some ""

end ReadOptions

/-! ### Commands -/

/-- What the program can do. -/
inductive Command
  | analyze (root pattern : String) (json : Bool)
  | endpoints (root pattern : String) (json : Bool)
  | diagram (endpoint : Uuid) (project : Option Uuid) (json : Bool) (target : Option String)
  | kinds (json : Bool)
deriving DecidableEq

/-- A command and where its settings and its store are. -/
structure Invocation where
  settings : String := "atlas.toml"
  store : Option String := none
  verbose : Bool := false
  command : Command
deriving DecidableEq

/-- What is asked for on the command line. -/
inductive Request
  | run (invocation : Invocation)
  | help
deriving DecidableEq

namespace Command

/-- The forms of an option that takes a pattern and of one that asks for JSON. -/
def pattern : OptionForm := { long := "pattern", short := some 'p' }
def json : OptionForm := { long := "json", hasValue := false }

def onRoot? (make : String → String → Bool → Command) (args : List String) :
    Option (Option Command) :=
  (ReadOptions.read? [ReadOptions.help, pattern, json] false args.length args).bind fun r =>
    if r.has "help" then some none
    else
      match r.isSound [], r.arguments with
      | true, [root] =>
        if root = "" then none
        else some (some (make root ((r.value? "pattern").getD "**") (r.has "json")))
      | _, _ => none

def diagram? (args : List String) : Option (Option Command) :=
  let forms : List OptionForm :=
    [ReadOptions.help, { long := "project", short := some 'p' }, json,
      { long := "export", short := some 'e' }]
  (ReadOptions.read? forms false args.length args).bind fun r =>
    if r.has "help" then some none
    else
      match r.isSound ["export"], r.arguments with
      | true, [endpoint] =>
        (Uuid.parse? endpoint).bind fun endpoint =>
          match r.value? "project" with
          | none => some (some (.diagram endpoint none (r.has "json") (r.value? "export")))
          | some project =>
            (Uuid.parse? project).map fun project =>
              some (.diagram endpoint (some project) (r.has "json") (r.value? "export"))
      | _, _ => none

def kinds? (args : List String) : Option (Option Command) :=
  (ReadOptions.read? [ReadOptions.help, json] false args.length args).bind fun r =>
    if r.has "help" then some none
    else if r.isSound [] && r.arguments.isEmpty then some (some (.kinds (r.has "json")))
    else none

def names : List String := ["analyze", "endpoints", "diagram", "kinds", "help"]

/-- Reads a command; the inner `none` asks for help, with all commands or with one of them. -/
def read? (name : String) (args : List String) : Option (Option Command) :=
  if name = "analyze" then onRoot? .analyze args
  else if name = "endpoints" then onRoot? .endpoints args
  else if name = "diagram" then diagram? args
  else if name = "kinds" then kinds? args
  else if name = "help" && args.length ≤ 1 && args.all names.contains then some none
  else none

end Command

/-- Reads a command line; `none` if it is malformed. -/
def Request.read? (args : List String) : Option Request :=
  let forms : List OptionForm :=
    [ReadOptions.help, { long := "config", short := some 'c' },
      { long := "store", short := some 's' },
      { long := "verbose", short := some 'v', hasValue := false }]
  (ReadOptions.read? forms true args.length args).bind fun r =>
    if r.has "help" then some .help
    else
      match r.isSound ["config", "store"], r.rest with
      | true, name :: args =>
        (Command.read? name args).map fun command =>
          match command with
          | none => .help
          | some command =>
            .run { settings := (r.value? "config").getD "atlas.toml", store := r.value? "store"
                   verbose := r.has "verbose", command }
      | _, _ => none

end Cartograph
