import Cartograph.Text.Dotted

/-!
# JSON

The values that results are made of, and how they are printed: every item on a line of its own, two
blanks deeper than what holds it.
-/

namespace Cartograph

open Text

/-- A value of JSON; numbers are counts. -/
inductive JsonValue
  | null
  | number (n : Nat)
  | text (s : String)
  | array (items : List JsonValue)
  | object (entries : List (String × JsonValue))

namespace JsonValue

def texts (ss : List String) : JsonValue := .array (ss.map .text)

/-- The text, or null if there is none. -/
def ofText? : Option String → JsonValue
  | some s => .text s
  | none => .null

/-- A character within quotes. -/
def escaped (c : Char) : List Char :=
  if c = '"' then ['\\', '"']
  else if c = '\\' then ['\\', '\\']
  else if c = '\n' then ['\\', 'n']
  else if c = '\r' then ['\\', 'r']
  else if c = '\t' then ['\\', 't']
  else if c.toNat = 8 then ['\\', 'b']
  else if c.toNat = 12 then ['\\', 'f']
  else if c.toNat < 0x20 then
    ['\\', 'u', '0', '0', Nat.digitChar (c.toNat / 16), Nat.digitChar (c.toNat % 16)]
  else [c]

def quoted (s : String) : String := "\"" ++ String.ofList (s.toList.flatMap escaped) ++ "\""

/-- The beginning of a line so deep. -/
def margin (depth : Nat) : String := String.ofList (List.replicate (2 * depth) ' ')

/-- Items on lines of their own between brackets. -/
def block (left right : String) (depth : Nat) (items : List String) : String :=
  if items.isEmpty then left ++ right
  else
    left ++ "\n" ++ ",\n".intercalate (items.map (margin (depth + 1) ++ ·)) ++ "\n" ++
      margin depth ++ right

mutual

/-- The value so deep. -/
def renderAt (depth : Nat) : JsonValue → String
  | .null => "null"
  | .number n => Nat.repr n
  | .text s => quoted s
  | .array items => block "[" "]" depth (renderItems (depth + 1) items)
  | .object entries => block "\x7b" "\x7d" depth (renderEntries (depth + 1) entries)

def renderItems (depth : Nat) : List JsonValue → List String
  | [] => []
  | v :: vs => renderAt depth v :: renderItems depth vs

def renderEntries (depth : Nat) : List (String × JsonValue) → List String
  | [] => []
  | (k, v) :: es => (quoted k ++ ": " ++ renderAt depth v) :: renderEntries depth es

end

/-- The value as text. -/
def render (v : JsonValue) : String := renderAt 0 v

end JsonValue

end Cartograph
