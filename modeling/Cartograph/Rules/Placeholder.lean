import Cartograph.Text.Blank

/-!
# Placeholders

Property keys in a text: a dollar sign and a brace open a placeholder, the key runs to a colon or to
the closing brace, and what follows a colon is a default.
-/

namespace Cartograph.Rules

open Text

/-- The characters that a key cannot contain. -/
def endsKey (c : Char) : Bool := c == '}' || c == ':'

/-- The placeholder at the beginning of the characters: its key, and its length. -/
def placeholderAt? : List Char → Option (List Char × Nat)
  | '$' :: '{' :: cs =>
    let key := cs.takeWhile fun c => !endsKey c
    if key.isEmpty then none
    else
      match cs.drop key.length with
      | '}' :: _ => some (key, key.length + 3)
      | ':' :: rest =>
        let value := rest.takeWhile (· != '}')
        if value.length < rest.length then some (key, key.length + value.length + 4) else none
      | _ => none
  | _ => none

/-- The keys of the placeholders, after passing over so many characters. -/
def keysAfter : Nat → List Char → List (List Char)
  | _, [] => []
  | n + 1, _ :: cs => keysAfter n cs
  | 0, c :: cs =>
    match placeholderAt? (c :: cs) with
    | some (key, length) => key :: keysAfter (length - 1) cs
    | none => keysAfter 0 cs

/-- The trimmed keys of the placeholders in a text, blank ones left out. -/
def placeholderKeys (s : String) : List String :=
  ((keysAfter 0 s.toList).map fun key => trim (String.ofList key)).filter (· ≠ "")

end Cartograph.Rules
