import Cartograph.Java.Token.Number
import Cartograph.Text.Blank
import Cartograph.Text.Dotted

/-!
# Quoted literals

Texts between quotes, text blocks between triple quotes, and characters. A text may have holes: `\`
and an opening brace begin an expression, and the closing brace goes on with the text.
-/

namespace Cartograph.Java.Token

open Text

/-- How a piece of a text ends: with its closing quotes, or where a hole begins. -/
inductive PieceEnd
  | closed
  | hole
deriving DecidableEq

/-- The characters after a backslash and its next character continue a valid escape. -/
def isEscape (c : Char) (cs : List Char) : Bool :=
  if c = 'x' then cs.length ≥ 2 && (cs.take 2).all isHexDigit
  else if c = 'u' then
    (cs.length ≥ 4 && (cs.take 4).all isHexDigit) ||
      match cs with
      | '{' :: h :: rest => isHexDigit h && (rest.dropWhile isHexDigit).head? == some '}'
      | _ => false
  else true

/-- A text up to its closing quote or up to a hole: the piece, its end, and the rest. -/
def takeText : List Char → Option (List Char × PieceEnd × List Char)
  | [] => none
  | '"' :: cs => some (['"'], .closed, cs)
  | '\\' :: '{' :: cs => some (['\\', '{'], .hole, cs)
  | '\\' :: c :: cs =>
    if isEscape c cs then
      (takeText cs).map fun (piece, done, rest) => ('\\' :: c :: piece, done, rest)
    else none
  | c :: cs => (takeText cs).map fun (piece, done, rest) => (c :: piece, done, rest)

/-- A text block up to its closing quotes or up to a hole: the piece, its end, and the rest. -/
def takeBlock : List Char → Option (List Char × PieceEnd × List Char)
  | [] => none
  | '"' :: '"' :: '"' :: cs => some (['"', '"', '"'], .closed, cs)
  | '\\' :: '{' :: cs => some (['\\', '{'], .hole, cs)
  | '\\' :: c :: cs =>
    (takeBlock cs).map fun (piece, done, rest) => ('\\' :: c :: piece, done, rest)
  | c :: cs => (takeBlock cs).map fun (piece, done, rest) => (c :: piece, done, rest)

/-- A character literal after its opening quote, up to and with its closing quote, and the rest. -/
def takeCharacter : List Char → Option (List Char × List Char)
  | [] => none
  | '\x27' :: cs => some (['\x27'], cs)
  | '\n' :: _ => none
  | '\\' :: c :: cs => (takeCharacter cs).map fun (piece, rest) => ('\\' :: c :: piece, rest)
  | '\\' :: [] => none
  | c :: cs => (takeCharacter cs).map fun (piece, rest) => (c :: piece, rest)

/-- What stands between a mark at the beginning and the same mark at the end. -/
def between? (mark s : String) : Option String :=
  (afterStart? mark s).bind (beforeEnd? mark)

/-- A literal without its quotes; a text block also without the blanks at its ends. Escapes stay as
they are written, and text without quotes is only trimmed. -/
def unquote (literal : String) : String :=
  let s := trim literal
  match between? "\"\"\"" s with
  | some inner => trim inner
  | none => (between? "\"" s).getD s

end Cartograph.Java.Token
