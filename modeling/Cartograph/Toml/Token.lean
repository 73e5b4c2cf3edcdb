import Cartograph.Uuid

/-!
# The tokens of TOML

Blanks are tokens too, because some values may have none inside. A carriage return counts only
before a line feed, as a part of it.
-/

namespace Cartograph.Toml

/-- A token. -/
inductive Token
  | blanks (text : List Char)
  | newline
  | comment
  | equals
  | period
  | comma
  | colon
  | plus
  | leftBrace
  | rightBrace
  | leftBracket
  | rightBracket
  /-- Letters, digits, hyphens and underscores. -/
  | word (text : List Char)
  /-- A text, and whether it may span lines. -/
  | text (content : String) (multiline : Bool)
deriving DecidableEq

/-- The characters with line ends of one form. -/
def foldLines : List Char → List Char
  | [] => []
  | '\r' :: '\n' :: cs => '\n' :: foldLines cs
  | c :: cs => c :: foldLines cs

/-- A space or a tab. -/
def isBlank (c : Char) : Bool := c == ' ' || c == '\t'

def isWordChar (c : Char) : Bool := c.isAlphanum || c == '-' || c == '_'

def isCommentChar (c : Char) : Bool := c == '\t' || 0x20 ≤ c.toNat

/-- The character may stand in a text as it is. -/
def isTextChar (c : Char) : Bool := isCommentChar c && c.toNat != 0x7F

/-! ### Texts -/

/-- The character with the value, if there is one. -/
def charOf? (n : Nat) : Option Char := if n.isValidChar then some (Char.ofNat n) else none

/-- The character given by so many hexadecimal digits, and what follows them. -/
def hexChar? (count : Nat) (cs : List Char) : Option (Char × List Char) :=
  if (cs.take count).length = count then
    ((Uuid.hexNumber? 0 (cs.take count)).bind charOf?).map fun c => (c, cs.drop count)
  else none

/-- What the characters after a backslash stand for, and what follows them. -/
def escape? (multiline : Bool) : List Char → Option (List Char × List Char)
  | [] => none
  | '"' :: cs => some (['"'], cs)
  | '\\' :: cs => some (['\\'], cs)
  | 'b' :: cs => some ([Char.ofNat 8], cs)
  | 'f' :: cs => some ([Char.ofNat 12], cs)
  | 'n' :: cs => some (['\n'], cs)
  | 'r' :: cs => some (['\r'], cs)
  | 't' :: cs => some (['\t'], cs)
  | 'u' :: cs => (hexChar? 4 cs).map fun (c, rest) => ([c], rest)
  | 'U' :: cs => (hexChar? 8 cs).map fun (c, rest) => ([c], rest)
  | c :: cs =>
    -- The end of a line, and the blanks that begin the next ones, are left out.
    match multiline, (c :: cs).dropWhile isBlank with
    | true, [] => some ([], [])
    | true, '\n' :: rest => some ([], rest.dropWhile fun d => isBlank d || d == '\n')
    | _, _ => none

/-- The text up to its closing quotes, and what follows them, after the characters already read, the
last one first. -/
def textBody (quote : Char) (multiline : Bool) :
    Nat → List Char → List Char → Option (String × List Char)
  | 0, _, _ => none
  | _ + 1, _, [] => none
  | fuel + 1, read, c :: cs =>
    if c = quote then
      if multiline then
        let quotes := 1 + (cs.takeWhile (· == quote)).length
        if quotes < 3 then
          textBody quote multiline fuel (List.replicate quotes quote ++ read) (cs.drop (quotes - 1))
        else
          let kept := min (quotes - 3) 2
          some (String.ofList (List.replicate kept quote ++ read).reverse, cs.drop (kept + 2))
      else some (String.ofList read.reverse, cs)
    else if c = '\n' then
      if multiline then textBody quote multiline fuel ('\n' :: read) cs else none
    else if c = '\\' ∧ quote = '"' then
      match escape? multiline cs with
      | some (stood, rest) => textBody quote multiline fuel (stood.reverse ++ read) rest
      | none => none
    else if isTextChar c then textBody quote multiline fuel (c :: read) cs
    else none

/-- The text after its first quote, and what follows it. -/
def textAfter (quote : Char) (cs : List Char) : Option (Token × List Char) :=
  match cs with
  | a :: b :: rest =>
    if a = quote ∧ b = quote then
      let body := if rest.head? = some '\n' then rest.tail else rest
      (textBody quote true (body.length + 1) [] body).map fun (s, rest) => (.text s true, rest)
    else if a = quote then some (.text "" false, b :: rest)
    else (textBody quote false (cs.length + 1) [] cs).map fun (s, rest) => (.text s false, rest)
  | [a] => if a = quote then some (.text "" false, []) else none
  | [] => none

/-! ### All tokens -/

/-- The sign that the character is. -/
def sign? : Char → Option Token
  | '\n' => some .newline
  | '=' => some .equals
  | '.' => some .period
  | ',' => some .comma
  | ':' => some .colon
  | '+' => some .plus
  | '{' => some .leftBrace
  | '}' => some .rightBrace
  | '[' => some .leftBracket
  | ']' => some .rightBracket
  | _ => none

def firstToken? (c : Char) (cs : List Char) : Option (Token × List Char) :=
  match sign? c with
  | some t => some (t, cs)
  | none =>
    if isBlank c then some (.blanks (c :: cs.takeWhile isBlank), cs.dropWhile isBlank)
    else if c = '#' then some (.comment, cs.dropWhile isCommentChar)
    else if c = '\'' ∨ c = '"' then textAfter c cs
    else if isWordChar c then some (.word (c :: cs.takeWhile isWordChar), cs.dropWhile isWordChar)
    else none

/-- The tokens, as many as the fuel allows. -/
def tokensOf : Nat → List Char → Option (List Token)
  | _, [] => some []
  | 0, _ => none
  | fuel + 1, c :: cs =>
    (firstToken? c cs).bind fun (t, rest) => (tokensOf fuel rest).map (t :: ·)

/-- The tokens of a document; a byte order mark before it does not count. -/
def tokens? (source : String) : Option (List Token) :=
  let cs := foldLines source.toList
  let cs := if cs.head? = some (Char.ofNat 0xFEFF) then cs.tail else cs
  tokensOf cs.length cs

end Cartograph.Toml
