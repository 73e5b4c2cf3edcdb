import Cartograph.Java.Token.Gap
import Cartograph.Java.Token.Number
import Cartograph.Java.Token.Quoted
import Cartograph.Text.Word

/-!
# Tokens

Source text as a list of tokens. Each token keeps the gap before it, so that the text of any run of
tokens can be read back from it. The sign `>` is always a token of its own: whether two of them are
a shift or the end of two type argument lists is for the grammar to say.
-/

namespace Cartograph.Java

open Text

/-- The class of a token. A text with holes is a head, middles and a tail. -/
inductive TokenClass
  | word
  | number
  | text
  | textHead
  | textMiddle
  | textTail
  | symbol
deriving DecidableEq, Inhabited

/-- A token with the gap before it and the line that it begins on, counted from one. -/
structure Token where
  gap : String
  text : String
  line : Nat
  kind : TokenClass
deriving Inhabited

namespace Token

/-- The source text of a run of tokens, without the gap before the first. -/
def textOf : List Token → String
  | [] => ""
  | t :: ts => t.text ++ String.join (ts.map fun u => u.gap ++ u.text)

/-- The signs of more than one character, longer ones first. -/
def longSymbols : List (List Char) :=
  [['.', '.', '.'], ['<', '<', '='], ['-', '>'], [':', ':'], ['+', '+'], ['-', '-'], ['&', '&'],
    ['|', '|'], ['=', '='], ['!', '='], ['<', '='], ['<', '<'], ['+', '='], ['-', '='], ['*', '='],
    ['/', '='], ['&', '='], ['|', '='], ['^', '='], ['%', '=']]

/-- The signs of one character. -/
def shortSymbols : List Char :=
  ['(', ')', '{', '}', '[', ']', ';', ',', '.', '@', '=', '<', '>', '!', '~', '?', ':', '+', '-',
    '*', '/', '&', '|', '^', '%']

/-- The longest sign at the beginning of the characters, and the rest. -/
def takeSymbol? (cs : List Char) : Option (List Char × List Char) :=
  match longSymbols.find? (·.isPrefixOf cs) with
  | some s => some (s, cs.drop s.length)
  | none =>
    match cs with
    | c :: rest => if c ∈ shortSymbols then some ([c], rest) else none
    | [] => none

/-- A hole of a text that is still open: whether the text is a block, and how many braces are open
inside the hole. -/
structure Hole where
  inBlock : Bool
  braces : Nat

/-- A token cut from the source: its class, its characters, the open holes after it,
and the rest. -/
structure Cut where
  kind : TokenClass
  chars : List Char
  holes : List Hole
  rest : List Char

/-- A piece of a text, from the characters before it and what was taken. -/
def cutPiece (start : List Char) (whole broken : TokenClass) (inBlock : Bool) (holes : List Hole) :
    List Char × PieceEnd × List Char → Cut
  | (piece, .closed, rest) => ⟨whole, start ++ piece, holes, rest⟩
  | (piece, .hole, rest) => ⟨broken, start ++ piece, ⟨inBlock, 0⟩ :: holes, rest⟩

/-- A sign; braces are counted inside a hole. -/
def cutSymbol? (holes : List Hole) (cs : List Char) : Option Cut :=
  (takeSymbol? cs).map fun (s, rest) =>
    let holes' := match holes with
      | [] => []
      | h :: hs =>
        if s = ['{'] then ⟨h.inBlock, h.braces + 1⟩ :: hs
        else if s = ['}'] then ⟨h.inBlock, h.braces - 1⟩ :: hs
        else h :: hs
    ⟨.symbol, s, holes', rest⟩

/-- The token at the beginning of the characters. -/
def cut? (holes : List Hole) (cs : List Char) : Option Cut :=
  match cs with
  | [] => none
  | c :: rest =>
    if isWordStart c then
      some ⟨.word, c :: rest.takeWhile isWordPart, holes, rest.dropWhile isWordPart⟩
    else if c = '"' then
      if ['"', '"'].isPrefixOf rest then
        (takeBlock (rest.drop 2)).map (cutPiece ['"', '"', '"'] .text .textHead true holes)
      else (takeText rest).map (cutPiece ['"'] .text .textHead false holes)
    else if c = '\x27' then
      if rest.head? = some '\x27' then none
      else (takeCharacter rest).map fun (piece, rest') => ⟨.number, c :: piece, holes, rest'⟩
    else
      match takeNumber? cs with
      | some (digits, rest') => some ⟨.number, digits, holes, rest'⟩
      | none =>
        match holes with
        | ⟨inBlock, 0⟩ :: hs =>
          if c = '}' then
            (if inBlock then takeBlock rest else takeText rest).map
              (cutPiece ['}'] .textTail .textMiddle inBlock hs)
          else cutSymbol? holes cs
        | _ => cutSymbol? holes cs

/-- How many lines end in the characters. -/
def lineEnds (cs : List Char) : Nat := cs.count '\n'

/-- The tokens of the characters, when the fuel suffices; a character more than their
number does. -/
def scan : Nat → Nat → List Hole → List Char → Option (List Token)
  | 0, _, _, _ => none
  | fuel + 1, line, holes, cs =>
    match takeGap .blanks cs with
    | none => none
    | some (_, []) => if holes.isEmpty then some [] else none
    | some (gap, rest) =>
      match cut? holes rest with
      | none => none
      | some t =>
        let start := line + lineEnds gap
        (scan fuel (start + lineEnds t.chars) t.holes t.rest).map
          (⟨String.ofList gap, String.ofList t.chars, start, t.kind⟩ :: ·)

/-- The tokens of a source text; `none` when it has a character or a literal that is not Java. A
byte order mark at the beginning is passed over. -/
def ofSource? (source : String) : Option (List Token) :=
  let cs := match source.toList with
    | c :: cs => if c.toNat = 0xFEFF then cs else c :: cs
    | [] => []
  scan (cs.length + 1) 1 [] cs

end Token

end Cartograph.Java
