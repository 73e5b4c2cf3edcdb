/-!
# Number literals

The longest number literal at the beginning of a text: decimal, hexadecimal, octal and binary
integers, decimal and hexadecimal floating point numbers.
-/

namespace Cartograph.Java.Token

def isHexDigit (c : Char) : Bool :=
  c.isDigit || ('a' ≤ c && c ≤ 'f') || ('A' ≤ c && c ≤ 'F')

/-- What follows a run of digits, single underscores allowed between digits. -/
def skipDigits (isDigit : Char → Bool) : List Char → List Char
  | '_' :: d :: cs => if isDigit d then skipDigits isDigit cs else '_' :: d :: cs
  | c :: cs => if isDigit c then skipDigits isDigit cs else c :: cs
  | [] => []

/-- What follows a run of decimal digits, any number of underscores allowed between digits. -/
def skipDecimal : List Char → List Char
  | [] => []
  | c :: cs =>
    if c.isDigit then skipDecimal cs
    else if c = '_' ∧ ((cs.dropWhile (· = '_')).head?.any Char.isDigit) then skipDecimal cs
    else c :: cs

/-- What follows a nonempty run of digits of the class. -/
def digits? (isDigit : Char → Bool) : List Char → Option (List Char)
  | c :: cs => if isDigit c then some (skipDigits isDigit cs) else none
  | [] => none

/-- What follows a nonempty run of decimal digits. -/
def decimal? : List Char → Option (List Char)
  | c :: cs => if c.isDigit then some (skipDecimal cs) else none
  | [] => none

/-- What follows one of the characters, or the text itself when none is there. -/
def skipOne (chars : List Char) : List Char → List Char
  | c :: cs => if c ∈ chars then cs else c :: cs
  | [] => []

/-- What follows an exponent introduced by one of the marks. -/
def exponent? (marks : List Char) : List Char → Option (List Char)
  | c :: cs => if c ∈ marks then decimal? (skipOne ['+', '-'] cs) else none
  | [] => none

/-- What follows an exponent, or the text itself when none is there. -/
def skipExponent (marks : List Char) (cs : List Char) : List Char :=
  (exponent? marks cs).getD cs

/-- The marks that may end a floating point number. -/
def floatMarks : List Char := ['f', 'F', 'd', 'D']

/-- What follows a decimal integer or floating point number. -/
def decimalForms (cs : List Char) : List (List Char) :=
  match decimal? cs with
  | none =>
    match cs with
    | '.' :: rest =>
      ((decimal? rest).map fun r => skipOne floatMarks (skipExponent ['e', 'E'] r)).toList
    | _ => []
  | some rest =>
    skipOne ['l', 'L'] rest ::
    skipOne floatMarks (skipExponent ['e', 'E', 'p', 'P'] rest) ::
    match rest with
    | '.' :: r =>
      [skipOne floatMarks (skipExponent ['e', 'E'] (skipDecimalAfterPoint r))]
    | _ => []
where
  /-- The digits after a point may be missing. -/
  skipDecimalAfterPoint (r : List Char) : List Char := (decimal? r).getD r

/-- What follows the digits of a hexadecimal number and its exponent. A sign after a final `e` makes
that `e` the mark of an exponent. -/
def hexExponent (digits : List Char) (rest : List Char) : List Char :=
  match digits.reverse, rest with
  | e :: _ :: _, sign :: d :: r =>
    if (e = 'e' ∨ e = 'E') ∧ (sign = '+' ∨ sign = '-') ∧ d.isDigit then
      skipOne floatMarks (skipDecimal r)
    else powered rest
  | _, _ => powered rest
where
  /-- What follows an exponent with the mark `p`. -/
  powered (rest : List Char) : List Char :=
    match exponent? ['p', 'P'] rest with
    | some r => skipOne floatMarks r
    | none => rest

/-- What follows a number with a base mark. -/
def markedForms : List Char → List (List Char)
  | '0' :: mark :: cs =>
    if mark = 'x' ∨ mark = 'X' then
      let whole := (digits? isHexDigit cs).toList.flatMap fun r =>
        let taken := cs.take (cs.length - r.length)
        [skipOne ['l', 'L'] r, hexExponent taken r] ++
          (match r with
          | '.' :: r => [hexExponent.powered r]
          | _ => [])
      let fraction := match (digits? isHexDigit cs).getD cs with
        | '.' :: r => (digits? isHexDigit r).toList.map fun r' =>
            hexExponent (r.take (r.length - r'.length)) r'
        | _ => []
      whole ++ fraction
    else if mark = 'b' ∨ mark = 'B' then
      ((digits? (fun c => c = '0' || c = '1') cs).map (skipOne ['l', 'L'])).toList
    else if mark = 'o' ∨ mark = 'O' then
      ((digits? (fun c => '0' ≤ c && c ≤ '7') cs).map (skipOne ['l', 'L'])).toList
    else []
  | _ => []

/-- The shortest of the texts. -/
def shortest? : List (List Char) → Option (List Char)
  | [] => none
  | cs :: rest =>
    match shortest? rest with
    | none => some cs
    | some ds => if ds.length < cs.length then some ds else some cs

/-- The longest number literal at the beginning, and the rest. -/
def takeNumber? (cs : List Char) : Option (List Char × List Char) :=
  (shortest? (decimalForms cs ++ markedForms cs)).map fun rest =>
    (cs.take (cs.length - rest.length), rest)

end Cartograph.Java.Token
