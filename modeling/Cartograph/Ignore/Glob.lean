import Cartograph.Text.Utf8

/-!
# Wildcards for paths

A wildcard is matched against the bytes of a whole path. A question mark and a star do not pass a
slash; two stars that are a whole part of the path stand for any number of parts.
-/

namespace Cartograph.Ignore

/-- A part of a wildcard. -/
inductive GlobPart
  | byte (b : UInt8)
  /-- One byte but a slash. -/
  | one
  /-- Bytes but slashes. -/
  | many
  /-- A byte in one of the ranges, or in none of them. -/
  | among (negated : Bool) (ranges : List (UInt8 × UInt8))
  /-- Nothing, or parts of a path with the slash after them. -/
  | above
  /-- A slash, and possibly parts of a path with the slash after them. -/
  | between
  /-- A slash and whatever follows. -/
  | beneath
  /-- One of the options, or nothing if there are none. -/
  | choice (options : List (List GlobPart))

namespace GlobPart

/-! ### Matching -/

/-- The byte of a slash. -/
def slash : UInt8 := 0x2F

/-- Something after a slash is accepted. -/
def afterSlash (accept : List UInt8 → Bool) : List UInt8 → Bool
  | [] => false
  | b :: bs => (b == slash && accept bs) || afterSlash accept bs

/-- After some bytes that pass the test the rest is accepted. -/
def afterSome (test : UInt8 → Bool) (accept : List UInt8 → Bool) : List UInt8 → Bool
  | [] => accept []
  | b :: bs => accept (b :: bs) || (test b && afterSome test accept bs)

/-- After one byte that passes the test the rest is accepted. -/
def afterOne (test : UInt8 → Bool) (accept : List UInt8 → Bool) : List UInt8 → Bool
  | [] => false
  | b :: bs => test b && accept bs

mutual

/-- After something that matches the part the rest is accepted. -/
def accepts : GlobPart → (List UInt8 → Bool) → List UInt8 → Bool
  | .byte b, accept, bs => afterOne (· == b) accept bs
  | .one, accept, bs => afterOne (· != slash) accept bs
  | .many, accept, bs => afterSome (· != slash) accept bs
  | .among negated ranges, accept, bs =>
    afterOne (fun b => ranges.any (fun (low, high) => low ≤ b && b ≤ high) != negated) accept bs
  | .above, accept, bs => accept bs || afterSlash accept bs
  | .between, accept, bs => afterOne (· == slash) (fun bs => accept bs || afterSlash accept bs) bs
  | .beneath, accept, bs => afterOne (· == slash) (afterSome (fun _ => true) accept) bs
  | .choice [], accept, bs => accept bs
  | .choice (option :: options), accept, bs => acceptsSome (option :: options) accept bs

/-- After something that matches the parts in order the rest is accepted. -/
def acceptsAll : List GlobPart → (List UInt8 → Bool) → List UInt8 → Bool
  | [], accept, bs => accept bs
  | p :: ps, accept, bs => accepts p (acceptsAll ps accept) bs

/-- After something that matches one of the options the rest is accepted. -/
def acceptsSome : List (List GlobPart) → (List UInt8 → Bool) → List UInt8 → Bool
  | [], _, _ => false
  | ps :: options, accept, bs => acceptsAll ps accept bs || acceptsSome options accept bs

end

end GlobPart

/-- A wildcard. -/
abbrev Glob := List GlobPart

namespace Glob

def accepts (g : Glob) (path : String) : Bool :=
  match g with
  | [.above] => true
  | g => GlobPart.acceptsAll g List.isEmpty (Utf8.encode path)

/-! ### Reading -/

def bytesOf (c : Char) : List UInt8 := Utf8.encode (String.singleton c)

/-- The ranges of bytes that stand for a range of characters. -/
def byteRanges (low high : Char) : List (UInt8 × UInt8) :=
  let single (b : UInt8) : UInt8 × UInt8 := (b, b)
  if low = high then (bytesOf low).map single
  else
    match (bytesOf low).getLast?, bytesOf high with
    | some last, first :: rest =>
      (bytesOf low).dropLast.map single ++ (last, first) :: rest.map single
    | _, _ => []

/-- The ranges up to the closing bracket, and what follows it, after the ranges already read, the
last one first; `isOpen` tells that a hyphen stands before. -/
def ranges? (isFirst isOpen : Bool) (read : List (Char × Char)) :
    List Char → Option (List (Char × Char) × List Char)
  | [] => none
  | c :: cs =>
    if c = ']' ∧ !isFirst then
      some ((if isOpen then ('-', '-') :: read else read).reverse, cs)
    else if c = '-' ∧ !isFirst ∧ !isOpen then ranges? false true read cs
    else
      match isOpen, read with
      | true, (low, _) :: earlier =>
        if low ≤ c then ranges? false false ((low, c) :: earlier) cs else none
      | _, _ => ranges? false false ((c, c) :: read) cs

/-- The class after its opening bracket, and what follows it. -/
def class? (cs : List Char) : Option (GlobPart × List Char) :=
  let (negated, cs) := match cs with
    | '!' :: rest => (true, rest)
    | '^' :: rest => (true, rest)
    | _ => (false, cs)
  (ranges? true false [] cs).map fun (ranges, rest) =>
    (.among negated (ranges.flatMap fun (low, high) => byteRanges low high), rest)

/-- The parts read so far, the last one first, after two stars, and whether the character that
follows belongs to them. -/
def twoStars (isNested : Bool) (previous next : Option Char) (read : List GlobPart) :
    List GlobPart × Bool :=
  let plain := (.many :: .many :: read, false)
  if read.isEmpty then
    if next = none then ([.above], false)
    else if next = some '/' then ([.above], true)
    else plain
  else if previous ≠ some '/' then plain
  else
    let ends := next = none ∨ (isNested ∧ (next = some ',' ∨ next = some '}'))
    if !ends ∧ next ≠ some '/' then plain
    else
      let replaced := match read with
        | .above :: earlier => .above :: earlier
        | .beneath :: earlier => .beneath :: earlier
        | _ :: earlier => (if ends then .beneath else .between) :: earlier
        | [] => []
      (replaced, !ends)

mutual

/-- The parts of a wildcard, and what follows them within braces, after those already read, the last
one first. -/
def parts? (isNested : Bool) :
    Nat → Option Char → List GlobPart → List Char → Option (Glob × List Char)
  | 0, _, _, _ => none
  | _ + 1, _, read, [] => if isNested then none else some (read.reverse, [])
  | fuel + 1, previous, read, c :: cs =>
    match c with
    | '?' => parts? isNested fuel (some c) (.one :: read) cs
    | '*' =>
      match cs with
      | '*' :: rest =>
        let (parts, takesNext) := twoStars isNested previous rest.head? read
        if takesNext then parts? isNested fuel (some '/') parts rest.tail
        else parts? isNested fuel (some '*') parts rest
      | _ => parts? isNested fuel (some c) (.many :: read) cs
    | '[' =>
      (class? cs).bind fun (part, rest) => parts? isNested fuel (some ']') (part :: read) rest
    | '{' =>
      (options? fuel cs).bind fun (options, rest) =>
        parts? isNested fuel (some '}') (.choice (options.filter (!·.isEmpty)) :: read) rest
    | '}' => if isNested then some (read.reverse, c :: cs) else none
    | ',' =>
      if isNested then some (read.reverse, c :: cs)
      else parts? isNested fuel (some c) ((bytesOf c).reverse.map .byte ++ read) cs
    | '\\' =>
      match cs with
      | d :: rest => parts? isNested fuel (some d) ((bytesOf d).reverse.map .byte ++ read) rest
      | [] => none
    | c => parts? isNested fuel (some c) ((bytesOf c).reverse.map .byte ++ read) cs

/-- The options up to the closing brace, and what follows it. -/
def options? : Nat → List Char → Option (List Glob × List Char)
  | 0, _ => none
  | fuel + 1, cs =>
    (parts? true fuel (some ',') [] cs).bind fun (option, rest) =>
      match rest with
      | ',' :: rest => (options? fuel rest).map fun (options, rest) => (option :: options, rest)
      | '}' :: rest => some ([option], rest)
      | _ => none

end

def ofChars? (cs : List Char) : Option Glob :=
  (parts? false (2 * cs.length + 2) none [] cs).map (·.1)

end Glob

end Cartograph.Ignore
