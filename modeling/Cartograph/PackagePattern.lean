import Cartograph.Text.Blank

/-!
# Package patterns

A pattern selects packages by name. One star stands for any text within a segment, two stars for any
text on one line, and a final dot with two stars for the package itself and everything below it. An
empty pattern, or two stars alone, select every package.
-/

namespace Cartograph

open Text

/-- A part of a pattern. -/
inductive PatternPart
  | char (c : Char)
  /-- Any text without a dot. -/
  | segment
  /-- Any text on one line. -/
  | anything
  /-- Nothing, or a dot and any text on one line. -/
  | below
deriving DecidableEq

/-- A filter on packages; without parts it selects all. -/
structure PackagePattern where
  parts? : Option (List PatternPart)

namespace PackagePattern

/-- The parts of a written pattern. -/
def partsOf : List Char → List PatternPart
  | [] => []
  | ['.', '*', '*'] => [.below]
  | '*' :: '*' :: cs => .anything :: partsOf cs
  | '*' :: cs => .segment :: partsOf cs
  | c :: cs => .char c :: partsOf cs

/-- The pattern that selects every package. -/
def all : PackagePattern := ⟨none⟩

/-- Reads a pattern; blanks around it do not count. -/
def ofText (text : String) : PackagePattern :=
  let s := trim text
  if s = "" ∨ s = "**" then all else ⟨some (partsOf s.toList)⟩

/-- Whether the pattern selects every package. -/
def isAll (p : PackagePattern) : Bool := p.parts?.isNone

/-- After some characters that pass the test the rest is accepted. -/
def skipping (test : Char → Bool) (accept : List Char → Bool) : List Char → Bool
  | [] => accept []
  | c :: cs => accept (c :: cs) || (test c && skipping test accept cs)

/-- The characters are pieces that match the parts in order. -/
def matchesChars : List PatternPart → List Char → Bool
  | [], cs => cs.isEmpty
  | .char c :: parts, cs =>
    match cs with
    | d :: ds => d == c && matchesChars parts ds
    | [] => false
  | .segment :: parts, cs => skipping (· != '.') (matchesChars parts) cs
  | .anything :: parts, cs => skipping (· != '\n') (matchesChars parts) cs
  | .below :: parts, cs =>
    matchesChars parts cs ||
      match cs with
      | '.' :: ds => skipping (· != '\n') (matchesChars parts) ds
      | _ => false

def matchesPackage (p : PackagePattern) (package : String) : Bool :=
  match p.parts? with
  | none => true
  | some parts => matchesChars parts package.toList

end PackagePattern

end Cartograph
