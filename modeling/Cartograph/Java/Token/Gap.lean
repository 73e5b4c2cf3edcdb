import Cartograph.Text.Blank

/-!
# Gaps between tokens

Blank characters and comments. A line comment runs to the end of its line, a block comment to the
first `*/`; an open block comment is an error.
-/

namespace Cartograph.Java.Token

open Text

/-- Where a gap stands: between comments, in a line comment, or in a block comment. -/
inductive GapPlace
  | blanks
  | lineComment
  | blockComment

/-- The gap at the beginning of the characters, and the rest. -/
def takeGap : GapPlace → List Char → Option (List Char × List Char)
  | .blanks, '/' :: '/' :: cs =>
    (takeGap .lineComment cs).map fun (gap, rest) => ('/' :: '/' :: gap, rest)
  | .blanks, '/' :: '*' :: cs =>
    (takeGap .blockComment cs).map fun (gap, rest) => ('/' :: '*' :: gap, rest)
  | .blanks, c :: cs =>
    if isBlank c then (takeGap .blanks cs).map fun (gap, rest) => (c :: gap, rest)
    else some ([], c :: cs)
  | .blanks, [] => some ([], [])
  | .lineComment, '\n' :: cs => (takeGap .blanks cs).map fun (gap, rest) => ('\n' :: gap, rest)
  | .lineComment, c :: cs => (takeGap .lineComment cs).map fun (gap, rest) => (c :: gap, rest)
  | .lineComment, [] => some ([], [])
  | .blockComment, '*' :: '/' :: cs =>
    (takeGap .blanks cs).map fun (gap, rest) => ('*' :: '/' :: gap, rest)
  | .blockComment, c :: cs => (takeGap .blockComment cs).map fun (gap, rest) => (c :: gap, rest)
  | .blockComment, [] => none

end Cartograph.Java.Token
