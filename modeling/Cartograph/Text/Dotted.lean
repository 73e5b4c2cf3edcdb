/-!
# Pieces of text

Cutting text at a separator, looking at the beginning, the end and the inside of a text, and the
dotted names built from them: packages, qualified class names and import paths.
-/

namespace Cartograph.Text

/-! ### Cutting and replacing -/

/-- The pieces between the separators; a text without a separator is one piece. -/
def piecesOf (sep : Char) : List Char → List (List Char)
  | [] => [[]]
  | c :: cs =>
    if c = sep then [] :: piecesOf sep cs
    else
      match piecesOf sep cs with
      | [] => [[c]]
      | p :: ps => (c :: p) :: ps

/-- The pieces of a text between the separators. -/
def pieces (sep : Char) (s : String) : List String :=
  (piecesOf sep s.toList).map String.ofList

/-- Every occurrence of a character replaced by another. -/
def replaceChar (old new : Char) (s : String) : String :=
  String.ofList (s.toList.map fun c => if c = old then new else c)

/-- The characters without a separator that follows another, given whether one stands
before them. -/
def squeeze (sep : Char) : Bool → List Char → List Char
  | _, [] => []
  | afterSep, c :: cs =>
    if c = sep then if afterSep then squeeze sep true cs else sep :: squeeze sep true cs
    else c :: squeeze sep false cs

/-- The items without those met before and without repeats, in order. -/
def fresh {α : Type} [DecidableEq α] (met : List α) : List α → List α
  | [] => []
  | a :: as => if a ∈ met then fresh met as else a :: fresh (a :: met) as

/-! ### Beginning, end and inside -/

/-- The fragment occurs somewhere in the characters. -/
def mentionsChars (fragment : List Char) : List Char → Bool
  | [] => fragment.isEmpty
  | c :: cs => fragment.isPrefixOf (c :: cs) || mentionsChars fragment cs

/-- The fragment occurs somewhere in the text. -/
def mentions (fragment s : String) : Bool :=
  mentionsChars fragment.toList s.toList

/-- What follows the fragment at the beginning of the text. -/
def afterStart? (fragment s : String) : Option String :=
  if s.startsWith fragment then some (String.ofList (s.toList.drop fragment.length)) else none

/-- What precedes the fragment at the end of the text. -/
def beforeEnd? (fragment s : String) : Option String :=
  if s.endsWith fragment then some (String.ofList (s.toList.take (s.length - fragment.length)))
  else none

/-! ### Dotted names -/

/-- The characters after the last dot. -/
def lastSegment (cs : List Char) : List Char :=
  (cs.reverse.takeWhile (· != '.')).reverse

/-- The last segment of a dotted name. -/
def simpleName (name : String) : String :=
  String.ofList (lastSegment name.toList)

/-- What stands before the last dot of a dotted name; empty without a dot. -/
def qualifier (name : String) : String :=
  String.ofList ((name.toList.reverse.dropWhile (· != '.')).drop 1).reverse

/-- The written name is the wanted one, or a qualified form that ends in a dot and
the wanted one. -/
def namesMatch (written wanted : String) : Bool :=
  written == wanted || ('.' :: wanted.toList).isSuffixOf written.toList

/-- The name written without the sections in angle brackets, at the given depth of nesting. -/
def outsideBrackets : Nat → List Char → List Char
  | _, [] => []
  | depth, c :: cs =>
    if c = '<' then outsideBrackets (depth + 1) cs
    else if c = '>' then outsideBrackets (depth - 1) cs
    else if depth = 0 then c :: outsideBrackets 0 cs
    else outsideBrackets depth cs

/-- A type name without its sections in angle brackets; a bracket that closes nothing is dropped. -/
def stripGenerics (name : String) : String :=
  String.ofList (outsideBrackets 0 name.toList)

end Cartograph.Text
