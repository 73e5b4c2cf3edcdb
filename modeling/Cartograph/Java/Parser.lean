import Cartograph.Java.Code
import Cartograph.Java.Token

/-!
# Parsers over tokens

A parser reads tokens from the front of a list and gives a value, the facts about code met on the
way, in source order, and the rest of the tokens. `held` keeps the facts back as a value, `tell`
gives them out, `listen` does both. The operators choose in order and go back to where they began
when they fail.
-/

namespace Cartograph.Java

/-- The tokens that are left to read, with their number at hand. -/
structure Input where
  tokens : List Token
  count : Nat
  count_eq : count = tokens.length

namespace Input

def ofList (ts : List Token) : Input := ⟨ts, ts.length, rfl⟩

/-- The first token and the input after it. -/
def next? : Input → Option (Token × Input)
  | ⟨[], _, _⟩ => none
  | ⟨t :: ts, n, h⟩ => some (t, ⟨ts, n - 1, by simp [h]⟩)

/-- The tokens between an input and a later one. -/
def upTo (i later : Input) : List Token := i.tokens.take (i.count - later.count)

end Input

/-- What a parser has read. -/
structure Reading (α : Type) where
  value : α
  facts : List Fact
  rest : Input

/-- A parser over tokens. -/
def Parser (α : Type) : Type := Input → Option (Reading α)

namespace Parser

variable {α β : Type}

/-- Reads nothing. -/
def pure (a : α) : Parser α := fun i => some ⟨a, [], i⟩

/-- One parser after the other, the facts of the first before those of the second. -/
def bind (p : Parser α) (f : α → Parser β) : Parser β := fun i =>
  match p i with
  | none => none
  | some r =>
    match f r.value r.rest with
    | none => none
    | some r' => some ⟨r'.value, r.facts ++ r'.facts, r'.rest⟩

instance : Monad Parser where
  pure := Parser.pure
  bind := Parser.bind

def fail : Parser α := fun _ => none

/-- The first parser, or the second where the first fails. -/
def orElse (p : Parser α) (q : Unit → Parser α) : Parser α := fun i =>
  match p i with
  | some r => some r
  | none => q () i

instance : OrElse (Parser α) := ⟨orElse⟩

/-- Fails unless the condition holds. -/
def check (b : Bool) : Parser Unit := if b then pure () else fail

/-! ### Facts -/

/-- Gives out facts. -/
def tell (facts : List Fact) : Parser Unit := fun i => some ⟨(), facts, i⟩

/-- Keeps the facts of a parser back as a value. -/
def held (p : Parser α) : Parser (α × List Fact) := fun i =>
  (p i).map fun r => ⟨(r.value, r.facts), [], r.rest⟩

/-- Gives the facts of a parser out and also returns them. -/
def listen (p : Parser α) : Parser (α × List Fact) := fun i =>
  (p i).map fun r => ⟨(r.value, r.facts), r.facts, r.rest⟩

/-! ### Looking at the input -/

/-- The tokens that are left. -/
def here : Parser Input := fun i => some ⟨i, [], i⟩

/-- The source text read since the given place. -/
def textSince (start : Input) : Parser String := fun i =>
  some ⟨Token.textOf (start.upTo i), [], i⟩

/-- The line of the next token. -/
def line : Parser Nat := fun i => some ⟨(i.tokens.head?.map (·.line)).getD 0, [], i⟩

/-- Succeeds where the parser would, and reads nothing. -/
def ahead (p : Parser α) : Parser Unit := fun i => (p i).map fun _ => ⟨(), [], i⟩

/-- Succeeds where the parser fails, and reads nothing. -/
def notAhead (p : Parser α) : Parser Unit := fun i =>
  match p i with
  | none => some ⟨(), [], i⟩
  | some _ => none

/-- Succeeds at the end of the input. -/
def atEnd : Parser Unit := fun i => if i.tokens.isEmpty then some ⟨(), [], i⟩ else none

/-! ### Single tokens -/

/-- The next token, if it passes the test. -/
def token (test : Token → Bool) : Parser Token := fun i =>
  match i.next? with
  | none => none
  | some (t, rest) => if test t then some ⟨t, [], rest⟩ else none

def ofClass (kind : TokenClass) : Parser Token := token fun t => t.kind == kind

def sign (s : String) : Parser Unit := do
  let _ ← token fun t => t.kind == .symbol && t.text == s

/-- The sign, with no gap before it. -/
def adjacent (s : String) : Parser Unit := do
  let _ ← token fun t => t.kind == .symbol && t.text == s && t.gap.isEmpty

def oneOf (signs : List String) : Parser Unit := do
  let _ ← token fun t => t.kind == .symbol && signs.contains t.text

def keyword (w : String) : Parser Unit := do
  let _ ← token fun t => t.kind == .word && t.text == w

/-- A word that passes the test. -/
def wordWith (test : String → Bool) : Parser String := do
  let t ← token fun t => t.kind == .word && test t.text
  return t.text

/-- A word that is none of the given ones. -/
def wordExcept (words : List String) : Parser String := wordWith (!words.contains ·)

/-- Any word: where only a name can stand, every word is a name. -/
def anyWord : Parser String := wordExcept []

def wordAmong (words : List String) : Parser String := wordWith words.contains

/-! ### Repetition -/

/-- The parser, if it succeeds. -/
def maybe (p : Parser α) : Parser (Option α) := fun i =>
  match p i with
  | some r => some ⟨some r.value, r.facts, r.rest⟩
  | none => some ⟨none, [], i⟩

/-- Runs the parser so often as it succeeds and reads something, at most so many times. -/
def repeated (p : Parser α) : Nat → Parser (List α)
  | 0, i => some ⟨[], [], i⟩
  | n + 1, i =>
    match p i with
    | none => some ⟨[], [], i⟩
    | some r =>
      if r.rest.count < i.count then
        match repeated p n r.rest with
        | none => none
        | some r' => some ⟨r.value :: r'.value, r.facts ++ r'.facts, r'.rest⟩
      else some ⟨[], [], i⟩

/-- Runs the parser as often as it succeeds and reads something. -/
def many (p : Parser α) : Parser (List α) := fun i => repeated p i.count i

/-- One or more, with the separator between neighbours. -/
def separated (p : Parser α) (sep : String) : Parser (List α) := do
  let first ← p
  let rest ← many (do sign sep; p)
  return first :: rest

/-- A list in signs, possibly empty, with commas between neighbours. -/
def listed (opening closing : String) (p : Parser α) : Parser (List α) := do
  sign opening
  let items ← maybe (separated p ",")
  sign closing
  return items.getD []

end Parser

end Cartograph.Java
