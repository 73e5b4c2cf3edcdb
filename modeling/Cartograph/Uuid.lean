/-!
# Identifiers

Projects, batches and endpoints carry 128-bit identifiers, written as 32 hexadecimal digits in five
groups. New identifiers come from a `Supply`.
-/

namespace Cartograph

/-- A 128-bit identifier. -/
structure Uuid where
  bits : BitVec 128
deriving DecidableEq, Inhabited

namespace Uuid

/-- The identifier that stands for none. -/
def nil : Uuid := ⟨0⟩

def ofNat (n : Nat) : Uuid := ⟨BitVec.ofNat 128 n⟩

def toNat (u : Uuid) : Nat := u.bits.toNat

/-- So many hexadecimal digits of a number, the last ones. -/
def hexDigits : Nat → Nat → List Char
  | 0, _ => []
  | count + 1, n => hexDigits count (n / 16) ++ [Nat.digitChar (n % 16)]

def render (u : Uuid) : String :=
  let ds := hexDigits 32 u.toNat
  let group (start count : Nat) : List Char := (ds.drop start).take count
  String.ofList (group 0 8 ++ '-' :: group 8 4 ++ '-' :: group 12 4 ++ '-' :: group 16 4 ++
    '-' :: group 20 12)

def hexValue? (c : Char) : Option Nat :=
  if '0' ≤ c ∧ c ≤ '9' then some (c.toNat - '0'.toNat)
  else if 'a' ≤ c ∧ c ≤ 'f' then some (c.toNat - 'a'.toNat + 10)
  else if 'A' ≤ c ∧ c ≤ 'F' then some (c.toNat - 'A'.toNat + 10)
  else none

/-- The value of hexadecimal digits, after those already read. -/
def hexNumber? : Nat → List Char → Option Nat
  | n, [] => some n
  | n, c :: cs => (hexValue? c).bind fun d => hexNumber? (n * 16 + d) cs

/-- Reads 32 hexadecimal digits, bare or with a hyphen between the five groups. -/
def ofDigits? (cs : List Char) : Option Uuid :=
  if cs.length = 32 then (hexNumber? 0 cs).map ofNat
  else if cs.length = 36 then
    if cs[8]? = some '-' ∧ cs[13]? = some '-' ∧ cs[18]? = some '-' ∧ cs[23]? = some '-' then
      let digits := cs.take 8 ++ (cs.drop 9).take 4 ++ (cs.drop 14).take 4 ++
        (cs.drop 19).take 4 ++ cs.drop 24
      (hexNumber? 0 digits).map ofNat
    else none
  else none

/-- Reads an identifier: the digits, or the digits in braces or behind the name of their scheme. -/
def parse? (s : String) : Option Uuid :=
  let cs := s.toList
  match ofDigits? cs with
  | some u => some u
  | none =>
    if cs.head? = some '{' ∧ cs.getLast? = some '}' then
      let inner := (cs.drop 1).dropLast
      if inner.length = 36 then ofDigits? inner else none
    else if "urn:uuid:".toList.isPrefixOf cs ∧ cs.length = 45 then ofDigits? (cs.drop 9)
    else none

end Uuid

/-- A source of new identifiers: the `n`-th one drawn, and how many have been drawn. -/
structure Supply where
  draw : Nat → Uuid
  drawn : Nat := 0

/-- The next identifier, and the supply without it. -/
def Supply.next (s : Supply) : Uuid × Supply := (s.draw s.drawn, { s with drawn := s.drawn + 1 })

end Cartograph
