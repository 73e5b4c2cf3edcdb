import Cartograph.Toml.Token

/-!
# The values of TOML

Of dates, and of numbers with a fraction or an exponent, only the presence is kept. The digits are
checked nevertheless: a number that is too large is refused.
-/

namespace Cartograph.Toml

/-- A value. A table written with dotted keys can be added to by other dotted keys;
keys may repeat. -/
inductive Value
  | text (s : String)
  | integer (n : Int)
  | float
  | boolean (b : Bool)
  | date
  | array (items : List Value)
  | table (dotted : Bool) (entries : List (String × Value))

instance : Inhabited Value := ⟨.boolean false⟩

/-! ### Numbers -/

def digit? (radix : Nat) (c : Char) : Option Nat :=
  (Uuid.hexValue? c).bind fun d => if d < radix then some d else none

/-- The digits at the beginning, with single underscores between them, and what follows. Whether a
zero stands first, and whether an underscore stands before, is carried along. -/
def digitRun (radix : Nat) (zeros : Bool) :
    (first afterZero afterLine : Bool) → List Char → Option (List Char × List Char)
  | first, _, afterLine, [] => if first || afterLine then none else some ([], [])
  | first, afterZero, afterLine, c :: cs =>
    if c = '0' ∧ first then
      (digitRun radix zeros false true afterLine cs).map fun (ds, rest) => (c :: ds, rest)
    else if (digit? radix c).isSome then
      if !first && afterZero && !zeros then none
      else (digitRun radix zeros false afterZero false cs).map fun (ds, rest) => (c :: ds, rest)
    else if c = '_' ∧ first then none
    else if c = '_' ∧ !afterLine then digitRun radix zeros false afterZero true cs
    else if first || afterLine then none
    else some ([], c :: cs)

/-- Whether a minus stands first, the digits after the sign, and what follows them. -/
def signedRun (cs : List Char) (zeros : Bool) : Option (Bool × List Char × List Char) :=
  match cs with
  | '-' :: rest => (digitRun 10 zeros true false false rest).map fun (ds, rest) => (true, ds, rest)
  | _ => (digitRun 10 zeros true false false cs).map fun (ds, rest) => (false, ds, rest)

/-- The number that digits are, after those already read. -/
def numberOf (radix : Nat) : Nat → List Char → Nat
  | n, [] => n
  | n, c :: cs => numberOf radix (n * radix + (digit? radix c).getD 0) cs

/-- The integer, if 64 bits hold it. -/
def within64 (negative : Bool) (n : Nat) : Option Value :=
  let limit := 9223372036854775808
  if negative then if n ≤ limit then some (.integer (-n)) else none
  else if n < limit then some (.integer n) else none

/-- The integer that the characters are. -/
def integer? (radix : Nat) (cs : List Char) : Option Value :=
  if radix = 10 then
    match signedRun cs false with
    | some (negative, ds, []) => within64 negative (numberOf 10 0 ds)
    | _ => none
  else
    match digitRun radix true true false false cs with
    | some (ds, []) => within64 false (numberOf radix 0 ds)
    | _ => none

/-- The least number that is too large for a float: halfway between the largest one and the next. -/
def floatLimit : Nat := Nat.pow 2 1024 - Nat.pow 2 970

/-- The digits, of which so many stand behind the point, times a power of ten are a float. -/
def fitsFloat (digits : List Char) (behind : Nat) (negative : Bool) (exponent : List Char) : Bool :=
  let n := numberOf 10 0 digits
  let power := numberOf 10 0 exponent
  if n = 0 then true
  else if negative then
    decide (digits.length ≤ power) || decide (n < floatLimit * Nat.pow 10 (behind + power))
  else
    decide (power < behind + 309) && decide (n * Nat.pow 10 power < floatLimit * Nat.pow 10 behind)

end Cartograph.Toml
