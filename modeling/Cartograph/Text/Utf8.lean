/-!
# Text from bytes

Bytes are read as UTF-8. Where they are no text, the fault says at which byte the first faulty
sequence begins and how long it is: the bytes up to the one that no character could go on with.
-/

namespace Cartograph.Utf8

/-- The first faulty sequence; without a length the bytes end within a character. -/
structure Fault where
  index : Nat
  length : Option Nat
deriving DecidableEq, Inhabited

def Fault.message (f : Fault) : String :=
  match f.length with
  | some n => "invalid utf-8 sequence of " ++ Nat.repr n ++ " bytes from index " ++ Nat.repr f.index
  | none => "incomplete utf-8 byte sequence from index " ++ Nat.repr f.index

/-- What the first byte of a character tells: the bits it gives, how many bytes follow, and between
which bounds the next one lies. -/
structure Lead where
  bits : Nat
  more : Nat
  low : Nat := 0x80
  high : Nat := 0xBF

/-- What the first byte of a character tells; `none` for a byte that begins none. -/
def lead? (b : Nat) : Option Lead :=
  if b < 0x80 then some { bits := b, more := 0 }
  else if b < 0xC2 then none
  else if b < 0xE0 then some { bits := b - 0xC0, more := 1 }
  else if b = 0xE0 then some { bits := 0, more := 2, low := 0xA0 }
  else if b = 0xED then some { bits := 0xD, more := 2, high := 0x9F }
  else if b < 0xF0 then some { bits := b - 0xE0, more := 2 }
  else if b = 0xF0 then some { bits := 0, more := 3, low := 0x90 }
  else if b = 0xF4 then some { bits := 4, more := 3, high := 0x8F }
  else if b < 0xF4 then some { bits := b - 0xF0, more := 3 }
  else none

/-- The value of a character after so many of its bytes, and what follows it; else the length of the
faulty sequence. -/
def follow (read low high bits : Nat) : Nat → List UInt8 → Except (Option Nat) (Nat × List UInt8)
  | 0, bytes => .ok (bits, bytes)
  | _ + 1, [] => .error none
  | more + 1, b :: bytes =>
    if low ≤ b.toNat ∧ b.toNat ≤ high then
      follow (read + 1) 0x80 0xBF (bits * 64 + b.toNat % 64) more bytes
    else .error (some read)

/-- The first character of the bytes, and what follows it; else the length of the
faulty sequence. -/
def first (b : UInt8) (bytes : List UInt8) : Except (Option Nat) (Char × List UInt8) :=
  match lead? b.toNat with
  | none => .error (some 1)
  | some l =>
    match follow 1 l.low l.high l.bits l.more bytes with
    | .ok (n, rest) => .ok (Char.ofNat n, rest)
    | .error length => .error length

/-- The characters of the bytes after those already read, the last one first. -/
def chars : Nat → Nat → List Char → List UInt8 → Except Fault (List Char)
  | _, _, read, [] => .ok read.reverse
  | 0, _, read, _ => .ok read.reverse
  | fuel + 1, index, read, b :: bytes =>
    match first b bytes with
    | .ok (c, rest) => chars fuel (index + c.utf8Size) (c :: read) rest
    | .error length => .error ⟨index, length⟩

/-- The text that the bytes are. -/
def decode (bytes : List UInt8) : Except Fault String :=
  (chars bytes.length 0 [] bytes).map String.ofList

def encode (s : String) : List UInt8 := s.toUTF8.toList

end Cartograph.Utf8
