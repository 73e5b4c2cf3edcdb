/-!
# Codecs

A codec writes values as bytes and reads them back. Its law says that reading gives the value that
was written and leaves what follows it, so codecs can be put one after the other.
-/

namespace Cartograph

/-- A way to write values as bytes, with its inverse. -/
structure Codec (α : Type) where
  put : α → List UInt8
  take : List UInt8 → Option (α × List UInt8)
  take_put : ∀ a rest, take (put a ++ rest) = some (a, rest)

namespace Codec

variable {α β : Type}

/-! ### Numbers -/

/-- The lowest bytes of a number, so many, lowest first. -/
def putFixed : Nat → Nat → List UInt8
  | 0, _ => []
  | width + 1, n => UInt8.ofNat (n % 256) :: putFixed width (n / 256)

/-- A number of so many bytes, lowest first. -/
def takeFixed : Nat → List UInt8 → Option (Nat × List UInt8)
  | 0, bytes => some (0, bytes)
  | _ + 1, [] => none
  | width + 1, b :: bytes =>
    (takeFixed width bytes).map fun (n, rest) => (b.toNat + 256 * n, rest)

/-- How many numbers so many bytes can hold. -/
def capacity : Nat → Nat
  | 0 => 1
  | width + 1 => 256 * capacity width

theorem takeFixed_putFixed (width n : Nat) (h : n < capacity width) (rest : List UInt8) :
    takeFixed width (putFixed width n ++ rest) = some (n, rest) := by
  induction width generalizing n with
  | zero =>
    have : n = 0 := Nat.lt_one_iff.mp h
    simp [putFixed, takeFixed, this]
  | succ width ih =>
    have hd : n / 256 < capacity width := Nat.div_lt_of_lt_mul h
    have hm : n % 256 + 256 * (n / 256) = n := Nat.mod_add_div n 256
    simp [putFixed, takeFixed, ih _ hd, UInt8.toNat_ofNat', hm]

/-- A number with seven bits in each byte, lowest first; the high bit says that more follow. -/
def putNat (n : Nat) : List UInt8 :=
  if n < 128 then [UInt8.ofNat n] else UInt8.ofNat (n % 128 + 128) :: putNat (n / 128)

/-- A number with seven bits in each byte. -/
def takeNat : List UInt8 → Option (Nat × List UInt8)
  | [] => none
  | b :: bytes =>
    if b.toNat < 128 then some (b.toNat, bytes)
    else (takeNat bytes).map fun (n, rest) => (b.toNat - 128 + 128 * n, rest)

theorem takeNat_putNat (n : Nat) (rest : List UInt8) :
    takeNat (putNat n ++ rest) = some (n, rest) := by
  induction n using Nat.strongRecOn with
  | ind n ih =>
    rw [putNat]
    split
    · next h =>
      have : n % 256 = n := Nat.mod_eq_of_lt (by omega)
      simp [takeNat, UInt8.toNat_ofNat', this, h]
    · next h =>
      have hb : (n % 128 + 128) % 256 = n % 128 + 128 := Nat.mod_eq_of_lt (by omega)
      have hn : n % 128 + 128 - 128 + 128 * (n / 128) = n := by omega
      have hk : ¬ n % 128 + 128 < 128 := by omega
      simp [takeNat, UInt8.toNat_ofNat', hb, hk, ih (n / 128) (by omega)]
      omega

/-- Numbers of any size. -/
def nat : Codec Nat := ⟨putNat, takeNat, takeNat_putNat⟩

/-! ### Combinations -/

/-- Values that are seen as values of another type. -/
def via (c : Codec β) (forth : α → β) (back : β → Option α) (law : ∀ a, back (forth a) = some a) :
    Codec α where
  put a := c.put (forth a)
  take bytes := (c.take bytes).bind fun (b, rest) => (back b).map fun a => (a, rest)
  take_put a rest := by simp [c.take_put, law]

/-- One value after another. -/
def pair (c : Codec α) (d : Codec β) : Codec (α × β) where
  put p := c.put p.1 ++ d.put p.2
  take bytes :=
    (c.take bytes).bind fun (a, rest) => (d.take rest).map fun (b, rest) => ((a, b), rest)
  take_put p rest := by simp [List.append_assoc, c.take_put, d.take_put]

/-- So many values. -/
def takeMany (c : Codec α) : Nat → List UInt8 → Option (List α × List UInt8)
  | 0, bytes => some ([], bytes)
  | n + 1, bytes =>
    (c.take bytes).bind fun (a, rest) => (takeMany c n rest).map fun (as, rest) => (a :: as, rest)

theorem takeMany_flatMap (c : Codec α) (as : List α) (rest : List UInt8) :
    takeMany c as.length (as.flatMap c.put ++ rest) = some (as, rest) := by
  induction as with
  | nil => simp [takeMany]
  | cons a as ih => simp [takeMany, List.append_assoc, c.take_put, ih]

/-- A list: its length and its items. -/
def list (c : Codec α) : Codec (List α) where
  put as := putNat as.length ++ as.flatMap c.put
  take bytes := (takeNat bytes).bind fun (n, rest) => takeMany c n rest
  take_put as rest := by simp [List.append_assoc, takeNat_putNat, takeMany_flatMap]

/-- A value that may be missing. -/
def option (c : Codec α) : Codec (Option α) :=
  c.list.via Option.toList (fun | [] => some none | [a] => some (some a) | _ => none) fun a => by
    cases a <;> rfl

/-- A text, character by character. -/
def text : Codec String :=
  (nat.via Char.toNat (fun n => if n.isValidChar then some (Char.ofNat n) else none) fun c => by
    simp [Char.ofNat_toNat, show c.toNat.isValidChar from c.valid]).list.via String.toList
    (fun cs => some (String.ofList cs)) fun s => by simp

end Codec

end Cartograph
