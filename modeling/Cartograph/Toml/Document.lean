import Cartograph.Text.Dotted
import Cartograph.Toml.Value

/-!
# TOML documents

A document is a sequence of sections, each with a header and entries. The sections with a common
beginning of their headers are one table; a header in double brackets adds a table to an array. No
table has two sections of its own, but a key may stand in a table more than once: what that means is
left to the reader of the table.
-/

namespace Cartograph.Toml

/-- Drops the blanks at the beginning. -/
def skipBlanks : List Token → List Token
  | .blanks _ :: ts => skipBlanks ts
  | ts => ts

/-- Passes the end of a line. -/
def endLine? : List Token → Option (List Token)
  | [] => some []
  | .newline :: ts => some ts
  | _ => none

/-- Passes blanks, a comment if there is one, and the end of a line. -/
def restOfLine? (ts : List Token) : Option (List Token) :=
  match skipBlanks ts with
  | .comment :: ts => endLine? ts
  | ts => endLine? ts

/-- Passes blanks, comments and the ends of lines. -/
def skipLines : List Token → Option (List Token)
  | [] => some []
  | .blanks _ :: ts => skipLines ts
  | .newline :: ts => skipLines ts
  | [.comment] => some []
  | .comment :: .newline :: ts => skipLines ts
  | .comment :: _ => none
  | ts => some ts

/-! ### Keys -/

def key? : List Token → Option (String × List Token)
  | .word cs :: ts => some (String.ofList cs, ts)
  | .text s false :: ts => some (s, ts)
  | _ => none

/-- Keys with periods between them, and what follows them and the blanks after them. -/
def keys? : Nat → List Token → Option (List String × List Token)
  | 0, _ => none
  | fuel + 1, ts =>
    (key? ts).bind fun (k, ts) =>
      match skipBlanks ts with
      | .period :: ts => (keys? fuel (skipBlanks ts)).map fun (ks, ts) => (k :: ks, ts)
      | ts => some ([k], ts)

/-- The entries with a value at dotted keys. -/
def addAt (value : Value) : List String → List (String × Value) → Option (List (String × Value))
  | [], _ => none
  | [k], entries => some (entries ++ [(k, value)])
  | k :: k₂ :: ks, entries =>
    match entries.findIdx? (·.1 == k) with
    | none => (addAt value (k₂ :: ks) []).map fun inner => entries ++ [(k, .table true inner)]
    | some i =>
      match entries[i]? with
      | some (_, .table true inner) =>
        (addAt value (k₂ :: ks) inner).map fun inner => entries.set i (k, .table true inner)
      | _ => none

/-! ### Numbers and dates -/

def word? : List Token → Option (List Char × List Token)
  | .word cs :: ts => some (cs, ts)
  | _ => none

def skipWord? (ts : List Token) : Option (List Token) := (word? ts).map (·.2)

/-- Passes a word after a sign, if the sign stands there. -/
def skipAfter? (sign : Token) : List Token → Option (List Token)
  | t :: ts => if t = sign then skipWord? ts else some (t :: ts)
  | [] => some []

/-- The rest of a date or time, and what follows it. -/
def date? (colonRead : Bool) (ts : List Token) : Option (Value × List Token) :=
  let ts := match ts with
    | .blanks [' '] :: .word _ :: rest => rest
    | _ => ts
  let time? : List Token → Option (List Token) := fun ts =>
    match skipWord? ts with
    | some (.colon :: ts) =>
      (((skipWord? ts).bind (skipAfter? .period)).bind (skipAfter? .plus)).bind (skipAfter? .colon)
    | _ => none
  let rest? := match colonRead, ts with
    | true, ts => time? ts
    | false, .colon :: ts => time? ts
    | false, ts => some ts
  rest?.map fun ts => (.date, ts)

/-- The exponent after the digits of a float, with its sign, and what follows it. -/
def exponent? (suffix : List Char) (ts : List Token) : Option ((Bool × List Char) × List Token) :=
  match suffix with
  | [] => some ((false, ['0']), ts)
  | e :: cs =>
    if e ≠ 'e' ∧ e ≠ 'E' then none
    else if cs = [] then
      let ts := match ts with
        | .plus :: ts => ts
        | ts => ts
      match word? ts with
      | some (cs, ts) =>
        match digitRun 10 true true false false cs with
        | some (ds, []) => some ((false, ds), ts)
        | _ => none
      | none => none
    else
      match signedRun cs true with
      | some (negative, ds, []) => some ((negative, ds), ts)
      | _ => none

/-- A float, of which the part before the point is read, and what follows it. -/
def float? (whole : List Char) (fraction : Option (List Char)) (ts : List Token) :
    Option (Value × List Token) :=
  (signedRun whole false).bind fun (_, ds, suffix) =>
    let parts? := match fraction with
      | none => some ([], suffix)
      | some cs => if suffix = [] then digitRun 10 true true false false cs else none
    parts?.bind fun (behind, suffix) =>
      (exponent? suffix ts).bind fun ((negative, power), ts) =>
        if fitsFloat (ds ++ behind) behind.length negative power then some (.float, ts) else none

/-- A number that begins with the word, and what follows it. -/
def number? (cs : List Char) (ts : List Token) : Option (Value × List Token) :=
  let whole (radix : Nat) (cs : List Char) : Option (Value × List Token) :=
    (integer? radix cs).map fun v => (v, ts)
  match cs with
  | '0' :: 'x' :: ds => whole 16 ds
  | '0' :: 'o' :: ds => whole 8 ds
  | '0' :: 'b' :: ds => whole 2 ds
  | cs =>
    if 'e' ∈ cs ∨ 'E' ∈ cs then float? cs none ts
    else
      match ts with
      | .period :: ts => (word? ts).bind fun (after, ts) => float? cs (some after) ts
      | ts =>
        let name := String.ofList cs
        if name ∈ ["inf", "-inf", "nan", "-nan"] then some (.float, ts) else whole 10 cs

/-- Whether a word that begins like a number begins a date. -/
def beginsDate (cs : List Char) : Bool :=
  cs.contains 'T' || cs.contains 't' ||
    (cs.tail.contains '-' && !Text.mentionsChars ['e', '-'] cs && !Text.mentionsChars ['E', '-'] cs)

/-- A value that begins with a word, and what follows it. -/
def plain? (cs : List Char) (ts : List Token) : Option (Value × List Token) :=
  let name := String.ofList cs
  if name = "true" then some (.boolean true, ts)
  else if name = "false" then some (.boolean false, ts)
  else if name = "inf" ∨ name = "nan" ∨ cs.head?.any fun c => c == '-' || c.isDigit then
    if beginsDate cs then date? false ts
    else
      match ts with
      | .colon :: ts => date? true ts
      | ts => number? cs ts
  else none

/-! ### Values -/

mutual

def value? : Nat → List Token → Option (Value × List Token)
  | 0, _ => none
  | _ + 1, .text s _ :: ts => some (.text s, ts)
  | _ + 1, .word cs :: ts => plain? cs ts
  | _ + 1, .plus :: .word cs :: ts => number? cs ts
  | fuel + 1, .leftBracket :: ts => (items? fuel ts).map fun (items, ts) => (.array items, ts)
  | fuel + 1, .leftBrace :: ts =>
    match skipBlanks ts with
    | .rightBrace :: ts => some (.table false [], ts)
    | ts => (pairs? fuel [] ts).map fun (entries, ts) => (.table false entries, ts)
  | _ + 1, _ => none

/-- The items of an array up to its end, and what follows it. -/
def items? : Nat → List Token → Option (List Value × List Token)
  | 0, _ => none
  | fuel + 1, ts =>
    (skipLines ts).bind fun ts =>
      match ts with
      | .rightBracket :: ts => some ([], ts)
      | ts =>
        (value? fuel ts).bind fun (v, ts) =>
          (skipLines ts).bind fun ts =>
            match ts with
            | .comma :: ts => (items? fuel ts).map fun (vs, ts) => (v :: vs, ts)
            | .rightBracket :: ts => some ([v], ts)
            | _ => none

/-- The entries of a table on one line, after those already read, and what follows it. -/
def pairs? : Nat → List (String × Value) → List Token → Option (List (String × Value) × List Token)
  | 0, _, _ => none
  | fuel + 1, entries, ts =>
    (keys? ts.length ts).bind fun (ks, ts) =>
      match ts with
      | .equals :: ts =>
        (value? fuel (skipBlanks ts)).bind fun (v, ts) =>
          (addAt v ks entries).bind fun entries =>
            match skipBlanks ts with
            | .rightBrace :: ts => some (entries, ts)
            | .comma :: ts => pairs? fuel entries (skipBlanks ts)
            | _ => none
      | _ => none

end

/-! ### Sections -/

/-- A part of a document: its header, whether the header adds a table to an array, and
its entries. -/
structure Section where
  header : List String
  isItem : Bool
  entries : List (String × Value)

/-- A header after its first bracket, and what follows the line. -/
def header? (ts : List Token) : Option (Section × List Token) :=
  let (isItem, ts) := match ts with
    | .leftBracket :: ts => (true, ts)
    | ts => (false, ts)
  (keys? ts.length (skipBlanks ts)).bind fun (header, ts) =>
    let rest? := match isItem, ts with
      | true, .rightBracket :: .rightBracket :: ts => restOfLine? ts
      | false, .rightBracket :: ts => restOfLine? ts
      | _, _ => none
    rest?.map fun ts => (⟨header, isItem, []⟩, ts)

/-- An entry on lines of its own, and what follows them. -/
def assignment? (ts : List Token) : Option ((List String × Value) × List Token) :=
  (keys? ts.length ts).bind fun (ks, ts) =>
    match ts with
    | .equals :: ts =>
      (value? (2 * ts.length + 2) (skipBlanks ts)).bind fun (v, ts) =>
        (restOfLine? ts).map fun ts => ((ks, v), ts)
    | _ => none

def sections? : Nat → Section → List Token → Option (List Section)
  | 0, _, _ => none
  | fuel + 1, here, ts =>
    (skipLines ts).bind fun ts =>
      match ts with
      | [] => some [here]
      | .leftBracket :: ts =>
        (header? ts).bind fun (next, ts) => (sections? fuel next ts).map (here :: ·)
      | ts =>
        (assignment? ts).bind fun ((ks, v), ts) =>
          (addAt v ks here.entries).bind fun entries => sections? fuel { here with entries } ts

/-- The sections that begin with a header that adds a table, each with those up to the next. -/
def itemRuns : List Section → List (List Section)
  | [] => []
  | s :: rest =>
    match itemRuns rest with
    | [] => [[s]]
    | run :: runs =>
      if run.head?.any fun r => r.header.isEmpty && r.isItem then [s] :: run :: runs
      else (s :: run) :: runs

/-- The table that the sections are, each without the part of its header that they share; whether
the table has had a section of its own is carried along. -/
def tableOf? : Nat → Bool → List Section → Option (List (String × Value))
  | _, _, [] => some []
  | 0, _, _ => none
  | fuel + 1, hasOwn, s :: rest =>
    match s.header with
    | [] =>
      if hasOwn || s.isItem then none
      else (tableOf? fuel true rest).map (s.entries ++ ·)
    | k :: ks =>
      let isMine (r : Section) : Bool := r.header.head? == some k
      let mine := (s :: rest.filter isMine).map fun r => { r with header := r.header.tail }
      let value? : Option Value :=
        if s.isItem && ks.isEmpty then
          ((itemRuns mine).mapM fun run =>
            match run with
            | [] => none
            | own :: inner =>
              (tableOf? fuel true inner).map fun entries =>
                Value.table false (own.entries ++ entries)).map Value.array
        else (tableOf? fuel false mine).map (.table false)
      value?.bind fun v =>
        (tableOf? fuel hasOwn (rest.filter fun r => !isMine r)).map ((k, v) :: ·)

def document? (source : String) : Option (List (String × Value)) :=
  (tokens? source).bind fun ts =>
    (sections? (ts.length + 1) ⟨[], false, []⟩ ts).bind fun sections =>
      tableOf? (sections.foldl (fun fuel s => fuel + s.header.length + 1) 1) false sections

end Cartograph.Toml
