import Cartograph.Registry

/-!
# Tables of places

For each class the places of the entries of a list that belong to it, so that its entries can be
found without a search.
-/

namespace Cartograph

/-- The classes that have entries, each with the places of its entries. -/
structure Places where
  rows : List (ClassId × List Nat) := []
deriving DecidableEq, Inhabited

namespace Places

/-- The rows with a further place of a class, which gets a row if it has none. -/
def addTo (id : ClassId) (place : Nat) : List (ClassId × List Nat) → List (ClassId × List Nat)
  | [] => [(id, [place])]
  | (other, places) :: rows =>
    if other = id then (other, places ++ [place]) :: rows
    else (other, places) :: addTo id place rows

/-- The table with a further place, if it is that of an entry of a class. -/
def add (t : Places) (id? : Option ClassId) (place : Nat) : Places :=
  match id? with
  | some id => ⟨addTo id place t.rows⟩
  | none => t

/-- The table of a list, whose entries belong to the classes that `key?` gives. -/
def of {α : Type} (key? : α → Option ClassId) (entries : List α) : Places :=
  entries.zipIdx.foldl (fun t (entry, place) => t.add (key? entry) place) {}

def placesOf (t : Places) (id : ClassId) : List Nat := (t.rows.lookup id).getD []

def contains (t : Places) (id : ClassId) : Bool := (t.rows.lookup id).isSome

/-- The entries of a class, taken from the list that the table is about. -/
def entriesOf {α : Type} (t : Places) (entries : List α) (id : ClassId) : List α :=
  (t.placesOf id).filterMap (entries[·]?)

end Places

end Cartograph
