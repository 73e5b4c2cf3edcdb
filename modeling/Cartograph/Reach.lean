import Cartograph.Graph

/-!
# Reachable classes

The classes that can be reached from a class in a bounded number of steps, nearest first. A step
follows a link to its target, or a link of implementation back to its source; test classes are never
entered.
-/

namespace Cartograph

open Text

/-- The record is of a test class, by the end of its name or by a segment of its package. -/
def ClassRecord.isTest (c : ClassRecord) : Bool :=
  c.simpleName.endsWith "Test" || (pieces '.' (asciiLower c.fqn)).dropLast.contains "test"

/-- A class that may be entered. -/
def Registry.admits (r : Registry) (id : ClassId) : Bool :=
  match r.class? id with
  | some c => !c.isTest
  | none => false

namespace Graph

/-- The classes one step away: targets of links, then implementations. -/
def neighbours (g : Graph) (r : Registry) (id : ClassId) : List ClassId :=
  let forward := (g.dependencies id).map (·.1)
  let backward :=
    ((g.dependents id).filter fun (_, kinds) => kinds.contains .implementing).map (·.1)
  (forward ++ backward).filter r.admits

/-- The classes met so far and those met in at most so many more rounds, where each round enters the
neighbours of the classes that the last one met. -/
def rounds (g : Graph) (r : Registry) : Nat → List ClassId → List ClassId → List ClassId
  | 0, met, _ => met
  | depth + 1, met, last =>
    match fresh met (last.flatMap (g.neighbours r)) with
    | [] => met
    | next => rounds g r depth (met ++ next) next

/-- The classes that can be reached from a class in at most so many steps. -/
def reachable (g : Graph) (r : Registry) (seed : ClassId) (depth : Nat) : List ClassId :=
  g.rounds r depth [seed] [seed]

end Graph

end Cartograph
