/-!
# Tables of code points

Three shapes of tables on the numbers of characters: ranges that share a property, runs whose
members lie at one distance from their images, and blocks of neighbours with a value each.
-/

namespace RegistrySync.Text

/-- One of the ranges, each given by its first and its last number, holds `n`. -/
def inRanges (ranges : List (Nat × Nat)) (n : Nat) : Bool :=
  ranges.any fun r => r.1 ≤ n && n ≤ r.2

/-- The value of the first range that holds `n`. -/
def rangeValue? {α : Type} (ranges : List (Nat × Nat × α)) (n : Nat) : Option α :=
  (ranges.find? fun r => r.1 ≤ n && n ≤ r.2.1).map fun r => r.2.2

/-- The numbers `first`, `first + step`, … up to `last`; their images lie as far from `target` as
they lie from `first`. -/
structure Run where
  first : Nat
  last : Nat
  step : Nat
  target : Nat

def Run.covers (r : Run) (n : Nat) : Bool :=
  r.first ≤ n && n ≤ r.last && (n - r.first) % r.step == 0

/-- The image of `n` in the first run that covers it. -/
def runImage? (runs : List Run) (n : Nat) : Option Nat :=
  (runs.find? (·.covers n)).map fun r => r.target + (n - r.first)

/-- The value of `n` in blocks that give their first number and the values from there on. -/
def blockValue? {α : Type} (blocks : List (Nat × List α)) (n : Nat) : Option α :=
  blocks.findSome? fun b => if b.1 ≤ n then b.2[n - b.1]? else none

end RegistrySync.Text
