import UnitRouting.Text.Basic

/-! # Tables of code points

Two forms of table: ranges for a class of code points, and runs for a mapping that moves code
points by a constant. Both are sorted, so a search ends at the first entry beyond its target. -/

namespace UnitRouting

/-- Ascending, disjoint ranges of code points, both ends included. -/
abbrev Ranges := List (Nat × Nat)

/-- `n` lies in one of the ranges. -/
def Ranges.mem (n : Nat) : Ranges → Bool
  | [] => false
  | (first, last) :: rest =>
    if n < first then false else if n ≤ last then true else Ranges.mem n rest

/-- Every `step`-th code point from `first` to `last`, each moved by `shift`. -/
structure Run where
  first : Nat
  last : Nat
  step : Nat
  shift : Int

/-- Runs in ascending order. -/
abbrev Runs := List Run

/-- Where the runs move `n`; what is in none of them stays. -/
def Runs.apply (n : Nat) : Runs → Nat
  | [] => n
  | run :: rest =>
    if n < run.first then n
    else if n ≤ run.last then
      if (n - run.first) % run.step = 0 then (n + run.shift).toNat else Runs.apply n rest
    else Runs.apply n rest

/-- The entry of a code point in a table of special cases. -/
def specialCase (n : Nat) : List (Nat × List Nat) → Option (List Nat)
  | [] => none
  | (key, value) :: rest => if n = key then some value else specialCase n rest

end UnitRouting
