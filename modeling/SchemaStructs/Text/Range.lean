/-! # Character ranges -/

namespace SchemaStructs.Text

/-- First and last code point of a range. -/
abbrev Range := Nat × Nat

def inRanges (ranges : List Range) (code : Nat) : Bool :=
  ranges.any fun r => r.1 ≤ code && code ≤ r.2

/-- Every `step`-th code point from `first` to `last` is moved by `distance`. -/
structure Shift where
  first : Nat
  last : Nat
  step : Nat
  distance : Int

namespace Shift

def covers (s : Shift) (code : Nat) : Bool :=
  s.first ≤ code && code ≤ s.last && (code - s.first) % s.step == 0

def target (s : Shift) (code : Nat) : Nat :=
  (Int.ofNat code + s.distance).toNat

end Shift

def shifted? (shifts : List Shift) (code : Nat) : Option Nat :=
  (shifts.find? (·.covers code)).map (·.target code)

end SchemaStructs.Text
