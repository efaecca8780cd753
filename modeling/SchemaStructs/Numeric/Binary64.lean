import SchemaStructs.Numeric.Extended

/-! # Non-negative numbers of double precision -/

namespace SchemaStructs.Numeric

/-- A quotient rounded to the nearest natural number; a tie goes to the even neighbour. -/
def roundQuotient (numerator denominator : Nat) : Nat :=
  let q := numerator / denominator
  let r := numerator % denominator
  if 2 * r < denominator then q
  else if denominator < 2 * r then q + 1
  else q + q % 2

/-- A number `significand * 2 ^ exponent` with 53 bits at most and an exponent of at least -1074. -/
inductive Binary64 where
  | finite (significand : Nat) (exponent : Int)
  | infinite
deriving DecidableEq, Repr

namespace Binary64

/-- A numerator and denominator multiplied by a power of two. -/
def scale (n d : Nat) (power : Int) : Nat × Nat :=
  if 0 ≤ power then (n <<< power.toNat, d) else (n, d <<< (-power).toNat)

/-- The greatest `k` with `2 ^ k ≤ n / d`, for a positive quotient. -/
def floorLog2 (n d : Nat) : Int :=
  let guess := Int.ofNat n.log2 - Int.ofNat d.log2
  let (a, b) := scale n d (-guess)
  if b ≤ a then guess else guess - 1

/-- The number nearest to a quotient. -/
def nearest (n d : Nat) : Binary64 :=
  if n = 0 then finite 0 (-1074)
  else
    let exponent := max (floorLog2 n d - 52) (-1074)
    let (a, b) := scale n d (-exponent)
    let m := roundQuotient a b
    let (m, exponent) := if m = Nat.pow 2 53 then (Nat.pow 2 52, exponent + 1) else (m, exponent)
    if 971 < exponent then infinite else finite m exponent

def mul : Binary64 → Binary64 → Binary64
  | finite m e, finite m' e' =>
    let (a, b) := scale (m * m') 1 (e + e')
    nearest a b
  | _, _ => infinite

def isZero : Binary64 → Bool
  | finite m _ => m == 0
  | infinite => false

/-- The number itself. -/
def extended : Binary64 → Extended
  | finite m e =>
    let (a, b) := scale m 1 e
    .finite (mkRat a b)
  | infinite => .infinite false

/-- The number in the interchange format. -/
def bits : Binary64 → Nat
  | finite m e =>
    if m < Nat.pow 2 52 then m else (e + 1075).toNat * Nat.pow 2 52 + (m - Nat.pow 2 52)
  | infinite => 0x7ff * Nat.pow 2 52

end Binary64

end SchemaStructs.Numeric
