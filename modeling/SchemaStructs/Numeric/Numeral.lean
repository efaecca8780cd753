import SchemaStructs.Numeric.Binary64
import SchemaStructs.Numeric.Digits
import SchemaStructs.Numeric.Extended

/-! # Numbers as they are written

An integer is exact. A number with a fraction or an exponent stands for the nearest number of double
precision. -/

namespace SchemaStructs.Numeric

inductive Numeral where
  | integer (value : Int)
  /-- the number `mantissa / 10 ^ places` -/
  | decimal (mantissa : Int) (places : Nat)
  | infinite (negative : Bool)
  | undefined
deriving DecidableEq, Repr

namespace Numeral

def signed (negative : Bool) (n : Nat) : Int := if negative then -n else n

/-- A bound on the decimal exponents of double precision, on both sides. -/
def exponentBound : Int := 400

/-- The number `digits * 10 ^ exponent`. One that is too great for double precision is infinite, and
one that is too small is zero. -/
def ofScientific (negative : Bool) (digits : List Char) (exponent : Int) : Numeral :=
  let digits := digits.dropWhile (· == '0')
  let size := Int.ofNat digits.length + exponent
  if digits.isEmpty || size < -exponentBound then decimal 0 1
  else if exponentBound < size then infinite negative
  else if 0 ≤ exponent then
    decimal (signed negative (digitsValue digits * Nat.pow 10 (exponent.toNat + 1))) 1
  else decimal (signed negative (digitsValue digits)) (-exponent).toNat

/-- Digits with an optional sign. -/
def exponent? (s : List Char) : Option Int :=
  let (negative, digits) := match s with
    | '-' :: rest => (true, rest)
    | '+' :: rest => (false, rest)
    | _ => (false, s)
  if digits.isEmpty || !digits.all Char.isDigit then none
  else some (signed negative (digitsValue digits))

/-- A number without its sign. -/
def ofUnsigned? (negative : Bool) (s : List Char) : Option Numeral :=
  let (whole, rest) := s.span Char.isDigit
  let (fraction, rest) := match rest with
    | '.' :: rest => rest.span Char.isDigit
    | _ => ([], rest)
  if whole.isEmpty then none
  else
    match rest with
    | [] =>
      if whole.length = s.length then some (integer (signed negative (digitsValue whole)))
      else some (ofScientific negative (whole ++ fraction) (-fraction.length))
    | e :: exponent =>
      if e == 'e' || e == 'E' then
        (exponent? exponent).map fun exponent =>
          ofScientific negative (whole ++ fraction) (exponent - fraction.length)
      else none

def ofText? (text : String) : Option Numeral :=
  if text = "NaN" then some undefined
  else
    let (negative, rest) := match text.toList with
      | '-' :: rest => (true, rest)
      | s => (false, s)
    if rest = "Infinity".toList then some (infinite negative) else ofUnsigned? negative rest

/-- A decimal is written without an exponent. -/
def text : Numeral → String
  | integer n => toString n
  | decimal m places =>
    let digits := toString m.natAbs
    let padded := List.replicate (places + 1 - digits.length) '0' ++ digits.toList
    let (whole, fraction) := padded.splitAt (padded.length - places)
    (if m < 0 then "-" else "") ++ .ofList whole ++ "." ++ .ofList fraction
  | infinite negative => if negative then "-Infinity" else "Infinity"
  | undefined => "NaN"

def value : Numeral → Extended
  | integer n => .finite n
  | decimal m places =>
    let magnitude := (Binary64.nearest m.natAbs (Nat.pow 10 places)).extended
    if m < 0 then magnitude.negate else magnitude
  | infinite negative => .infinite negative
  | undefined => .undefined

end Numeral

end SchemaStructs.Numeric
