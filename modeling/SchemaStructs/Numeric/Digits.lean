/-! # Numbers written in digits -/

namespace SchemaStructs.Numeric

/-- The greatest number of digits of an integer that is read from a text. -/
def maxIntegerDigits : Nat := 4300

/-- Why a text of digits is no integer. -/
inductive IntegerError where
  | noDigits
  | tooManyDigits (count : Nat)
deriving DecidableEq, Repr

def IntegerError.message : IntegerError → String
  | noDigits => "invalid literal for int() with base 10: ''"
  | tooManyDigits count =>
    "Exceeds the limit (" ++ toString maxIntegerDigits ++
      " digits) for integer string conversion: value has " ++ toString count ++
      " digits; use sys.set_int_max_str_digits() to increase the limit"

/-- Digits that an integer can have. -/
def checkDigits (digits : List Char) : Except IntegerError Unit :=
  if digits.isEmpty then .error .noDigits
  else if maxIntegerDigits < digits.length then .error (.tooManyDigits digits.length)
  else .ok ()

def digitsValue (digits : List Char) : Nat :=
  digits.foldl (fun n c => 10 * n + (c.toNat - '0'.toNat)) 0

def isHexDigit (c : Char) : Bool :=
  c.isDigit || ('a' ≤ c && c ≤ 'f') || ('A' ≤ c && c ≤ 'F')

/-- The value of a hexadecimal digit. -/
def hexValue (c : Char) : Nat :=
  if c.isDigit then c.toNat - '0'.toNat
  else if 'a' ≤ c then c.toNat - 'a'.toNat + 10
  else c.toNat - 'A'.toNat + 10

end SchemaStructs.Numeric
