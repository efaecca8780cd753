import SchemaStructs.Config.Error
import SchemaStructs.Numeric.Numeral
import SchemaStructs.Text.Character

/-! # Durations

A duration is a decimal number with an optional unit, as in `500ms`, `3s`, `1.5m` or `2h`. A bare
number is in seconds. -/

namespace SchemaStructs.Config

open Numeric Text

/-- A time in seconds. -/
abbrev Seconds := Extended

inductive SecondsError where
  /-- greater or less than any number -/
  | unbounded
  | undefined
deriving DecidableEq, Repr

def SecondsError.message : SecondsError → String
  | unbounded => "cannot convert float infinity to integer"
  | undefined => "cannot convert float NaN to integer"

/-- Whole seconds for a connection, at least one. -/
def wholeSeconds : Seconds → Except SecondsError Int
  | .finite v => .ok (max 1 v.ceil)
  | .infinite _ => .error .unbounded
  | .undefined => .error .undefined

inductive TimeUnit where
  | millisecond
  | second
  | minute
  | hour
deriving DecidableEq, Repr

namespace TimeUnit

def ofText? (s : List Char) : Option TimeUnit :=
  match s with
  | [] | ['s'] => some second
  | ['m', 's'] => some millisecond
  | ['m'] => some minute
  | ['h'] => some hour
  | _ => none

def seconds : TimeUnit → Binary64
  | millisecond => .nearest 1 1000
  | second => .nearest 1 1
  | minute => .nearest 60 1
  | hour => .nearest 3600 1

end TimeUnit

/-- Decimal digits at the start of a text, of any script, and what follows them. -/
def takeDigits : List Char → List Nat × List Char
  | [] => ([], [])
  | c :: rest =>
    match decimalDigit? c with
    | some d =>
      let (ds, rest) := takeDigits rest
      (d :: ds, rest)
    | none => ([], c :: rest)

def natOfDigits (digits : List Nat) : Nat := digits.foldl (fun n d => 10 * n + d) 0

/-- A number of digits with an optional fraction at the start of a text. -/
def takeNumber? (s : List Char) : Option (Nat × Nat × List Char) :=
  match takeDigits s with
  | ([], _) => none
  | (whole, '.' :: rest) =>
    match takeDigits rest with
    | ([], _) => some (natOfDigits whole, 0, '.' :: rest)
    | (fraction, rest) => some (natOfDigits (whole ++ fraction), fraction.length, rest)
  | (whole, rest) => some (natOfDigits whole, 0, rest)

/-- The number and the unit are rounded to double precision, and so is their product. -/
def readDuration? (text : List Char) : Option Binary64 := do
  let (mantissa, places, rest) ← takeNumber? (trim text)
  let unit ← TimeUnit.ofText? (trim rest)
  pure ((Binary64.nearest mantissa (Nat.pow 10 places)).mul unit.seconds)

def parseDuration (text : String) : Except ConfigurationError Binary64 :=
  match readDuration? text.toList with
  | none => .error (.malformedDuration text)
  | some seconds =>
    if seconds.isZero then .error (.durationNotPositive text) else .ok seconds

end SchemaStructs.Config
