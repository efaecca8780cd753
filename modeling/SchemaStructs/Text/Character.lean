import SchemaStructs.Text.AlphanumericTable
import SchemaStructs.Text.DigitTable
import SchemaStructs.Text.PrintableTable

/-! # Character classes -/

namespace SchemaStructs.Text

/-- Letters, and characters with a numeric value. -/
def isAlphanumeric (c : Char) : Bool :=
  if c.toNat < 0x80 then c.isAlphanum else inRanges alphanumericRanges c.toNat

/-- Digits of any script, superscript and circled ones included. -/
def isDigit (c : Char) : Bool :=
  if c.toNat < 0x80 then c.isDigit else inRanges digitRanges c.toNat

/-- The value of a decimal digit of any script. -/
def decimalDigit? (c : Char) : Option Nat :=
  if c.isDigit then some (c.toNat - '0'.toNat)
  else (decimalRanges.find? fun r => r.1 ≤ c.toNat && c.toNat ≤ r.2).map
    fun r => (c.toNat - r.1) % 10

def isPrintable (c : Char) : Bool :=
  if c.toNat < 0x80 then 0x20 ≤ c.toNat && c.toNat < 0x7f else inRanges printableRanges c.toNat

/-- The characters that separate words: ASCII blanks and control separators, and the spaces and line
ends of Unicode. -/
def isBlank (c : Char) : Bool :=
  let n := c.toNat
  (0x09 ≤ n && n ≤ 0x0d) || (0x1c ≤ n && n ≤ 0x20) || n == 0x85 || n == 0xa0 || n == 0x1680 ||
    (0x2000 ≤ n && n ≤ 0x200a) || n == 0x2028 || n == 0x2029 || n == 0x202f || n == 0x205f ||
    n == 0x3000

theorem isAlphanumeric_of_ascii {c : Char} (h : c.toNat < 0x80) :
    isAlphanumeric c = c.isAlphanum := if_pos h

theorem isDigit_of_ascii {c : Char} (h : c.toNat < 0x80) : isDigit c = c.isDigit := if_pos h

/-- Text without the blanks at its ends. -/
def trim (s : List Char) : List Char :=
  ((s.dropWhile isBlank).reverse.dropWhile isBlank).reverse

/-- The maximal runs of characters that are no separator. -/
def runs (isSeparator : Char → Bool) : List Char → List (List Char)
  | [] => []
  | c :: rest =>
    if isSeparator c then runs isSeparator rest
    else match rest, runs isSeparator rest with
      | d :: _, run :: others => if isSeparator d then [c] :: run :: others
        else (c :: run) :: others
      | _, others => [c] :: others

end SchemaStructs.Text
