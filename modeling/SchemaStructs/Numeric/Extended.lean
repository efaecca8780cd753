/-! # Rational numbers with infinities -/

namespace SchemaStructs.Numeric

/-- A number, one beyond all others, or the undefined value, which is in no order with any. -/
inductive Extended where
  | finite (value : Rat)
  | infinite (negative : Bool)
  | undefined
deriving DecidableEq, Repr

namespace Extended

def isDefined : Extended → Bool
  | undefined => false
  | _ => true

def negate : Extended → Extended
  | finite v => finite (-v)
  | infinite negative => infinite !negative
  | undefined => undefined

def less : Extended → Extended → Bool
  | finite a, finite b => decide (a < b)
  | infinite negative, finite _ => negative
  | finite _, infinite negative => !negative
  | infinite a, infinite b => a && !b
  | _, _ => false

theorem less_irrefl : (x : Extended) → x.less x = false
  | finite _ => decide_eq_false Rat.lt_irrefl
  | infinite negative => by cases negative <;> rfl
  | undefined => rfl

end Extended

end SchemaStructs.Numeric
