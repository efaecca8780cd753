import SchemaStructs.Catalog.TypeRef

/-! # Type modifiers

The server packs precision, scale and length of a column into one integer whose layout depends on
the type. -/

namespace SchemaStructs.Catalog

structure Modifiers where
  precision : Option Int := none
  scale : Option Int := none
  length : Option Int := none
deriving DecidableEq, Repr

namespace Modifiers

/-- Modifiers of types with a variable length are stored with the size of a length header added. -/
def headerSize : Int := 4

/-- The scale of a number is a signed field of eleven bits. -/
def signedScale (field : Int) : Int := (field + 1024) % 2048 - 1024

def ofNumeric (packed : Int) : Modifiers :=
  { precision := some (packed / 65536 % 65536), scale := some (signedScale packed) }

/-- The low half of an interval's modifier is its precision, all ones standing for none. -/
def ofInterval (packed : Int) : Modifiers :=
  { precision := if packed % 65536 = 65535 then none else some (packed % 65536) }

/-- A negative modifier is an absent one. -/
def decode (kind : String) (modifier : Int) : Modifiers :=
  if modifier < 0 then {}
  else if kind = "numeric" then
    if modifier < headerSize then {} else ofNumeric (modifier - headerSize)
  else if kind = "varchar" ∨ kind = "bpchar" then
    if modifier < headerSize then {} else { length := some (modifier - headerSize) }
  else if kind = "bit" ∨ kind = "varbit" then { length := some modifier }
  else if kind = "time" ∨ kind = "timetz" ∨ kind = "timestamp" ∨ kind = "timestamptz" then
    { precision := some modifier }
  else if kind = "interval" then ofInterval modifier
  else {}

def decode? (kind : String) (modifier : Option Int) : Modifiers :=
  match modifier with
  | some m => decode kind m
  | none => {}

end Modifiers

def Scalar.ofModifier (kind : String) (modifier : Int) : Scalar :=
  let m := Modifiers.decode kind modifier
  ⟨kind, m.precision, m.scale, m.length⟩

end SchemaStructs.Catalog
