import SchemaStructs.Entries
import SchemaStructs.Identifier.Naming
import SchemaStructs.Sorting

/-! # Assignment of identifiers to names

Distinct names of one scope need distinct identifiers. -/

namespace SchemaStructs.Identifier

/-- `first` and `second` both have the identifier `identifier`. -/
structure Collision where
  identifier : String
  first : String
  second : String
  scope : String
deriving DecidableEq, Repr

namespace Collision

def message (c : Collision) : String :=
  s!"'{c.first}' and '{c.second}' both resolve to the {c.scope} identifier '{c.identifier}'"

end Collision

/-- File names are compared without case. -/
inductive CaseMode where
  | sensitive
  | insensitive
deriving DecidableEq, Repr

/-- What two identifiers are compared by. -/
def CaseMode.key (mode : CaseMode) (identifier : String) : String :=
  match mode with
  | .sensitive => bare identifier
  | .insensitive => Text.lowercase (bare identifier)

/-- Identifiers given so far, and the last name that took each key. -/
structure Assigned where
  identifiers : Entries String String := []
  owners : Entries String String := []
deriving Repr

/-- A name with its identifier. -/
abbrev Named := String × String

def Assigned.add (scope : String) (mode : CaseMode) (assigned : Assigned) (named : Named) :
    Except Collision Assigned :=
  let (source, identifier) := named
  let key := mode.key identifier
  let next : Assigned :=
    ⟨assigned.identifiers.put source identifier, assigned.owners.put key source⟩
  match assigned.owners.get? key with
  | some owner => if owner = source then .ok next else .error ⟨identifier, owner, source, scope⟩
  | none => .ok next

/-- The identifier of each name, or the first collision. A name that occurs again takes its last
identifier. -/
def assign (scope : String) (mode : CaseMode) (pairs : List Named) :
    Except Collision (Entries String String) :=
  (·.identifiers) <$> pairs.foldlM (Assigned.add scope mode) {}

/-- Structs for table names, in the order of the names. -/
def assignTables (singular : Bool) (names : List String) :
    Except Collision (Entries String String) :=
  assign "struct" .sensitive <|
    (sortedSet .text names).map fun name => (name, tableName singular name)

end SchemaStructs.Identifier
