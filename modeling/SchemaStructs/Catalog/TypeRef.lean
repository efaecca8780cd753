import SchemaStructs.Catalog.QualifiedName

/-! # Catalog types -/

namespace SchemaStructs.Catalog

/-- A built-in or extension base type with its decoded modifiers. -/
structure Scalar where
  kind : String
  precision : Option Int := none
  scale : Option Int := none
  length : Option Int := none
deriving DecidableEq, Repr

/-- What stands in for a type that is not recognised. -/
structure Unrecognized where
  rawName : String
  reason : String := "unrecognized type"
deriving DecidableEq, Repr

/-- An attribute of a composite type. -/
structure Attribute (τ : Type) where
  name : String
  type : τ
  notNull : Bool := false
deriving Repr

/-- A resolved type. `foreign` is a value that is no type at all, given by the sort of value it
is. -/
inductive TypeRef where
  | scalar (type : Scalar)
  | array (element : TypeRef) (dimension : Nat)
  | enum (name : QualifiedName) (labels : List String)
  | composite (name : QualifiedName) (fields : List (Attribute TypeRef))
  | range (subtype : TypeRef) (name : String)
  | domain (name : QualifiedName) (underlying : TypeRef) (notNull : Bool)
  | unrecognized (type : Unrecognized)
  | foreign (sort : String)
deriving Repr

/-- An array has at least one dimension. -/
structure DimensionError where
  dimension : Int
deriving DecidableEq, Repr

namespace DimensionError

def message (e : DimensionError) : String :=
  s!"array dimension must be at least 1, got {e.dimension}"

end DimensionError

namespace TypeRef

def array? (element : TypeRef) (dimension : Int) : Except DimensionError TypeRef :=
  if dimension < 1 then .error ⟨dimension⟩ else .ok (.array element dimension.toNat)

/-- A chain of domains one of which is declared `NOT NULL`. -/
def isNotNullDomain : TypeRef → Bool
  | .domain _ underlying notNull => notNull || underlying.isNotNullDomain
  | _ => false

/-- The name under which a type is registered. -/
def registeredName? : TypeRef → Option QualifiedName
  | .enum name _ | .composite name _ | .domain name _ _ => some name
  | _ => none

def isEnum : TypeRef → Bool
  | .enum .. => true
  | _ => false

def isComposite : TypeRef → Bool
  | .composite .. => true
  | _ => false

def isDomain : TypeRef → Bool
  | .domain .. => true
  | _ => false

/-- The types a type is directly made of. -/
def parts : TypeRef → List TypeRef
  | .array element _ => [element]
  | .composite _ fields => fields.map (·.type)
  | .range subtype _ => [subtype]
  | .domain _ underlying _ => [underlying]
  | _ => []

end TypeRef

end SchemaStructs.Catalog
