import SchemaStructs.Catalog.Resolution

/-! # Registry of user-defined types -/

namespace SchemaStructs.Catalog

/-- Enums, composites and domains by name, and the rows they were resolved from, if any. -/
structure Registry where
  entries : Entries QualifiedName TypeRef
  rows : Option TypeRows := none

namespace Registry

def ofEntries (entries : Entries QualifiedName TypeRef) (rows : Option TypeRows) : Registry :=
  ⟨sortOn QualifiedName.le Prod.fst entries, rows⟩

/-- Resolves the definition of every registered row. -/
def ofRows (rows : TypeRows) : Except ResolutionError Registry := do
  let entries ← rows.registered.foldlM (fun (entries : Entries QualifiedName TypeRef) row => do
    pure (entries.put row.qualifiedName (← rows.define row))) []
  pure (ofEntries entries (some rows))

mutual

/-- Registers a type and the types inside it, the last part first. -/
def register (entries : Entries QualifiedName TypeRef) (type : TypeRef) :
    Entries QualifiedName TypeRef :=
  match type with
  | .enum name labels => entries.put name (.enum name labels)
  | .composite name fields =>
    registerFields (entries.put name (.composite name fields)) fields
  | .domain name underlying notNull =>
    register (entries.put name (.domain name underlying notNull)) underlying
  | .array element _ => register entries element
  | .range subtype _ => register entries subtype
  | _ => entries

def registerFields (entries : Entries QualifiedName TypeRef) :
    List (Attribute TypeRef) → Entries QualifiedName TypeRef
  | [] => entries
  | field :: rest => register (registerFields entries rest) field.type

end

/-- A registry of given types, later ones first, and of all types inside them. A name that occurs
again takes the later definition. -/
def ofTypes (types : List TypeRef) : Registry :=
  ofEntries (types.foldr (fun type entries => register entries type) []) none

variable (registry : Registry)

def get? (name : QualifiedName) : Option TypeRef := registry.entries.get? name

def contains (name : QualifiedName) : Bool := registry.entries.has name

def size : Nat := registry.entries.length

def names : List QualifiedName := registry.entries.keys

def types : List TypeRef := registry.entries.map Prod.snd

def enums : List TypeRef := registry.types.filter (·.isEnum)

def composites : List TypeRef := registry.types.filter (·.isComposite)

def domains : List TypeRef := registry.types.filter (·.isDomain)

/-- The type of a column. A registry of given types knows no rows to resolve it by. -/
def resolve (oid : Oid) (modifier dimensions : Int) : Except ResolutionError TypeRef :=
  match registry.rows with
  | some rows => rows.resolve oid modifier dimensions
  | none => .ok (.unrecognized ⟨s!"oid {oid}", "type not found in catalog"⟩)

end Registry

end SchemaStructs.Catalog
