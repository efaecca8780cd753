import SchemaStructs.Catalog.Modifier
import SchemaStructs.Catalog.Row
import SchemaStructs.Catalog.TypeRef
import SchemaStructs.Entries

/-! # Resolution of type rows

Rows refer to each other by oid. Resolution expands a reference to a type: it looks through arrays
and ranges to the row they end in, and expands the definition of an enum, composite or domain found
there. A definition that is met again while it is being expanded is a cycle. -/

namespace SchemaStructs.Catalog

/-- The rows that define types: one row for each oid, labels and attributes. -/
structure TypeRows where
  types : Entries Oid TypeRow
  labels : List LabelRow
  attributes : List AttributeRow

/-- Why a reference has no type. -/
inductive ResolutionError where
  /-- the names on the way from a definition to itself -/
  | cycle (path : List String)
  /-- arrays and ranges that refer to each other and to nothing else -/
  | endless
deriving DecidableEq, Repr

/-- An array or range around a type. -/
inductive Wrapper where
  | array (dimension : Nat)
  | range (name : String)
deriving DecidableEq, Repr

def Wrapper.wrap : Wrapper → TypeRef → TypeRef
  | .array dimension, type => .array type dimension
  | .range name, type => .range type name

/-- What a reference ends in once arrays and ranges are taken off. -/
inductive Core where
  | missing (oid : Oid)
  | userDefined (row : TypeRow)
  | leaf (type : TypeRef)

namespace TypeRows

/-- Of two rows with one oid the later counts. -/
def ofRows (types : List TypeRow) (labels : List LabelRow) (attributes : List AttributeRow) :
    TypeRows :=
  ⟨.ofPairs (types.map fun row => (row.oid, row)), labels, attributes⟩

variable (rows : TypeRows)

def row? (oid : Oid) : Option TypeRow := rows.types.get? oid

/-- The labels of an enum in sort order. -/
def labelsOf (oid : Oid) : List String :=
  let own := rows.labels.filter (·.type == oid)
  let order (row : LabelRow) : Numeric.Extended := row.sortOrder.value
  let sorted := if own.all fun row => (order row).isDefined then sortOn .extended order own
    else arrange (fun a b => (order a).less (order b)) own
  sorted.map (·.label)

/-- The attributes of a composite in ordinal order. -/
def attributesOf (oid : Oid) : List AttributeRow :=
  sortOn .integer (·.ordinal) (rows.attributes.filter (·.owner == oid))

/-- Takes arrays and ranges off a reference, the outermost first. `none` if they have no end; a
chain longer than the list of rows repeats itself. -/
def unwrapWith : Nat → Oid → Int → Int → Option (List Wrapper × Core)
  | 0, _, _, _ => none
  | steps + 1, oid, modifier, dimensions =>
    match rows.row? oid with
    | none => some ([], .missing oid)
    | some row =>
      if row.isArray then
        (unwrapWith steps row.element modifier 0).map fun (ws, core) =>
          (.array (max dimensions 1).toNat :: ws, core)
      else if row.isUserDefined then some ([], .userDefined row)
      else if row.kind = "r" then
        match row.rangeSubtype with
        | none => some ([], .leaf (.unrecognized ⟨row.name, "range subtype not found in catalog"⟩))
        | some subtype =>
          (unwrapWith steps subtype (-1) 0).map fun (ws, core) => (.range row.name :: ws, core)
      else if row.kind = "m" then
        some ([], .leaf (.unrecognized ⟨row.name, "multirange types are not supported"⟩))
      else some ([], .leaf (.scalar (.ofModifier row.name modifier)))

def unwrap (oid : Oid) (modifier dimensions : Int) : Option (List Wrapper × Core) :=
  rows.unwrapWith (rows.types.length + 1) oid modifier dimensions

/-- The definition that a reference ends in, if a user defined it. -/
def definition? (oid : Oid) : Option TypeRow :=
  match rows.unwrap oid (-1) 0 with
  | some (_, .userDefined row) => some row
  | _ => none

/-- Resolves a reference, given how a definition is expanded. -/
def resolveWith (expand : TypeRow → Except ResolutionError TypeRef)
    (oid : Oid) (modifier dimensions : Int) : Except ResolutionError TypeRef :=
  match rows.unwrap oid modifier dimensions with
  | none => .error .endless
  | some (wrappers, core) => do
    let inner ← match core with
      | .missing oid => pure (.unrecognized ⟨s!"oid {oid}", "type not found in catalog"⟩)
      | .userDefined row => expand row
      | .leaf type => pure type
    pure (wrappers.foldr Wrapper.wrap inner)

/-- A definition that is being expanded. -/
abbrev Visit := Oid × String

/-- The names from the first visit of `oid` to the last, with the name of `oid` at the end. -/
def cycleAt (path : List Visit) (row : TypeRow) : List String :=
  (path.dropWhile (·.1 != row.oid)).map Prod.snd ++ [row.qualifiedName.text]

/-- Expands a definition. `path` holds the definitions being expanded, the outermost first; each is
expanded at most once on a path, so as many steps as there are rows are enough. -/
def expand : Nat → List Visit → TypeRow → Except ResolutionError TypeRef
  | 0, _, _ => .error .endless
  | steps + 1, path, row =>
    let name := row.qualifiedName
    if path.any (·.1 == row.oid) then .error (.cycle (cycleAt path row))
    else
      let resolve := rows.resolveWith (expand steps (path ++ [(row.oid, name.text)]))
      if row.kind = "e" then .ok (.enum name (rows.labelsOf row.oid))
      else if row.kind = "c" then
        if row.isRelationRow then
          .ok (.unrecognized ⟨name.text, "row types of tables and views are not supported"⟩)
        else do
          let fields ← (rows.attributesOf row.oid).mapM fun a => do
            let type ← resolve a.type a.modifier a.dimensions
            pure (Attribute.mk a.name type a.notNull)
          pure (.composite name fields)
      else do
        let underlying ← resolve row.base row.baseModifier 0
        pure (.domain name underlying row.notNull)

def define (row : TypeRow) : Except ResolutionError TypeRef :=
  rows.expand (rows.types.length + 1) [] row

/-- The type of a column or attribute, with its modifier and number of array dimensions. -/
def resolve (oid : Oid) (modifier dimensions : Int) : Except ResolutionError TypeRef :=
  rows.resolveWith rows.define oid modifier dimensions

/-- The rows of the registry, in the order in which they are resolved. -/
def registered : List TypeRow :=
  (sortOn QualifiedName.le (·.qualifiedName) (rows.types.map Prod.snd)).filter (·.isRegistered)

/-- The references in the definition of a row. -/
def references (row : TypeRow) : List Oid :=
  if row.kind = "c" then
    if row.isRelationRow then [] else (rows.attributesOf row.oid).map (·.type)
  else if row.kind = "d" then [row.base]
  else []

end TypeRows

end SchemaStructs.Catalog
