import SchemaStructs.Catalog.Assembly
import SchemaStructs.Log

/-! # References without a row -/

namespace SchemaStructs.Catalog

/-- Definitions that are resolved, and the oids without a row that were met on the way. -/
structure Walk where
  resolved : List Oid := []
  missing : List Oid := []

namespace TypeRows

variable (rows : TypeRows)

/-- Walks through a definition and the definitions it refers to, each once. An error ends the walk
where resolution fails. -/
def walk : Nat → List Oid → Walk → TypeRow → Except Walk Walk
  | 0, _, state, _ => .error state
  | steps + 1, path, state, row =>
    if state.resolved.contains row.oid then .ok state
    else if path.contains row.oid then .error state
    else do
      let after ← (rows.references row).foldlM (fun state oid =>
        match rows.unwrap oid (-1) 0 with
        | none => .error state
        | some (_, .missing oid) => .ok { state with missing := state.missing ++ [oid] }
        | some (_, .userDefined inner) => walk steps (row.oid :: path) state inner
        | some (_, .leaf _) => .ok state) state
      pure { after with resolved := row.oid :: after.resolved }

/-- The oids without a row that are met while the registry is built. -/
def missingInDefinitions : List Oid :=
  match rows.registered.foldlM (rows.walk (rows.types.length + 1) []) {} with
  | .ok state | .error state => state.missing

/-- The oid without a row that a reference ends in. -/
def missing? (oid : Oid) : Option Oid :=
  match rows.unwrap oid (-1) 0 with
  | some (_, .missing oid) => some oid
  | _ => none

end TypeRows

def missingRecord (oid : Oid) : Record := .debug s!"Type oid {oid} is not present in the catalog"

/-- Records of building a registry. -/
def registryLog (rows : TypeRows) : List Record :=
  rows.missingInDefinitions.map missingRecord ++
    match Registry.ofRows rows with
    | .ok registry =>
      [.debug s!"Built type catalog with {registry.size} user-defined types"]
    | .error _ => []

/-- Records of assembling tables, up to a column that has no type. -/
def assemblyLog (types : TypeRows) (rows : TableRows) : List Record :=
  let columns := rows.tables.flatMap fun t => rows.columnsOf t.oid
  ((columns.takeWhile fun c => (types.resolve c.type c.modifier c.dimensions).isOk).filterMap
    fun c => types.missing? c.type).map missingRecord

end SchemaStructs.Catalog
