import SchemaStructs.Generate.Plan

/-! # Generated files -/

namespace SchemaStructs.Generate

open Catalog

structure Options where
  singular : Bool := false
  framework : Framework := .plain
  excluded : List String := []
deriving DecidableEq, Repr

/-- Files by name, the structs in them, and warnings. -/
structure Artifacts where
  files : List (String × String)
  structs : List Struct
  warnings : List Warning

namespace Plan

/-- The file of a struct. -/
def structFile (plan : Plan) (framework : Framework) (s : Struct) :
    Except GenerationError (String × String) := do
  let imported ← plan.importedBy s
  let text ← tableFile framework s (plan.ownedBy s.moduleName) imported
  pure (s.moduleName ++ ".rs", text)

/-- The file of every struct, and the index. -/
def files (plan : Plan) (framework : Framework) :
    Except GenerationError (List (String × String)) := do
  let structFiles ← plan.structs.mapM (plan.structFile framework)
  let index := indexFile plan.structs plan.ownership.owned
  let entries : Entries String String := .ofPairs (structFiles ++ [(indexFileName, index)])
  pure (sortOn .text Prod.fst entries)

/-- A record for each file up to the first that cannot be written. -/
def renderLog (plan : Plan) (framework : Framework) : List Record :=
  (plan.structs.takeWhile fun s => (plan.structFile framework s).isOk).map fun s =>
    let owned := (plan.ownedBy s.moduleName).length
    .debug s!"Rendered {s.moduleName}.rs ({s.fields.length} fields, {owned} declarations)"

end Plan

/-- One module for each included table of a snapshot, and the index of modules. -/
def generate (snapshot : Snapshot) (options : Options) : Except GenerationError Artifacts := do
  let plan ← planOf snapshot options.singular options.excluded
  let files ← plan.files options.framework
  pure ⟨files, plan.structs, plan.warnings⟩

def generationLog (snapshot : Snapshot) (options : Options) : List Record :=
  exclusionLog snapshot.tables options.excluded ++
    match planOf snapshot options.singular options.excluded with
    | .ok plan => plan.renderLog options.framework
    | .error _ => []

end SchemaStructs.Generate
