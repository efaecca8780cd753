import SchemaStructs.Sorting

/-! # Paths and their imports -/

namespace SchemaStructs.Rust

/-- Cuts a reversed path at the separator that comes first in it. -/
def cutReversed : List Char → List Char × Option (List Char)
  | [] => ([], none)
  | [c] => ([c], none)
  | c :: d :: rest =>
    if c == ':' && d == ':' then ([], some rest)
    else
      let (name, parent) := cutReversed (d :: rest)
      (c :: name, parent)

/-- The parent of a path and its last segment. A path of one segment has the empty parent. -/
def splitPath (path : String) : String × String :=
  let (name, parent) := cutReversed path.toList.reverse
  (.ofList (parent.getD []).reverse, .ofList name.reverse)

def lastSegment (path : String) : String := (splitPath path).2

/-- A `use` line for names of one parent. -/
def useLine (parent : String) (names : List String) : String :=
  match names with
  | [name] => s!"use {parent}::{name};"
  | _ =>
    let list := ", ".intercalate names
    s!"use {parent}::\x7b{list}\x7d;"

/-- One `use` line for each parent, parents and names in order. -/
def groupImports (paths : List String) : List String :=
  let split := paths.map splitPath
  (sortedSet .text (split.map Prod.fst)).map fun parent =>
    useLine parent (sortedSet .text ((split.filter (·.1 == parent)).map Prod.snd))

end SchemaStructs.Rust
