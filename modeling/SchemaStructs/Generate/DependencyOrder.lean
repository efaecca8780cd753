import SchemaStructs.Entries
import SchemaStructs.Mapping.Declaration

/-! # Order of declarations -/

namespace SchemaStructs.Generate

open Catalog Mapping

/-- Declarations visited so far, and those of them whose dependencies are all placed. -/
structure Placement where
  visited : List QualifiedName := []
  placed : List Declaration := []

/-- Places a declaration after the declarations it depends on. Every step visits one more
declaration, so the number of declarations bounds the steps. -/
def Placement.visit (declarations : Entries QualifiedName Declaration) :
    Nat → Placement → Declaration → Placement
  | 0, placement, _ => placement
  | steps + 1, placement, d =>
    if placement.visited.contains d.name then placement
    else
      let inner := ((sortedSet QualifiedName.le d.dependencies).filterMap declarations.get?).foldl
        (visit declarations steps) { placement with visited := d.name :: placement.visited }
      { inner with placed := inner.placed ++ [d] }

/-- Each composite stands after the declarations of the list that it uses; otherwise names
decide. -/
def dependencyOrder (declarations : List Declaration) : List Declaration :=
  let byName : Entries QualifiedName Declaration := .ofPairs (declarations.map fun d => (d.name, d))
  ((sortOn QualifiedName.le Declaration.name declarations).foldl
    (Placement.visit byName (declarations.length + 1)) {}).placed

end SchemaStructs.Generate
