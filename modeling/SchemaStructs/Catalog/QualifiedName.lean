import SchemaStructs.Sorting

/-! # Schema-qualified names -/

namespace SchemaStructs.Catalog

structure QualifiedName where
  schema : String
  name : String
deriving DecidableEq, Repr

namespace QualifiedName

/-- The name with its schema, as in `public.users`. -/
def text (n : QualifiedName) : String := n.schema ++ "." ++ n.name

/-- Names are ordered by schema first. -/
def le : Comparison QualifiedName := fun a b =>
  Comparison.pair .text .text (a.schema, a.name) (b.schema, b.name)

end QualifiedName

end SchemaStructs.Catalog
