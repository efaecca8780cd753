import SchemaStructs.Generate.Artifacts
import SchemaStructs.Proofs.Catalog.RowOrder
import SchemaStructs.Server.Reader

/-!
# Output and the order of rows

Generation reads a registry through its entries only. Since answers in another order give the same
entries and the same tables, they give the same files, structs and warnings, and the same errors.
-/

namespace SchemaStructs

open Catalog Mapping Generate

/-! ## Generation from the entries of a registry -/

namespace Mapping

variable {registry registry' : Registry}

end Mapping

namespace Generate

variable {registry registry' : Registry}

/-- Snapshots of the same tables and types. -/
structure SameCatalog (snapshot snapshot' : Snapshot) : Prop where
  tables : snapshot.tables = snapshot'.tables
  types : snapshot.types.Alike snapshot'.types
  serverVersion : snapshot.serverVersion = snapshot'.serverVersion

end Generate

/-! ## Answers in another order -/

namespace Server

/-- The answers to the queries for types and tables. -/
structure Answers where
  types : List TypeRow
  labels : List LabelRow
  attributes : List AttributeRow
  tables : List TableRow
  columns : List ColumnRow
  keys : List KeyRow
  foreignKeys : List ForeignKeyRow

namespace Answers

def typeRows (a : Answers) : TypeRows := .ofRows a.types a.labels a.attributes

def tableRows (a : Answers) : TableRows := ⟨a.tables, a.columns, a.keys, a.foreignKeys⟩

/-- What is captured with these answers. -/
def snapshot (a : Answers) (version : Option String) : Except ResolutionError Snapshot :=
  Capture.snapshot ⟨a.typeRows, a.tableRows, version, a.types.length⟩

/-- The same rows, query by query, in another order. -/
structure Permuted (a b : Answers) : Prop where
  types : a.types.Perm b.types
  labels : a.labels.Perm b.labels
  attributes : a.attributes.Perm b.attributes
  tables : a.tables.Perm b.tables
  columns : a.columns.Perm b.columns
  keys : a.keys.Perm b.keys
  foreignKeys : a.foreignKeys.Perm b.foreignKeys

/-- Oids and names are given once, and no two rows of one enum, composite, table or constraint have
the same place in it. -/
structure Unambiguous (a : Answers) : Prop where
  type_oids : (a.types.map TypeRow.oid).Nodup
  type_names : ((a.types.filter TypeRow.isRegistered).map TypeRow.qualifiedName).Nodup
  table_names : (a.tables.map fun t => (⟨t.schema, t.name⟩ : QualifiedName)).Nodup
  labels : ∀ row ∈ a.types, row.kind = "e" →
    (a.labels.filter (·.type == row.oid)).Pairwise LabelRow.Separated
  attributes : ∀ row ∈ a.types, row.kind = "c" →
    ((a.attributes.filter (·.owner == row.oid)).map (·.ordinal)).Nodup
  columns : ∀ t ∈ a.tables, ((a.columns.filter (·.table == t.oid)).map (·.ordinal)).Nodup
  primaryKeys : ∀ t ∈ a.tables,
    ((a.keys.filter fun k => k.kind == "p" && k.table == t.oid).map (·.position)).Nodup
  foreignKeys : ∀ t ∈ a.tables, ∀ constraint,
    ((a.foreignKeys.filter fun k => k.table == t.oid && k.constraint == constraint).map
      (·.position)).Nodup

variable {a b : Answers}

theorem row?_typeRows_eq_some_iff (hoids : (a.types.map TypeRow.oid).Nodup) {oid : Oid}
    {row : TypeRow} : a.typeRows.row? oid = some row ↔ row ∈ a.types ∧ row.oid = oid :=
  TypeRows.row?_ofRows_eq_some_iff hoids

theorem Permuted.typeRows_alike (hperm : a.Permuted b) (h : a.Unambiguous) :
    a.typeRows.Alike b.typeRows := by
  have hoids : (b.types.map TypeRow.oid).Nodup := (hperm.types.map _).nodup_iff.1 h.type_oids
  have hrow : ∀ oid, a.typeRows.row? oid = b.typeRows.row? oid := by
    intro oid
    ext row
    rw [row?_typeRows_eq_some_iff h.type_oids, row?_typeRows_eq_some_iff hoids, hperm.types.mem_iff]
  constructor
  case length =>
    rw [typeRows, typeRows, TypeRows.types_ofRows h.type_oids, TypeRows.types_ofRows hoids]
    simp only [List.length_map]
    exact hperm.types.length_eq
  case row? => exact hrow
  case registered =>
    have hregistered := TypeRows.registered_perm h.type_oids a.labels a.attributes
    have hregistered' := TypeRows.registered_perm hoids b.labels b.attributes
    refine TypeRows.registered_eq_of_perm ?_ ((hregistered.map _).nodup_iff.2 h.type_names)
    exact hregistered.trans ((hperm.types.filter _).trans hregistered'.symm)
  case labelsOf =>
    intro row hrow hkind
    obtain ⟨hmem, -⟩ := (row?_typeRows_eq_some_iff h.type_oids).1 hrow
    exact TypeRows.labelsOf_eq_of_perm hperm.labels (h.labels row hmem hkind)
  case attributesOf =>
    intro row hrow hkind
    obtain ⟨hmem, -⟩ := (row?_typeRows_eq_some_iff h.type_oids).1 hrow
    exact TypeRows.attributesOf_eq_of_perm hperm.attributes (h.attributes row hmem hkind)

theorem Permuted.tableRows_alike (hperm : a.Permuted b) (h : a.Unambiguous) :
    a.tableRows.Alike b.tableRows where
  tables := hperm.tables
  names := h.table_names
  columnsOf t ht := TableRows.columnsOf_eq_of_perm hperm.columns (h.columns t ht)
  primaryKeyOf t ht := TableRows.primaryKeyOf_eq_of_perm hperm.keys (h.primaryKeys t ht)
  isUnique _ _ := hperm.keys.any_eq
  foreignKeysOf t ht := TableRows.foreignKeysOf_eq_of_perm hperm.foreignKeys (h.foreignKeys t ht)

/-- The same catalog is read from answers in another order, or reading fails in the same way. -/
theorem Permuted.snapshot (hperm : a.Permuted b) (h : a.Unambiguous) (version : Option String) :
    SameOutcome SameCatalog (a.snapshot version) (b.snapshot version) := by
  have hindexed : a.typeRows.Indexed := TypeRows.indexed_ofRows a.types a.labels a.attributes
  refine ((hperm.typeRows_alike h).ofRows hindexed).bind fun types types' hbuilt _ htypes => ?_
  have hendless : ∀ oid modifier dimensions e,
      types.resolve oid modifier dimensions = .error e → e = .endless :=
    fun _ _ _ _ he => Registry.eq_endless_of_resolve hindexed hbuilt he
  have htables := (hperm.tableRows_alike h).assemble_eq htypes hendless
  refine SameOutcome.bind (.of_eq htables) fun tables tables' _ _ he => ?_
  exact .ok ⟨he, htypes, rfl⟩

/-- The answers with the rows of each query in reverse. -/
def reversed (a : Answers) : Answers where
  types := a.types.reverse
  labels := a.labels.reverse
  attributes := a.attributes.reverse
  tables := a.tables.reverse
  columns := a.columns.reverse
  keys := a.keys.reverse
  foreignKeys := a.foreignKeys.reverse

/-- Orders that refer to customers, with an enum and a composite that uses it. -/
def shop : Answers where
  types := [⟨1, "public", "state", "e", "E", 0, 0, -1, false, 0, none, none⟩,
    ⟨2, "pg_catalog", "int4", "b", "N", 0, 0, -1, false, 0, none, none⟩,
    ⟨3, "public", "step", "c", "C", 0, 0, -1, false, 0, some "c", none⟩]
  labels := [⟨1, "open", .integer 1⟩, ⟨1, "closed", .integer 2⟩]
  attributes := [⟨3, "state", 1, 1, -1, 0, true⟩, ⟨3, "rank", 2, 2, -1, 0, false⟩]
  tables := [⟨10, "public", "orders", "r"⟩, ⟨11, "public", "customers", "r"⟩]
  columns := [⟨10, "id", 1, 2, -1, 0, true, false, false, false, ""⟩,
    ⟨10, "customer", 2, 2, -1, 0, true, false, false, false, ""⟩,
    ⟨10, "step", 3, 3, -1, 0, false, false, false, false, ""⟩,
    ⟨11, "id", 1, 2, -1, 0, true, false, false, false, ""⟩]
  keys := [⟨10, "orders_pkey", "p", "id", 1, 1⟩, ⟨11, "customers_pkey", "p", "id", 1, 1⟩]
  foreignKeys := [⟨10, "orders_customer", "public", "customers", "customer", "id", 1⟩]

theorem shop_unambiguous : shop.Unambiguous where
  type_oids := by decide
  type_names := by decide
  table_names := by decide
  labels := by decide
  attributes := by decide
  columns := by decide
  primaryKeys := by decide
  foreignKeys _ _ _ := (List.filter_sublist.map _).nodup (by decide)

example : (shop.snapshot none).isOk = true := by decide

end Answers

end Server

end SchemaStructs
