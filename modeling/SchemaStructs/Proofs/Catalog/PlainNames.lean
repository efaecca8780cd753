import Mathlib.Data.List.Basic
import SchemaStructs.Catalog.Table

/-!
# Plain names

The text of a qualified name does not always tell where the schema ends. It does for names without
dots. If the schema has no blank either, the text is none of the labels that consist of a word, a
blank and more.
-/

namespace SchemaStructs.Catalog

structure QualifiedName.Plain (n : QualifiedName) : Prop where
  schema_dot : '.' ∉ n.schema.toList
  name_dot : '.' ∉ n.name.toList
  schema_blank : ' ' ∉ n.schema.toList

instance (n : QualifiedName) : Decidable n.Plain :=
  decidable_of_iff ('.' ∉ n.schema.toList ∧ '.' ∉ n.name.toList ∧ ' ' ∉ n.schema.toList)
    ⟨fun ⟨h₁, h₂, h₃⟩ => ⟨h₁, h₂, h₃⟩, fun ⟨h₁, h₂, h₃⟩ => ⟨h₁, h₂, h₃⟩⟩

/-- Tables have distinct names, and all names of tables and types are plain. -/
structure Snapshot.PlainlyNamed (snapshot : Snapshot) : Prop where
  nodup : (snapshot.tables.map Table.name).Nodup
  tables : ∀ t ∈ snapshot.tables, t.name.Plain
  types : ∀ n ∈ snapshot.types.names, n.Plain

/-- Labels that start with different characters are different. -/
theorem label_ne_label {label label' : String} {c d : Char} (hc : label.toList.head? = some c)
    (hd : label'.toList.head? = some d) (hne : c ≠ d) (rest rest' : String) :
    label ++ rest ≠ label' ++ rest' := by
  intro h
  have hhead := congrArg (fun text : String => text.toList.head?) h
  simp only [String.toList_append, List.head?_append, hc, hd, Option.some_or] at hhead
  exact hne (Option.some.inj hhead)

namespace QualifiedName

theorem toList_text (n : QualifiedName) :
    n.text.toList = n.schema.toList ++ '.' :: n.name.toList := by
  simp [text]

/-- No other name has the text of a plain name. -/
theorem Plain.eq_of_text_eq {a b : QualifiedName} (hb : b.Plain) (h : a.text = b.text) : a = b := by
  have hlist : b.schema.toList ++ '.' :: b.name.toList = a.schema.toList ++ '.' ::
      a.name.toList := by
    rw [← toList_text, ← toList_text, h]
  obtain ⟨hschema, -, hname⟩ := (List.append_cons_inj_of_notMem hb.schema_dot hb.name_dot).1 hlist
  obtain ⟨schema, name⟩ := a
  obtain ⟨schema', name'⟩ := b
  obtain rfl : schema' = schema := String.toList_inj.1 hschema
  obtain rfl : name' = name := String.toList_inj.1 hname
  rfl

/-- No label with a blank before its first dot is the text of a plain name. -/
theorem Plain.label_ne_text {n : QualifiedName} (hn : n.Plain) {label : String}
    (hblank : ' ' ∈ label.toList) (hdot : '.' ∉ label.toList) (rest : String) :
    label ++ rest ≠ n.text := by
  intro h
  have hlist : label.toList ++ rest.toList = n.schema.toList ++ '.' :: n.name.toList := by
    rw [← toList_text, ← h, String.toList_append]
  rcases List.append_eq_append_iff.1 hlist with ⟨more, hschema, -⟩ | ⟨more, hlabel, hmore⟩
  · exact hn.schema_blank (hschema ▸ List.mem_append_left _ hblank)
  · cases more with
    | nil =>
      rw [List.append_nil] at hlabel
      exact hn.schema_blank (hlabel ▸ hblank)
    | cons c more =>
      obtain ⟨rfl, -⟩ := List.cons.inj hmore
      exact hdot (hlabel ▸ by simp)

end QualifiedName

end SchemaStructs.Catalog
