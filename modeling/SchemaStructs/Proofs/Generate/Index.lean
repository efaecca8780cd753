import Mathlib.Data.List.Perm.Basic
import SchemaStructs.Proofs.Generate.ModuleNames

/-!
# Index of modules

The index lists the modules in order, and after them what each exports: the struct of the module and
the declarations that the module owns. With plain names no two exports are the same.
-/

namespace SchemaStructs.Generate

open Catalog Mapping Comparison

/-- An index of modules, each with the names it exports. A single name stands without braces. -/
def indexText (entries : List (String × List String)) : String :=
  textOfLines <|
    [generatedMark, ""] ++
    paragraph (entries.map fun e => s!"pub mod {e.1};") ++
    entries.map fun e =>
      match e.2 with
      | [name] => s!"pub use {e.1}::{name};"
      | names => s!"pub use {e.1}::\x7b" ++ ", ".intercalate names ++ "\x7d;"

/-- The modules of some structs in order, each with its exports. -/
def indexEntries (structs : List Struct) (owned : Entries String (List Declaration)) :
    List (String × List String) :=
  (sortOn .text Struct.moduleName structs).map fun s => (s.moduleName, exports owned s)

theorem indexFile_eq (structs : List Struct) (owned : Entries String (List Declaration)) :
    indexFile structs owned = indexText (indexEntries structs owned) := by
  rw [indexFile, indexText, indexEntries, List.map_map, List.map_map]
  congr 2
  refine List.map_congr_left fun s _ => ?_
  rw [Function.comp_apply]
  -- One name, or any other number of them.
  rcases exports owned s with _ | ⟨name, _ | ⟨name', rest⟩⟩ <;> rfl

theorem pairwise_indexEntries {structs : List Struct} (owned : Entries String (List Declaration))
    (hmodules : (structs.map Struct.moduleName).Nodup) :
    ((indexEntries structs owned).map Prod.fst).Pairwise (Before .text) := by
  rw [indexEntries, List.map_map, List.pairwise_map]
  exact pairwise_before_sortOn text_linear hmodules

theorem mem_map_fst_indexEntries {structs : List Struct} {owned : Entries String (List Declaration)}
    {m : String} :
    m ∈ (indexEntries structs owned).map Prod.fst ↔ ∃ s ∈ structs, s.moduleName = m := by
  rw [indexEntries, List.map_map, List.mem_map]
  simp only [mem_sortOn, Function.comp_apply]

theorem exports_perm (owned : Entries String (List Declaration)) (s : Struct) :
    (exports owned s).Perm
      (s.name :: ((owned.get? s.moduleName).getD []).map Declaration.identifier) :=
  sortOn_perm _ _ _

theorem mem_exports_iff {plan : Plan} {s : Struct} {name : String} :
    name ∈ exports plan.ownership.owned s ↔
      name = s.name ∨ ∃ d ∈ plan.ownedBy s.moduleName, d.identifier = name := by
  rw [(exports_perm _ s).mem_iff, List.mem_cons, List.mem_map]
  rfl

/-- The struct and the declarations of a module with the sources of their names. -/
def Plan.exportSources (plan : Plan) (s : Struct) : List Identifier.Named :=
  (s.table.text, s.name) ::
    (plan.ownedBy s.moduleName).map fun d => (s!"type {d.name.text}", d.identifier)

theorem map_snd_exportSources (plan : Plan) (s : Struct) :
    (plan.exportSources s).map Prod.snd =
      s.name :: (plan.ownedBy s.moduleName).map Declaration.identifier := by
  rw [Plan.exportSources, List.map_cons, List.map_map]
  rfl

namespace Plan.Built

variable {snapshot : Snapshot} {singular : Bool} {excluded : List String} {plan : Plan}

/-- A declaration that the module of a struct owns has a plain name, and no other module owns it. -/
theorem plain_owned (hplain : snapshot.PlainlyNamed) (h : plan.Built snapshot singular excluded)
    {s : Struct} (hs : s ∈ plan.structs) {d : Declaration} (hd : d ∈ plan.ownedBy s.moduleName) :
    firstNeeding plan.structs d.name = some s ∧ d.name.Plain := by
  have hmodules := h.nodup_moduleNames (nodup_tableTexts hplain)
  obtain ⟨-, ho⟩ := (h.mem_ownedBy_moduleName_iff hmodules hs).1 hd
  exact ⟨ho, h.plain_declaration hplain hs (mem_of_firstNeeding ho).2⟩

/-- Structs and declarations of all modules come from different sources. -/
theorem nodup_exportSources (hplain : snapshot.PlainlyNamed)
    (h : plan.Built snapshot singular excluded) :
    ((plan.structs.flatMap plan.exportSources).map Prod.fst).Nodup := by
  have htexts : ((includedTables snapshot.tables excluded).map fun t => t.name.text).Nodup :=
    nodup_tableTexts hplain
  have hmodules := h.nodup_moduleNames htexts
  rw [List.map_flatMap, List.nodup_flatMap]
  constructor
  · intro s hs
    rw [exportSources, List.map_cons, List.map_map, List.nodup_cons]
    constructor
    · intro hmem
      obtain ⟨d, -, he⟩ := List.mem_map.1 hmem
      exact (h.plain_table hplain hs).label_ne_text (by decide) (by decide) _ he
    · have hnames := h.nodup_ownedBy hmodules s.moduleName
      rw [List.Nodup, List.pairwise_map] at hnames ⊢
      refine hnames.imp_of_mem fun _ hd' hne he => hne ?_
      exact type_label_injective (h.plain_owned hplain hs hd').2 he
  · rw [← h.map_tableText, List.Nodup, List.pairwise_map] at htexts
    refine htexts.imp_of_mem ?_
    intro s s' hs hs' hne source hsource hsource'
    simp only [exportSources, List.map_cons, List.map_map, List.mem_cons, List.mem_map]
      at hsource hsource'
    rcases hsource with rfl | ⟨d, hd, rfl⟩
    · rcases hsource' with he | ⟨d', -, he⟩
      · exact hne he
      · exact (h.plain_table hplain hs).label_ne_text (by decide) (by decide) _ he
    · rcases hsource' with he | ⟨d', hd', he⟩
      · exact (h.plain_table hplain hs').label_ne_text (by decide) (by decide) _ he
      · obtain ⟨ho, hplain₁⟩ := h.plain_owned hplain hs hd
        obtain ⟨ho', -⟩ := h.plain_owned hplain hs' hd'
        rw [← type_label_injective hplain₁ he, ho'] at ho
        exact hne (by rw [Option.some.inj ho])

theorem mem_types_of_mem_exportSources (hmodules : (plan.structs.map Struct.moduleName).Nodup)
    (h : plan.Built snapshot singular excluded) {p : Identifier.Named}
    (hp : p ∈ plan.structs.flatMap plan.exportSources) :
    p ∈ plan.structs.map (fun s => (s.table.text, s.name)) ++
      plan.declarations.map fun e => (s!"type {e.1.text}", e.2.identifier) := by
  obtain ⟨s, hs, hp⟩ := List.mem_flatMap.1 hp
  rcases List.mem_cons.1 hp with rfl | hp
  · exact List.mem_append_left _ (List.mem_map_of_mem hs)
  · obtain ⟨d, hd, rfl⟩ := List.mem_map.1 hp
    have hget := (((h.tracks hmodules).owned _ d).1 hd).1
    exact List.mem_append_right _ (List.mem_map.2 ⟨_, Entries.mem_of_get? hget, rfl⟩)

/-- Nothing is exported twice. -/
theorem nodup_exports (hplain : snapshot.PlainlyNamed) (h : plan.Built snapshot singular excluded) :
    ((indexEntries plan.structs plan.ownership.owned).flatMap Prod.snd).Nodup := by
  have hmodules := h.nodup_moduleNames (nodup_tableTexts hplain)
  have hsub : Identifier.Consistent .sensitive (plan.structs.flatMap plan.exportSources) :=
    fun p hp q hq => h.types p (h.mem_types_of_mem_exportSources hmodules hp)
      q (h.mem_types_of_mem_exportSources hmodules hq)
  have hkeys := hsub.nodup_keys (h.nodup_exportSources hplain)
  have hnames : (plan.structs.flatMap fun s =>
      s.name :: (plan.ownedBy s.moduleName).map Declaration.identifier).Nodup := by
    simp only [← map_snd_exportSources, ← List.map_flatMap]
    refine List.Nodup.of_map Identifier.bare ?_
    rwa [List.map_map]
  refine (List.Perm.nodup_iff ?_).2 hnames
  rw [indexEntries, List.flatMap_map]
  exact (sortOn_perm _ _ _).flatMap fun s _ => exports_perm _ s

end Plan.Built

end SchemaStructs.Generate
