import SchemaStructs.Proofs.Catalog.PlainNames
import SchemaStructs.Proofs.Generate.Ownership

/-!
# Names that meet in a module

The module of a struct writes some of the declarations that the struct needs and imports the others,
each from the module of the first struct that needs it. With plain names the check of a module
therefore says that all names brought into it are different, and different from those of the
prelude.
-/

namespace SchemaStructs.Generate

open Catalog Mapping Rust Comparison

/-- The module of the first struct that needs a declaration. -/
def ownerModule (structs : List Struct) (n : QualifiedName) : String :=
  ((firstNeeding structs n).map Struct.moduleName).getD ""

/-- What the module of a struct imports from other modules. -/
def importsOf (structs : List Struct) (s : Struct) : List SiblingImport :=
  (s.declarations.filter (ownerModule structs · ≠ s.moduleName)).map
    fun n => (ownerModule structs n, Identifier.typeName n.name)

theorem ownerModule_eq {structs : List Struct} {n : QualifiedName} {o : Struct}
    (h : firstNeeding structs n = some o) : ownerModule structs n = o.moduleName := by
  rw [ownerModule, h]
  rfl

theorem mem_importsOf_iff {structs : List Struct} {s : Struct} (hs : s ∈ structs)
    {i : SiblingImport} :
    i ∈ importsOf structs s ↔ ∃ n ∈ s.declarations, ∃ o, firstNeeding structs n = some o ∧
      o.moduleName ≠ s.moduleName ∧ i = (o.moduleName, Identifier.typeName n.name) := by
  rw [importsOf, List.mem_map]
  constructor
  · rintro ⟨n, hn, rfl⟩
    obtain ⟨hn, hne⟩ := List.mem_filter.1 hn
    obtain ⟨o, ho⟩ := exists_firstNeeding hs hn
    rw [ownerModule_eq ho] at hne ⊢
    exact ⟨n, hn, o, ho, by simpa using hne, rfl⟩
  · rintro ⟨n, hn, o, ho, hne, rfl⟩
    exact ⟨n, List.mem_filter.2 ⟨hn, by simpa [ownerModule_eq ho] using hne⟩, by
      rw [ownerModule_eq ho]⟩

/-- Names brought into the module of a struct by its `use` lines and by what is written there. -/
def broughtNames (s : Struct) (owned : List Declaration) (imported : List SiblingImport) :
    List String :=
  (crateImports s owned).map lastSegment ++ imported.map Prod.snd ++
    owned.map Declaration.identifier ++ [s.name]

theorem filterMap_ite_none {α β : Type*} (p : α → Prop) [DecidablePred p] (f : α → β)
    (xs : List α) :
    xs.filterMap (fun x => if p x then none else some (f x)) =
      (xs.filter fun x => ¬ p x).map f := by
  induction xs with
  | nil => rfl
  | cons x rest ih => by_cases hp : p x <;> simp [hp, ih]

theorem nodup_crateImports (s : Struct) (owned : List Declaration) : (crateImports s owned).Nodup :=
  nodup_sortedSet text_linear _

/-- The names that meet in the module of a struct which imports some paths, each with its source. -/
def namesMeeting (s : Struct) (paths : List String) : List Identifier.Named :=
  Plan.preludeNames.map (fun name => (s!"prelude {name}", name)) ++
  paths.map (fun path => (s!"use {path}", lastSegment path)) ++
  s.declarations.map (fun n => (s!"type {n.text}", Identifier.typeName n.name)) ++
  [(s.table.text, s.name)]

theorem namesIn_eq_of_declared {plan : Plan} {s : Struct} (h : ∀ n ∈ s.declarations,
    ∃ d, plan.declarations.get? n = some d ∧ d.identifier = Identifier.typeName n.name) :
    plan.namesIn s = .ok (namesMeeting s (crateImports s (plan.ownedBy s.moduleName))) := by
  rw [Plan.namesIn, bind_eq_ok_iff]
  refine ⟨s.declarations.map fun n => (s!"type {n.text}", Identifier.typeName n.name), ?_, ?_⟩
  · rw [mapM_eq_ok_iff, List.forall₂_map_right_iff, List.forall₂_same]
    intro n hn
    obtain ⟨d, hget, hidentifier⟩ := h n hn
    refine bind_eq_ok_iff.2 ⟨d, declarationOf_eq_ok_iff.2 hget, ?_⟩
    rw [hidentifier, pure_eq_ok_iff]
  · rw [pure_eq_ok_iff, namesMeeting]

namespace Plan.Built

variable {snapshot : Snapshot} {singular : Bool} {excluded : List String} {plan : Plan} {s : Struct}

theorem namesIn_eq (h : plan.Built snapshot singular excluded) (hs : s ∈ plan.structs) :
    plan.namesIn s = .ok (
      preludeNames.map (fun name => (s!"prelude {name}", name)) ++
      (crateImports s (plan.ownedBy s.moduleName)).map
        (fun path => (s!"use {path}", lastSegment path)) ++
      s.declarations.map (fun n => (s!"type {n.text}", Identifier.typeName n.name)) ++
      [(s.table.text, s.name)]) := by
  refine namesIn_eq_of_declared fun n hn => ?_
  obtain ⟨d, hget, rfl, hd⟩ := h.exists_declaration hs hn
  exact ⟨d, hget, hd.identifier_eq⟩

section Modules

variable (hmodules : (plan.structs.map Struct.moduleName).Nodup)

include hmodules

theorem ownerOf_eq (h : plan.Built snapshot singular excluded) (hs : s ∈ plan.structs)
    {n : QualifiedName} (hn : n ∈ s.declarations) :
    plan.ownerOf n = .ok (ownerModule plan.structs n) := by
  obtain ⟨o, ho⟩ := exists_firstNeeding hs hn
  rw [ownerOf, (h.tracks hmodules).owner, ownerModule, ho]
  rfl

/-- The imports of a module can always be found. -/
theorem importedBy_eq (h : plan.Built snapshot singular excluded) (hs : s ∈ plan.structs) :
    plan.importedBy s = .ok (importsOf plan.structs s) := by
  rw [importedBy, bind_eq_ok_iff]
  refine ⟨s.declarations.map fun n => if ownerModule plan.structs n = s.moduleName then none
    else some (ownerModule plan.structs n, Identifier.typeName n.name), ?_, ?_⟩
  · rw [mapM_eq_ok_iff, List.forall₂_map_right_iff, List.forall₂_same]
    intro n hn
    refine bind_eq_ok_iff.2 ⟨_, h.ownerOf_eq hmodules hs hn, ?_⟩
    split
    · rfl
    · obtain ⟨d, hget, rfl, hd⟩ := h.exists_declaration hs hn
      exact bind_eq_ok_iff.2 ⟨d, declarationOf_eq_ok_iff.2 hget, by rw [hd.identifier_eq]; rfl⟩
  · rw [List.filterMap_map, importsOf, ← filterMap_ite_none]
    rfl

/-- What a module imports and what it owns together are the declarations its struct needs. -/
theorem declared_perm (h : plan.Built snapshot singular excluded) (hs : s ∈ plan.structs) :
    ((importsOf plan.structs s).map Prod.snd ++
      (plan.ownedBy s.moduleName).map Declaration.identifier).Perm
      (s.declarations.map fun n => Identifier.typeName n.name) := by
  obtain ⟨t, -, hts⟩ := h.exists_table hs
  have howned : ((plan.ownedBy s.moduleName).map Declaration.name).Perm
      (s.declarations.filter fun n => !decide (ownerModule plan.structs n ≠ s.moduleName)) := by
    refine (List.perm_ext_iff_of_nodup (h.nodup_ownedBy hmodules _) (hts.nodup.filter _)).2 ?_
    intro n
    rw [List.mem_map, List.mem_filter]
    constructor
    · rintro ⟨d, hd, rfl⟩
      obtain ⟨-, ho⟩ := (h.mem_ownedBy_moduleName_iff hmodules hs).1 hd
      exact ⟨(mem_of_firstNeeding ho).2, by simp [ownerModule_eq ho]⟩
    · rintro ⟨hn, hm⟩
      obtain ⟨d, hget, rfl, hd⟩ := h.exists_declaration hs hn
      obtain ⟨o, ho⟩ := exists_firstNeeding hs hn
      exact ⟨d, (h.mem_ownedBy_iff hmodules).2 ⟨hd, o, ho, by simpa [ownerModule_eq ho] using hm⟩,
        rfl⟩
  have hids : (plan.ownedBy s.moduleName).map Declaration.identifier =
      ((plan.ownedBy s.moduleName).map Declaration.name).map fun n =>
        Identifier.typeName n.name := by
    rw [List.map_map]
    refine List.map_congr_left fun d hd => ?_
    exact ((h.mem_ownedBy_iff hmodules).1 hd).1.identifier_eq
  have himports : (importsOf plan.structs s).map Prod.snd =
      (s.declarations.filter fun n => decide (ownerModule plan.structs n ≠ s.moduleName)).map
        fun n => Identifier.typeName n.name := by
    rw [importsOf, List.map_map]
    rfl
  rw [hids, himports, ← List.map_append]
  exact ((howned.append_left _).trans (List.filter_append_perm _ _)).map _

end Modules

/-! ### Sources of names -/

theorem nodup_tableTexts (hplain : snapshot.PlainlyNamed) :
    ((includedTables snapshot.tables excluded).map fun t => t.name.text).Nodup := by
  have hnames := nodup_includedTables hplain.nodup excluded
  rw [List.Nodup, List.pairwise_map] at hnames ⊢
  refine hnames.imp_of_mem fun _ ht' hne he => hne ?_
  exact (hplain.tables _ (mem_includedTables.1 ht').1).eq_of_text_eq he

theorem plain_table (hplain : snapshot.PlainlyNamed) (h : plan.Built snapshot singular excluded)
    (hs : s ∈ plan.structs) : s.table.Plain := by
  obtain ⟨t, ht, hts⟩ := h.exists_table hs
  rw [hts.table_eq]
  exact hplain.tables t (mem_includedTables.1 ht).1

theorem plain_declaration (hplain : snapshot.PlainlyNamed)
    (h : plan.Built snapshot singular excluded) (hs : s ∈ plan.structs) {n : QualifiedName}
    (hn : n ∈ s.declarations) : n.Plain := by
  obtain ⟨d, -, rfl, hd⟩ := h.exists_declaration hs hn
  exact hplain.types _ (Entries.has_eq_true_iff.1 hd.contains)

theorem type_label_injective {a b : QualifiedName} (hb : b.Plain)
    (h : s!"type {a.text}" = s!"type {b.text}") : a = b :=
  hb.eq_of_text_eq ((String.append_right_inj _).1 h)

/-- The names that meet in a module come from different sources. -/
theorem nodup_sources (hplain : snapshot.PlainlyNamed) (h : plan.Built snapshot singular excluded)
    (hs : s ∈ plan.structs) (paths : List String) (hpaths : paths.Nodup) :
    (preludeNames.map (fun name => s!"prelude {name}") ++ paths.map (fun path => s!"use {path}") ++
      s.declarations.map (fun n => s!"type {n.text}") ++ [s.table.text]).Nodup := by
  obtain ⟨t, -, hts⟩ := h.exists_table hs
  have htable := h.plain_table hplain hs
  have htypes : (s.declarations.map fun n => s!"type {n.text}").Nodup := by
    refine hts.nodup.map_on fun a _ b hb hab => ?_
    exact type_label_injective (h.plain_declaration hplain hs hb) hab
  have huses : (paths.map fun path => s!"use {path}").Nodup :=
    hpaths.map fun p q hpq => (String.append_right_inj _).1 hpq
  have hpreludes : (preludeNames.map fun name => s!"prelude {name}").Nodup :=
    List.Nodup.map (fun a b hab => (String.append_right_inj _).1 hab) (by decide)
  refine ((hpreludes.append huses ?_).append htypes ?_).append (List.nodup_singleton _) ?_
  · intro label hprelude huse
    obtain ⟨name, -, rfl⟩ := List.mem_map.1 hprelude
    obtain ⟨path, -, he⟩ := List.mem_map.1 huse
    exact label_ne_label rfl rfl (by decide) _ _ he
  · intro label hleft htype
    obtain ⟨n, -, rfl⟩ := List.mem_map.1 htype
    rcases List.mem_append.1 hleft with hprelude | huse
    · obtain ⟨name, -, he⟩ := List.mem_map.1 hprelude
      exact label_ne_label rfl rfl (by decide) _ _ he
    · obtain ⟨path, -, he⟩ := List.mem_map.1 huse
      exact label_ne_label rfl rfl (by decide) _ _ he
  · intro label hleft htext
    obtain rfl := List.mem_singleton.1 htext
    rcases List.mem_append.1 hleft with hleft | htype
    · rcases List.mem_append.1 hleft with hprelude | huse
      · obtain ⟨name, -, he⟩ := List.mem_map.1 hprelude
        exact htable.label_ne_text (by decide) (by decide) _ he
      · obtain ⟨path, -, he⟩ := List.mem_map.1 huse
        exact htable.label_ne_text (by decide) (by decide) _ he
    · obtain ⟨n, -, he⟩ := List.mem_map.1 htype
      exact htable.label_ne_text (by decide) (by decide) _ he

/-- The names that meet in a module are different. -/
theorem nodup_namesIn (hplain : snapshot.PlainlyNamed) (h : plan.Built snapshot singular excluded)
    (hs : s ∈ plan.structs) :
    (preludeNames ++ (crateImports s (plan.ownedBy s.moduleName)).map lastSegment ++
      s.declarations.map (fun n => Identifier.typeName n.name) ++ [s.name]).Nodup := by
  obtain ⟨names, hnames, hconsistent⟩ := h.names s hs
  rw [h.namesIn_eq hs] at hnames
  cases hnames
  have hsources := h.nodup_sources hplain hs _ (nodup_crateImports s (plan.ownedBy s.moduleName))
  have hkeys := hconsistent.nodup_keys (by simpa [Function.comp_def] using hsources)
  refine List.Nodup.of_map Identifier.bare ?_
  simpa [Function.comp_def, Identifier.CaseMode.key] using hkeys

/-- The names brought into a module are different from each other and from those of the prelude. -/
theorem nodup_broughtNames (hplain : snapshot.PlainlyNamed)
    (h : plan.Built snapshot singular excluded) (hs : s ∈ plan.structs) :
    (preludeNames ++ broughtNames s (plan.ownedBy s.moduleName)
      (importsOf plan.structs s)).Nodup := by
  have hmodules := h.nodup_moduleNames (nodup_tableTexts hplain)
  refine (List.Perm.nodup_iff ?_).2 (h.nodup_namesIn hplain hs)
  rw [broughtNames, ← List.append_assoc, List.append_assoc _ (List.map Prod.snd _),
    ← List.append_assoc preludeNames]
  exact ((h.declared_perm hmodules hs).append_left _).append_right _

end Plan.Built

/-! ### Two tables that share an enum

One of them needs it through a composite and comes first, whatever the order in the catalog. -/

def sharedMood : Snapshot where
  tables := [
    { name := ⟨"public", "visits"⟩
      columns := [
        { name := "feeling", type := .enum ⟨"public", "mood"⟩ [] },
        { name := "ticket", type := .scalar { kind := "uuid" } }] },
    { name := ⟨"public", "users"⟩
      columns := [{ name := "home", type := .composite ⟨"public", "address"⟩ [] }] }]
  types := {
    entries := [
      (⟨"public", "address"⟩,
        .composite ⟨"public", "address"⟩ [⟨"feeling", .enum ⟨"public", "mood"⟩ [], true⟩]),
      (⟨"public", "mood"⟩, .enum ⟨"public", "mood"⟩ ["sad", "ok"])] }

theorem sharedMood_plainlyNamed : sharedMood.PlainlyNamed where
  nodup := by decide
  tables := by decide
  types := by decide

/-- The index, and the modules of both tables. -/
def sharedMoodFiles : List (String × String) := [
  ("mod.rs", "\n".intercalate [
    "// Generated with autostruct", "",
    "pub mod users;",
    "pub mod visits;", "",
    "pub use users::\x7bAddress, Mood, Users\x7d;",
    "pub use visits::Visits;", ""]),
  ("users.rs", "\n".intercalate [
    "#![allow(dead_code)]", "// Generated with autostruct", "",
    "/// Enum `public.mood`",
    "#[derive(Debug, Clone, Copy, PartialEq, Eq, Hash)]",
    "pub enum Mood \x7b", "    Sad,", "    Ok,", "\x7d", "",
    "/// Composite type `public.address`",
    "#[derive(Debug, Clone)]",
    "pub struct Address \x7b", "    pub feeling: Mood,", "\x7d", "",
    "/// Table `public.users`",
    "#[derive(Debug, Clone)]",
    "pub struct Users \x7b", "    pub home: Option<Address>,", "\x7d", ""]),
  ("visits.rs", "\n".intercalate [
    "#![allow(dead_code)]", "// Generated with autostruct", "",
    "use uuid::Uuid;", "",
    "use super::users::Mood;", "",
    "/// Table `public.visits`",
    "#[derive(Debug, Clone)]",
    "pub struct Visits \x7b",
    "    pub feeling: Option<Mood>,",
    "    pub ticket: Option<Uuid>,", "\x7d", ""])]

theorem exists_generate_sharedMood :
    ∃ artifacts, generate sharedMood {} = .ok artifacts ∧ artifacts.files = sharedMoodFiles :=
  map_eq_ok_iff.1 (by decide +kernel)

end SchemaStructs.Generate
