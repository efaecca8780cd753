import SchemaStructs.Proofs.Generate.DependencyOrder
import SchemaStructs.Proofs.Generate.Plan

/-!
# Owners of declarations

The structs of a plan claim declarations one after the other. With distinct modules, what a run of
claims leaves is determined by the structs alone: the module of the first struct that needs a
declaration owns it, and each module holds the declarations it owns, each once.
-/

namespace SchemaStructs.Generate

open Catalog Mapping Comparison

/-- The first struct that needs a declaration. -/
def firstNeeding (structs : List Struct) (n : QualifiedName) : Option Struct :=
  structs.find? (·.declarations.contains n)

theorem firstNeeding_append_singleton (structs : List Struct) (s : Struct) (n : QualifiedName) :
    firstNeeding (structs ++ [s]) n =
      (firstNeeding structs n).or (if n ∈ s.declarations then some s else none) := by
  rw [firstNeeding, List.find?_append]
  by_cases hn : n ∈ s.declarations <;> simp [firstNeeding, hn]

theorem mem_of_firstNeeding {structs : List Struct} {n : QualifiedName} {s : Struct}
    (h : firstNeeding structs n = some s) : s ∈ structs ∧ n ∈ s.declarations :=
  ⟨List.mem_of_find?_eq_some h, by simpa using List.find?_some h⟩

theorem exists_firstNeeding {structs : List Struct} {n : QualifiedName} {s : Struct}
    (hs : s ∈ structs) (hn : n ∈ s.declarations) : ∃ o, firstNeeding structs n = some o :=
  Option.isSome_iff_exists.1 (List.find?_isSome.2 ⟨s, hs, by simpa using hn⟩)

/-- Of two structs that need a declaration the first one stands before the other. -/
theorem pairwise_of_firstNeeding {R : Struct → Struct → Prop} {structs : List Struct}
    (hR : structs.Pairwise R) {n : QualifiedName} {o s : Struct}
    (ho : firstNeeding structs n = some o) (hs : s ∈ structs) (hn : n ∈ s.declarations) :
    o = s ∨ R o s := by
  obtain ⟨-, before, after, rfl, hbefore⟩ := List.find?_eq_some_iff_append.1 ho
  rw [List.pairwise_append, List.pairwise_cons] at hR
  rcases List.mem_append.1 hs with hs | hs
  · exact absurd hn (by simpa using hbefore s hs)
  · rcases List.mem_cons.1 hs with rfl | hs
    · exact Or.inl rfl
    · exact Or.inr (hR.2.1.1 s hs)

/-! ## One claim -/

theorem declarationOf_eq_ok_iff {declarations : Entries QualifiedName Declaration}
    {n : QualifiedName} {d : Declaration} : declarationOf declarations n = .ok d ↔
    declarations.get? n = some d := by
  unfold declarationOf
  cases declarations.get? n with
  | none => simp
  | some d' => simp

theorem get?_foldl_put_name (ds : List Declaration) (moduleName : String)
    (owners : Entries QualifiedName String) (n : QualifiedName) :
    (ds.foldl (fun owners d => owners.put d.name moduleName) owners).get? n =
      if n ∈ ds.map Declaration.name then some moduleName else owners.get? n := by
  induction ds generalizing owners with
  | nil => simp
  | cons d rest ih =>
    rw [List.foldl_cons, ih, List.map_cons]
    by_cases hn : n = d.name
    · simp [hn]
    · rw [Entries.get?_put_of_ne hn]
      simp [hn]

theorem claim_eq_ok_iff {declarations : Entries QualifiedName Declaration} {o o' : Ownership}
    {s : Struct} :
    o.claim declarations s = .ok o' ↔
      ∃ new, List.Forall₂ (fun n d => declarations.get? n = some d)
          (s.declarations.filter (!o.owners.has ·)) new ∧
        o' = if new.isEmpty then o else
          { owners := new.foldl (fun owners d => owners.put d.name s.moduleName) o.owners
            owned := o.owned.put s.moduleName (dependencyOrder new) } := by
  rw [Ownership.claim, bind_eq_ok_iff]
  refine exists_congr fun new => ?_
  rw [mapM_eq_ok_iff]
  simp only [declarationOf_eq_ok_iff]
  refine and_congr_right fun _ => ?_
  split
  · rw [pure_eq_ok_iff, eq_comm]
  · rw [pure_eq_ok_iff, eq_comm]

/-- What is found under some names has these names. -/
theorem map_name_of_get? {declarations : Entries QualifiedName Declaration}
    (hname : ∀ n d, declarations.get? n = some d → n = d.name) {names : List QualifiedName}
    {new : List Declaration}
    (h : List.Forall₂ (fun n d => declarations.get? n = some d) names new) :
    new.map Declaration.name = names := by
  simpa using (map_eq_map_of_related (f := id) h hname).symm

/-- The declarations of a claim are owned by the module of the struct, the others by whom they
were. -/
theorem get?_owners_of_new (o : Ownership) (s : Struct) (new : List Declaration)
    (n : QualifiedName) :
    (if new.isEmpty then o else
      { owners := new.foldl (fun owners d => owners.put d.name s.moduleName) o.owners
        owned := o.owned.put s.moduleName (dependencyOrder new) }).owners.get? n =
      if n ∈ new.map Declaration.name then some s.moduleName else o.owners.get? n := by
  rw [← get?_foldl_put_name]
  cases new with
  | nil => rfl
  | cons d rest => rfl

section Claim

variable {declarations : Entries QualifiedName Declaration} {o o' : Ownership} {s : Struct}

/-- A claim leaves what other modules own. -/
theorem get?_owned_claim_of_ne (h : o.claim declarations s = .ok o') {m : String}
    (hm : m ≠ s.moduleName) : o'.owned.get? m = o.owned.get? m := by
  obtain ⟨new, -, rfl⟩ := claim_eq_ok_iff.1 h
  split
  · rfl
  · exact Entries.get?_put_of_ne hm _ _

variable (hname : ∀ n d, declarations.get? n = some d → n = d.name)

include hname

/-- A claim takes what its struct needs and nobody owns. -/
theorem get?_owners_claim (h : o.claim declarations s = .ok o') (n : QualifiedName) :
    o'.owners.get? n =
      if n ∈ s.declarations ∧ n ∉ o.owners.keys then some s.moduleName else o.owners.get? n := by
  obtain ⟨new, hnew, rfl⟩ := claim_eq_ok_iff.1 h
  simp only [get?_owners_of_new, map_name_of_get? hname hnew, List.mem_filter, Bool.not_eq_true',
    ← Bool.not_eq_true, Entries.has_eq_true_iff]

theorem get?_owners_claim_of_mem (h : o.claim declarations s = .ok o') {n : QualifiedName}
    (hn : n ∈ o.owners.keys) : o'.owners.get? n = o.owners.get? n := by
  rw [get?_owners_claim hname h, if_neg fun hnew => hnew.2 hn]

/-- A claim keeps the owners there are and gives one to each declaration that its struct needs. -/
theorem mem_owners_of_claim (h : o.claim declarations s = .ok o') {n : QualifiedName}
    (hn : n ∈ o.owners.keys ∨ n ∈ s.declarations) : n ∈ o'.owners.keys := by
  rw [← Entries.has_eq_true_iff, Entries.has, get?_owners_claim hname h]
  split
  · rfl
  · rename_i hnot
    apply Entries.has_eq_true_iff.2
    by_contra hold
    exact hnot ⟨hn.resolve_left hold, hold⟩

end Claim

/-- A struct claims the declarations `new`: those it needs and no module owns yet. They are owned by
its module from then on. -/
structure Ownership.Claims (declarations : Entries QualifiedName Declaration) (s : Struct)
    (new : List Declaration) (o o' : Ownership) : Prop where
  nodup : (new.map Declaration.name).Nodup
  names : ∀ n, n ∈ new.map Declaration.name ↔ n ∈ s.declarations ∧ o.owners.get? n = none
  mem : ∀ d, d ∈ new ↔ declarations.get? d.name = some d ∧ d.name ∈ new.map Declaration.name
  owners : ∀ n, o'.owners.get? n =
    if n ∈ new.map Declaration.name then some s.moduleName else o.owners.get? n
  owned : ∀ m, (o'.owned.get? m).getD [] =
    if m = s.moduleName then dependencyOrder new else (o.owned.get? m).getD []

/-- A claim of a module that owns nothing yet. -/
theorem exists_claims {declarations : Entries QualifiedName Declaration} {o o' : Ownership}
    {s : Struct} (hname : ∀ n d, declarations.get? n = some d → n = d.name)
    (hnodup : s.declarations.Nodup) (hnil : (o.owned.get? s.moduleName).getD [] = [])
    (h : o.claim declarations s = .ok o') : ∃ new, Ownership.Claims declarations s new o o' := by
  obtain ⟨new, hnew, rfl⟩ := claim_eq_ok_iff.1 h
  have hnames := map_name_of_get? hname hnew
  refine ⟨new, ?_⟩
  constructor
  case nodup =>
    rw [hnames]
    exact hnodup.filter _
  case names =>
    intro n
    rw [hnames, List.mem_filter, Entries.has]
    simp
  case mem =>
    intro d
    constructor
    · intro hd
      obtain ⟨n, hn, hget⟩ := exists_left_of_mem hnew hd
      exact ⟨hname n d hget ▸ hget, List.mem_map_of_mem hd⟩
    · rintro ⟨hget, hd⟩
      obtain ⟨e, he, hname'⟩ := List.mem_map.1 hd
      obtain ⟨n, hn, hget'⟩ := exists_left_of_mem hnew he
      rw [hname n e hget', hname', hget] at hget'
      exact Option.some.inj hget' ▸ he
  case owners => exact get?_owners_of_new o s new
  case owned =>
    intro m
    cases new with
    | nil =>
      show (o.owned.get? m).getD [] = _
      split
      · rename_i hm
        rw [hm]
        exact hnil
      · rfl
    | cons d rest =>
      show ((o.owned.put s.moduleName _).get? m).getD [] = _
      split
      · rename_i hm
        rw [hm, Entries.get?_put_self, Option.getD_some]
      · rename_i hm
        rw [Entries.get?_put_of_ne hm]

/-! ## A run of claims -/

/-- After all claims every declaration that some struct needs has an owner. -/
theorem mem_owners_of_claims {declarations : Entries QualifiedName Declaration}
    (hname : ∀ n d, declarations.get? n = some d → n = d.name) {structs : List Struct}
    {o : Ownership} (h : structs.foldlM (Ownership.claim declarations) {} = .ok o) :
    ∀ s ∈ structs, ∀ n ∈ s.declarations, n ∈ o.owners.keys := by
  refine foldlM_induction (P := fun done (o : Ownership) =>
    ∀ s ∈ done, ∀ n ∈ s.declarations, n ∈ o.owners.keys) ?_ (by simp) h
  intro done s o o' ih hclaim s' hs' n hn
  apply mem_owners_of_claim hname hclaim
  rcases List.mem_append.1 hs' with hs' | hs'
  · exact Or.inl (ih s' hs' n hn)
  · rw [List.mem_singleton.1 hs'] at hn
    exact Or.inr hn

/-- What the structs `done` have claimed. -/
structure Ownership.Tracks (declarations : Entries QualifiedName Declaration) (done : List Struct)
    (o : Ownership) : Prop where
  owner : ∀ n, o.owners.get? n = (firstNeeding done n).map Struct.moduleName
  owned : ∀ m d, d ∈ (o.owned.get? m).getD [] ↔
    declarations.get? d.name = some d ∧ o.owners.get? d.name = some m
  nodup : ∀ m, (((o.owned.get? m).getD []).map Declaration.name).Nodup

namespace Ownership.Tracks

variable {declarations : Entries QualifiedName Declaration} {done : List Struct} {o o' : Ownership}
  {s : Struct} {new : List Declaration}

theorem empty (declarations : Entries QualifiedName Declaration) : Tracks declarations [] {} where
  owner _ := rfl
  owned := by simp
  nodup := by simp

/-- A module that has not claimed yet owns nothing. -/
theorem owner_ne (h : Tracks declarations done o) {m : String}
    (hm : m ∉ done.map Struct.moduleName) (n : QualifiedName) : o.owners.get? n ≠ some m := by
  rw [h.owner]
  intro hn
  obtain ⟨s, hs, rfl⟩ := Option.map_eq_some_iff.1 hn
  exact hm (List.mem_map_of_mem (mem_of_firstNeeding hs).1)

theorem owned_eq_nil (h : Tracks declarations done o) {m : String}
    (hm : m ∉ done.map Struct.moduleName) : (o.owned.get? m).getD [] = [] := by
  rw [List.eq_nil_iff_forall_not_mem]
  intro d hd
  exact h.owner_ne hm _ ((h.owned m d).1 hd).2

/-- A claim adds its struct to those that are searched for the first one. -/
theorem owner_of_claims (h : Tracks declarations done o)
    (hclaims : Ownership.Claims declarations s new o o') (n : QualifiedName) :
    o'.owners.get? n = (firstNeeding (done ++ [s]) n).map Struct.moduleName := by
  rw [hclaims.owners, firstNeeding_append_singleton]
  have hn := h.owner n
  cases hfirst : firstNeeding done n with
  | some o₀ =>
    rw [hfirst] at hn
    rw [if_neg (by simp [hclaims.names, hn]), hn]
    rfl
  | none =>
    rw [hfirst] at hn
    simp only [hclaims.names, hn, Option.map_none, and_true, Option.none_or]
    split <;> rfl

/-- Modules hold what they own after a claim if they did before. -/
theorem owned_of_claims (h : Tracks declarations done o)
    (hfresh : s.moduleName ∉ done.map Struct.moduleName)
    (hclaims : Ownership.Claims declarations s new o o') (m : String) (d : Declaration) :
    d ∈ (o'.owned.get? m).getD [] ↔
      declarations.get? d.name = some d ∧ o'.owners.get? d.name = some m := by
  rw [hclaims.owned, hclaims.owners]
  by_cases hm : m = s.moduleName
  · rw [if_pos hm, mem_dependencyOrder hclaims.nodup, hclaims.mem]
    refine and_congr_right fun _ => ?_
    split
    · rename_i hd
      exact iff_of_true hd (by rw [hm])
    · rename_i hd
      exact iff_of_false hd (hm ▸ h.owner_ne hfresh _)
  · rw [if_neg hm, h.owned]
    refine and_congr_right fun _ => ?_
    split
    · rename_i hd
      have hnone := ((hclaims.names _).1 hd).2
      simp [hnone, Ne.symm hm]
    · exact Iff.rfl

/-- A claim of a new module preserves what is tracked. -/
theorem step (hname : ∀ n d, declarations.get? n = some d → n = d.name)
    (h : Tracks declarations done o) (hnodup : s.declarations.Nodup)
    (hfresh : s.moduleName ∉ done.map Struct.moduleName)
    (hclaim : o.claim declarations s = .ok o') : Tracks declarations (done ++ [s]) o' := by
  obtain ⟨new, hclaims⟩ := exists_claims hname hnodup (h.owned_eq_nil hfresh) hclaim
  constructor
  case owner => exact h.owner_of_claims hclaims
  case owned => exact h.owned_of_claims hfresh hclaims
  case nodup =>
    intro m
    rw [hclaims.owned]
    split
    · exact ((dependencyOrder_perm hclaims.nodup).map _).nodup_iff.2 hclaims.nodup
    · exact h.nodup m

/-- What is owned after a run of claims of distinct modules. -/
theorem of_foldlM (hname : ∀ n d, declarations.get? n = some d → n = d.name) {structs : List Struct}
    (hnodup : ∀ s ∈ structs, s.declarations.Nodup)
    (hmodules : (structs.map Struct.moduleName).Nodup)
    (h : structs.foldlM (Ownership.claim declarations) {} = .ok o) :
    Tracks declarations structs o := by
  refine foldlM_induction (P := fun done o => (∀ s ∈ done, s.declarations.Nodup) →
    (done.map Struct.moduleName).Nodup → Tracks declarations done o) ?_ (fun _ _ => .empty _) h
    hnodup hmodules
  intro done s o o' ih hclaim hnodup hmodules
  rw [List.map_append, List.nodup_append] at hmodules
  obtain ⟨hdone, -, hdisjoint⟩ := hmodules
  refine (ih (fun s' hs' => hnodup s' (List.mem_append_left _ hs')) hdone).step hname
    (hnodup s (by simp)) (fun hs => ?_) hclaim
  exact hdisjoint _ hs _ (by simp) rfl

end Ownership.Tracks

/-! ## Plans -/

namespace Plan.Built

variable {snapshot : Snapshot} {singular : Bool} {excluded : List String} {plan : Plan}

theorem declarations_get?_eq_some_iff (h : plan.Built snapshot singular excluded)
    {n : QualifiedName} {d : Declaration} : plan.declarations.get? n = some d ↔
      (∃ s ∈ plan.structs, n ∈ s.declarations) ∧ n = d.name ∧ Declares snapshot.types d :=
  h.declarations.get?_eq_some_iff

theorem eq_name_of_get? (h : plan.Built snapshot singular excluded) (n : QualifiedName)
    (d : Declaration) (hd : plan.declarations.get? n = some d) : n = d.name :=
  (h.declarations_get?_eq_some_iff.1 hd).2.1

/-- A name that some struct needs is declared. -/
theorem exists_declaration (h : plan.Built snapshot singular excluded) {s : Struct}
    (hs : s ∈ plan.structs) {n : QualifiedName} (hn : n ∈ s.declarations) :
    ∃ d, plan.declarations.get? n = some d ∧ d.name = n ∧ Declares snapshot.types d := by
  have hmem := (h.declarations.keys n).2 ⟨s, hs, hn⟩
  obtain ⟨⟨k, d⟩, he, rfl⟩ := List.mem_map.1 hmem
  have hget := (Entries.get?_eq_some_iff h.declarations.nodup).2 he
  obtain ⟨-, hname, hd⟩ := h.declarations_get?_eq_some_iff.1 hget
  exact ⟨d, hget, hname.symm, hd⟩

section Modules

variable (hmodules : (plan.structs.map Struct.moduleName).Nodup)

include hmodules

theorem tracks (h : plan.Built snapshot singular excluded) :
    plan.ownership.Tracks plan.declarations plan.structs := by
  refine .of_foldlM h.eq_name_of_get? (fun s hs => ?_) hmodules h.ownership
  obtain ⟨t, -, hts⟩ := h.exists_table hs
  exact hts.nodup

/-- A module owns a declaration if its struct is the first that needs it. -/
theorem mem_ownedBy_iff (h : plan.Built snapshot singular excluded) {m : String} {d : Declaration} :
    d ∈ plan.ownedBy m ↔
      Declares snapshot.types d ∧
        ∃ o, firstNeeding plan.structs d.name = some o ∧ o.moduleName = m := by
  rw [ownedBy, (h.tracks hmodules).owned, (h.tracks hmodules).owner, Option.map_eq_some_iff,
    h.declarations_get?_eq_some_iff]
  constructor
  · rintro ⟨⟨-, -, hd⟩, ho⟩
    exact ⟨hd, ho⟩
  · rintro ⟨hd, o, ho, hm⟩
    exact ⟨⟨⟨o, mem_of_firstNeeding ho⟩, rfl, hd⟩, o, ho, hm⟩

theorem nodup_ownedBy (h : plan.Built snapshot singular excluded) (m : String) :
    ((plan.ownedBy m).map Declaration.name).Nodup :=
  (h.tracks hmodules).nodup m

/-- Two structs of one module are the same. -/
theorem eq_of_moduleName_eq {s s' : Struct} (hs : s ∈ plan.structs) (hs' : s' ∈ plan.structs)
    (hm : s.moduleName = s'.moduleName) : s = s' :=
  List.inj_on_of_nodup_map hmodules hs hs' hm

/-- The declarations in the module of a struct are those it needs before all others. -/
theorem mem_ownedBy_moduleName_iff (h : plan.Built snapshot singular excluded) {s : Struct}
    (hs : s ∈ plan.structs) {d : Declaration} :
    d ∈ plan.ownedBy s.moduleName ↔
      Declares snapshot.types d ∧ firstNeeding plan.structs d.name = some s := by
  rw [h.mem_ownedBy_iff hmodules]
  refine and_congr_right fun _ => ⟨?_, fun ho => ⟨s, ho, rfl⟩⟩
  rintro ⟨o, ho, hm⟩
  rwa [← eq_of_moduleName_eq hmodules (mem_of_firstNeeding ho).1 hs hm]

end Modules

end Plan.Built

end SchemaStructs.Generate
