import SchemaStructs.Proofs.Identifier.Assignment

/-!
# The check of collisions is exact

Identifiers are assigned one pair after the other, and a name may come again with another
identifier. What the check remembers of the pairs gone through is the last name of each key, and
that is all of them as long as no two of them clash. So the first clash is found, and nothing else
is taken for one.
-/

namespace SchemaStructs.Identifier

/-- **Exact collisions**: an assignment fails exactly if two names clash. Its error then names the
first pair that clashes with one before it, and the name of that one. Otherwise each name has its
last identifier, the names stand in the order in which they first occur, and different names have
different keys. -/
theorem assign_exact (scope : String) (mode : CaseMode) (pairs : List Named) :
    ((∃ c, assign scope mode pairs = .error c) ↔ ∃ p ∈ pairs, ∃ q ∈ pairs, Clash mode p q) ∧
      (∀ c, assign scope mode pairs = .error c ↔
        ∃ q p, FirstClash mode pairs q p ∧ c = ⟨p.2, q.1, p.1, scope⟩) ∧
      ∀ identifiers, assign scope mode pairs = .ok identifiers →
        identifiers.keys = (pairs.map Prod.fst).eraseDups ∧
          (∀ name identifier, identifiers.get? name = some identifier ↔
            ∃ before after, pairs = before ++ (name, identifier) :: after ∧
              name ∉ after.map Prod.fst) ∧
          ∀ e ∈ identifiers, ∀ e' ∈ identifiers, e.1 ≠ e'.1 → mode.key e.2 ≠ mode.key e'.2 := by
  refine ⟨exists_assign_eq_error_iff.trans not_consistent_iff, fun c => assign_eq_error_iff, ?_⟩
  intro identifiers h
  obtain ⟨hconsistent, rfl⟩ := assign_eq_ok_iff.1 h
  refine ⟨Entries.keys_ofPairs pairs, fun name identifier => Entries.get?_ofPairs_eq_some_iff, ?_⟩
  intro e he e' he' hne hkey
  exact hne (hconsistent e (Entries.mem_of_mem_ofPairs he) e' (Entries.mem_of_mem_ofPairs he') hkey)

/-- A table that comes again with another identifier, and one with a raw identifier. -/
def renamedTables : List Named := [("users", "Users"), ("type", "r#Type"), ("users", "User")]

/-- The new identifier of `users` is free for no other table, and the old one neither. -/
theorem renamedTables_exact :
    assign "struct" .insensitive renamedTables = .ok [("users", "User"), ("type", "r#Type")] ∧
      Entries.get? "users" [("users", "User"), ("type", "r#Type")] = some "User" ∧
      assign "struct" .insensitive (renamedTables ++ [("old", "USERS"), ("Type", "type")]) =
        .error ⟨"USERS", "users", "old", "struct"⟩ := by
  have hok : assign "struct" .insensitive renamedTables =
      .ok [("users", "User"), ("type", "r#Type")] := by
    decide +kernel
  obtain ⟨-, -, hassigned⟩ := assign_exact "struct" .insensitive renamedTables
  obtain ⟨-, hlast, -⟩ := hassigned _ hok
  obtain ⟨-, herror, -⟩ :=
    assign_exact "struct" .insensitive (renamedTables ++ [("old", "USERS"), ("Type", "type")])
  have hconsistent : Consistent .insensitive renamedTables := (assign_eq_ok_iff.1 hok).1
  refine ⟨hok, (hlast "users" "User").2 ⟨[("users", "Users"), ("type", "r#Type")], [], rfl,
    by simp⟩, (herror _).2 ?_⟩
  exact ⟨("users", "Users"), ("old", "USERS"),
    ⟨renamedTables, [("Type", "type")], rfl, hconsistent, by decide, by decide,
      by decide +kernel⟩, rfl⟩

end SchemaStructs.Identifier
