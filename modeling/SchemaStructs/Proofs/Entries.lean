import Mathlib.Data.List.Forall2
import Mathlib.Data.List.Induction
import Mathlib.Data.List.Nodup
import Mathlib.Data.List.Perm.Subperm
import SchemaStructs.Entries

/-!
# Keyed entries as finite maps

Entries without repeated keys are a finite map: a value is found under a key exactly if the pair is
an entry. Putting keeps the keys distinct, and a list of pairs with distinct keys is what putting
its pairs one after the other gives.
-/

namespace SchemaStructs.Entries

universe u v w

variable {κ : Type u} {β : Type v} [BEq κ] [LawfulBEq κ]

theorem mem_of_get? {k : κ} {v : β} {entries : Entries κ β} (h : entries.get? k = some v) :
    (k, v) ∈ entries := by
  induction entries with
  | nil => cases h
  | cons e rest ih =>
    by_cases hk : k = e.1
    · have hv : e.2 = v := by simpa [get?, hk] using h
      rw [hk, ← hv]
      exact List.mem_cons_self
    · exact List.mem_cons_of_mem _ (ih (by simpa [get?, hk] using h))

theorem get?_eq_none_iff {k : κ} {entries : Entries κ β} :
    entries.get? k = none ↔ k ∉ entries.keys := by
  induction entries with
  | nil => simp [keys]
  | cons e rest ih =>
    by_cases hk : k = e.1
    · simp [get?, keys, hk]
    · simpa [get?, keys, hk] using ih

theorem has_eq_true_iff {k : κ} {entries : Entries κ β} :
    entries.has k = true ↔ k ∈ entries.keys := by
  rw [has, Option.isSome_iff_ne_none, ne_eq, get?_eq_none_iff, not_not]

theorem exists_get?_of_mem_keys {k : κ} {entries : Entries κ β} (h : k ∈ entries.keys) :
    ∃ v, entries.get? k = some v :=
  Option.isSome_iff_exists.1 (has_eq_true_iff.2 h)

/-- With distinct keys, every entry is found under its key. -/
theorem get?_eq_some_iff {k : κ} {v : β} {entries : Entries κ β} (h : entries.keys.Nodup) :
    entries.get? k = some v ↔ (k, v) ∈ entries := by
  refine ⟨mem_of_get?, ?_⟩
  intro hmem
  induction entries with
  | nil => cases hmem
  | cons e rest ih =>
    obtain ⟨hnot, hrest⟩ := List.nodup_cons.1 h
    rcases List.mem_cons.1 hmem with rfl | hmem
    · simp [get?]
    · have hk : k ≠ e.1 := by
        rintro rfl
        exact hnot (List.mem_map.2 ⟨(e.1, v), hmem, rfl⟩)
      simpa [get?, hk] using ih hrest hmem

theorem get?_append (k : κ) (entries entries' : Entries κ β) :
    get? k (entries ++ entries') = (entries.get? k).or (entries'.get? k) := by
  induction entries with
  | nil => simp
  | cons e rest ih => by_cases hk : k = e.1 <;> simp [get?, hk, ih]

/-- What is found stays so when entries are added at the end. -/
theorem get?_eq_of_prefix {k : κ} {entries entries' : Entries κ β} (h : entries <+: entries')
    (hk : k ∈ entries.keys) : entries'.get? k = entries.get? k := by
  obtain ⟨added, rfl⟩ := h
  obtain ⟨v, hv⟩ := exists_get?_of_mem_keys hk
  rw [get?_append, hv, Option.some_or]

/-- A choice of keys leaves the entries of those keys as they are. -/
theorem get?_filter (f : κ → Bool) (k : κ) (entries : Entries κ β) :
    get? k (entries.filter (f ·.1)) = if f k then entries.get? k else none := by
  induction entries with
  | nil => simp
  | cons e rest ih =>
    by_cases hk : k = e.1
    · subst hk
      by_cases hf : f e.1 <;> simp [get?, hf, ih]
    · by_cases hf : f e.1 <;> simp [get?, hf, hk, ih]

theorem put_of_not_mem {k : κ} {entries : Entries κ β} (h : k ∉ entries.keys) (v : β) :
    entries.put k v = entries ++ [(k, v)] := by
  induction entries with
  | nil => rfl
  | cons e rest ih =>
    have hk : k ≠ e.1 := fun hk => h (by simp [keys, hk])
    have hrest : k ∉ keys rest := fun hmem => h (List.mem_cons_of_mem _ hmem)
    simp [put, hk, ih hrest]

theorem keys_put_of_mem {k : κ} {entries : Entries κ β} (h : k ∈ entries.keys) (v : β) :
    (entries.put k v).keys = entries.keys := by
  induction entries with
  | nil => cases h
  | cons e rest ih =>
    by_cases hk : k = e.1
    · simp [put, keys, hk]
    · have hrest : k ∈ keys rest := by simpa [keys, hk] using h
      simpa [put, keys, hk] using ih hrest

theorem mem_keys_put {k l : κ} {v : β} {entries : Entries κ β} :
    l ∈ (entries.put k v).keys ↔ l = k ∨ l ∈ entries.keys := by
  by_cases h : k ∈ entries.keys
  · rw [keys_put_of_mem h]
    refine ⟨Or.inr, ?_⟩
    rintro (rfl | hl)
    · exact h
    · exact hl
  · rw [put_of_not_mem h, keys, List.map_append, List.mem_append]
    simp [keys, or_comm]

theorem nodup_keys_put {entries : Entries κ β} (h : entries.keys.Nodup) (k : κ) (v : β) :
    (entries.put k v).keys.Nodup := by
  by_cases hk : k ∈ entries.keys
  · rwa [keys_put_of_mem hk]
  · rw [put_of_not_mem hk, keys, List.map_append]
    refine List.nodup_append.2 ⟨h, List.nodup_singleton _, ?_⟩
    rintro a ha b hb rfl
    obtain rfl : a = k := by simpa using hb
    exact hk ha

/-- Putting each pair of a list into entries that have none of its keys adds the list at the end. -/
theorem foldl_put_eq_append {pairs entries : Entries κ β} (h : (entries ++ pairs).keys.Nodup) :
    pairs.foldl (fun entries p => entries.put p.1 p.2) entries = entries ++ pairs := by
  induction pairs generalizing entries with
  | nil => simp
  | cons p rest ih =>
    have hp : p.1 ∉ entries.keys := by
      rw [keys, List.map_append] at h
      exact fun hmem => (List.nodup_append.1 h).2.2 p.1 hmem p.1 (by simp) rfl
    have hsplit : entries ++ p :: rest = entries ++ [(p.1, p.2)] ++ rest := by simp
    rw [List.foldl_cons, put_of_not_mem hp, ih (hsplit ▸ h), hsplit]

theorem ofPairs_eq_self {pairs : Entries κ β} (h : pairs.keys.Nodup) : ofPairs pairs = pairs :=
  @foldl_put_eq_append κ β _ _ pairs [] h

theorem nodup_keys_ofPairs (pairs : List (κ × β)) : (ofPairs pairs).keys.Nodup := by
  suffices H : ∀ entries : Entries κ β, entries.keys.Nodup →
      (keys (pairs.foldl (fun entries p => entries.put p.1 p.2) entries)).Nodup from
    H [] List.nodup_nil
  induction pairs with
  | nil => exact fun _ h => h
  | cons p rest ih => exact fun entries h => ih _ (nodup_keys_put h p.1 p.2)

theorem mem_keys_ofPairs {pairs : List (κ × β)} {k : κ} :
    k ∈ (ofPairs pairs).keys ↔ k ∈ pairs.map Prod.fst := by
  suffices H : ∀ entries : Entries κ β,
      k ∈ (keys (pairs.foldl (fun entries p => entries.put p.1 p.2) entries)) ↔
        k ∈ entries.keys ∨ k ∈ pairs.map Prod.fst from
    (H []).trans (or_iff_right List.not_mem_nil)
  induction pairs with
  | nil => simp
  | cons p rest ih =>
    intro entries
    rw [List.foldl_cons, ih, mem_keys_put, List.map_cons, List.mem_cons, or_left_comm, or_assoc]

theorem mem_of_mem_put {k : κ} {v : β} {e : κ × β} {entries : Entries κ β}
    (h : e ∈ entries.put k v) : e = (k, v) ∨ e ∈ entries := by
  induction entries with
  | nil => exact Or.inl (List.mem_singleton.1 h)
  | cons e' rest ih =>
    unfold put at h
    split at h
    · rename_i hk
      rcases List.mem_cons.1 h with rfl | h
      · exact Or.inl (by rw [eq_of_beq hk])
      · exact Or.inr (List.mem_cons_of_mem _ h)
    · rcases List.mem_cons.1 h with rfl | h
      · exact Or.inr List.mem_cons_self
      · exact (ih h).imp_right (List.mem_cons_of_mem _)

/-- Every entry is one of the pairs. -/
theorem mem_of_mem_ofPairs {pairs : List (κ × β)} {e : κ × β} (h : e ∈ ofPairs pairs) :
    e ∈ pairs := by
  suffices H : ∀ entries : Entries κ β,
      e ∈ pairs.foldl (fun entries p => entries.put p.1 p.2) entries → e ∈ entries ∨ e ∈ pairs from
    (H [] h).resolve_left List.not_mem_nil
  clear h
  induction pairs with
  | nil => exact fun _ h => Or.inl h
  | cons p rest ih =>
    intro entries h
    rw [List.mem_cons]
    rcases ih _ h with h | h
    · rcases mem_of_mem_put h with rfl | h
      · exact Or.inr (Or.inl rfl)
      · exact Or.inl h
    · exact Or.inr (Or.inr h)

omit [LawfulBEq κ] in
theorem ofPairs_append_singleton (pairs : List (κ × β)) (k : κ) (v : β) :
    ofPairs (pairs ++ [(k, v)]) = (ofPairs pairs).put k v := by
  rw [ofPairs, List.foldl_append]
  rfl

/-- The last pair is replaced by none. -/
theorem mem_ofPairs_append_singleton (pairs : List (κ × β)) (k : κ) (v : β) :
    (k, v) ∈ ofPairs (pairs ++ [(k, v)]) := by
  rw [ofPairs_append_singleton]
  exact mem_of_get? (get?_put_self k v _)

/-- Of the pairs with one key the last counts. -/
theorem exists_last_of_get?_ofPairs {pairs : List (κ × β)} {k : κ} {v : β}
    (h : (ofPairs pairs).get? k = some v) :
    ∃ before after, pairs = before ++ (k, v) :: after ∧ k ∉ after.map Prod.fst := by
  induction pairs using List.reverseRecOn with
  | nil => cases h
  | append_singleton pairs p ih =>
    rw [ofPairs_append_singleton] at h
    by_cases hk : k = p.1
    · subst hk
      rw [get?_put_self] at h
      cases h
      exact ⟨pairs, [], rfl, by simp⟩
    · rw [get?_put_of_ne hk] at h
      obtain ⟨before, after, rfl, hafter⟩ := ih h
      exact ⟨before, after ++ [p], by simp, by simpa [hk] using hafter⟩

/-- A pair with a new key comes to the end. -/
theorem ofPairs_append_singleton_of_not_mem {pairs : List (κ × β)} {k : κ}
    (h : k ∉ pairs.map Prod.fst) (v : β) :
    ofPairs (pairs ++ [(k, v)]) = ofPairs pairs ++ [(k, v)] := by
  rw [ofPairs_append_singleton, put_of_not_mem fun hk => h (mem_keys_ofPairs.1 hk)]

/-- A pair counts exactly if no later one has its key. -/
theorem get?_ofPairs_eq_some_iff {pairs : List (κ × β)} {k : κ} {v : β} :
    (ofPairs pairs).get? k = some v ↔
      ∃ before after, pairs = before ++ (k, v) :: after ∧ k ∉ after.map Prod.fst := by
  refine ⟨exists_last_of_get?_ofPairs, ?_⟩
  rintro ⟨before, after, rfl, hafter⟩
  induction after using List.reverseRecOn with
  | nil => rw [ofPairs_append_singleton, get?_put_self]
  | append_singleton after p ih =>
    rw [List.map_append, List.mem_append, not_or] at hafter
    rw [← List.cons_append, ← List.append_assoc, ofPairs_append_singleton,
      get?_put_of_ne fun h => hafter.2 (by simp [h]), ih hafter.1]

/-- The keys stand in the order in which they first occur. -/
theorem keys_ofPairs (pairs : List (κ × β)) :
    (ofPairs pairs).keys = (pairs.map Prod.fst).eraseDups := by
  induction pairs using List.reverseRecOn with
  | nil => rfl
  | append_singleton pairs p ih =>
    rw [ofPairs_append_singleton, List.map_append, List.eraseDups_append, ← ih]
    by_cases hk : p.1 ∈ (ofPairs pairs).keys
    · have hmem : p.1 ∈ pairs.map Prod.fst := mem_keys_ofPairs.1 hk
      rw [keys_put_of_mem hk]
      simp [List.removeAll, hmem]
    · have hmem : p.1 ∉ pairs.map Prod.fst := fun h => hk (mem_keys_ofPairs.2 h)
      rw [put_of_not_mem hk, keys, List.map_append]
      simp [List.removeAll, List.eraseDups_cons, hmem, keys]

/-! ## Entries with related values -/

section Related

variable {γ : Type w} {S : κ → β → γ → Prop}

/-- Related values under one key go to the same place. -/
theorem forall₂_put {entries : Entries κ β} {entries' : Entries κ γ}
    (h : List.Forall₂ (fun e e' => e.1 = e'.1 ∧ S e.1 e.2 e'.2) entries entries') {k : κ} {v : β}
    {v' : γ} (hv : S k v v') :
    List.Forall₂ (fun e e' => e.1 = e'.1 ∧ S e.1 e.2 e'.2) (entries.put k v)
      (entries'.put k v') := by
  induction h with
  | nil => exact .cons ⟨rfl, hv⟩ .nil
  | @cons e e' rest rest' he hrest ih =>
    unfold put
    rw [← he.1]
    split
    · rename_i hk
      rw [eq_of_beq hk] at hv
      exact .cons ⟨rfl, hv⟩ hrest
    · exact .cons ⟨rfl, he.2⟩ ih

theorem forall₂_ofPairs {pairs : List (κ × β)} {pairs' : List (κ × γ)}
    (h : List.Forall₂ (fun e e' => e.1 = e'.1 ∧ S e.1 e.2 e'.2) pairs pairs') :
    List.Forall₂ (fun e e' => e.1 = e'.1 ∧ S e.1 e.2 e'.2) (ofPairs pairs) (ofPairs pairs') := by
  suffices H : ∀ (entries : Entries κ β) (entries' : Entries κ γ),
      List.Forall₂ (fun e e' => e.1 = e'.1 ∧ S e.1 e.2 e'.2) entries entries' →
      List.Forall₂ (fun e e' => e.1 = e'.1 ∧ S e.1 e.2 e'.2)
        (pairs.foldl (fun (entries : Entries κ β) p => entries.put p.1 p.2) entries)
        (pairs'.foldl (fun (entries : Entries κ γ) p => entries.put p.1 p.2) entries') from
    H [] [] .nil
  induction h with
  | nil => exact fun _ _ h => h
  | @cons e e' _ _ he _ ih =>
    intro entries entries' hentries
    rw [List.foldl_cons, List.foldl_cons, ← he.1]
    exact ih _ _ (forall₂_put hentries he.2)

end Related

/-- Pairs of which none replaces another have distinct keys. -/
theorem nodup_keys_of_length_ofPairs {pairs : Entries κ β}
    (h : (ofPairs pairs).length = List.length pairs) : pairs.keys.Nodup := by
  have hsubperm : List.Subperm (ofPairs pairs).keys pairs.keys :=
    (nodup_keys_ofPairs pairs).subperm fun k hk => mem_keys_ofPairs.1 hk
  have hlength : (ofPairs pairs).keys.length = pairs.keys.length := by
    rw [keys, keys, List.length_map, List.length_map, h]
  exact (hsubperm.perm_of_length_le (Nat.le_of_eq hlength.symm)).nodup_iff.1
    (nodup_keys_ofPairs pairs)

end SchemaStructs.Entries
