import SchemaStructs.Identifier.Assignment
import SchemaStructs.Proofs.Entries
import SchemaStructs.Proofs.Success

/-!
# Assignments without collisions

Identifiers can be assigned exactly if names whose identifiers have one key are the same name. The
assignment then takes each name to the last identifier given for it. Otherwise it fails at the first
name that clashes with one before it.
-/

namespace SchemaStructs.Identifier

/-- Names whose identifiers have the same key are the same. -/
def Consistent (mode : CaseMode) (pairs : List Named) : Prop :=
  ∀ p ∈ pairs, ∀ q ∈ pairs, mode.key p.2 = mode.key q.2 → p.1 = q.1

theorem Consistent.mono {mode : CaseMode} {pairs pairs' : List Named} (h : Consistent mode pairs)
    (hsub : pairs' ⊆ pairs) : Consistent mode pairs' :=
  fun p hp q hq => h p (hsub hp) q (hsub hq)

/-- The names differ and their identifiers have the same key. -/
def Clash (mode : CaseMode) (p q : Named) : Prop := p.1 ≠ q.1 ∧ mode.key p.2 = mode.key q.2

/-- The pair `p` is the first that clashes with one before it, and `q` is such a pair before it. -/
def FirstClash (mode : CaseMode) (pairs : List Named) (q p : Named) : Prop :=
  ∃ before after, pairs = before ++ p :: after ∧ Consistent mode before ∧ q ∈ before ∧
    Clash mode q p

theorem not_consistent_iff {mode : CaseMode} {pairs : List Named} :
    ¬ Consistent mode pairs ↔ ∃ p ∈ pairs, ∃ q ∈ pairs, Clash mode p q := by
  unfold Consistent Clash
  push Not
  simp only [and_comm]

/-- What is assigned after the pairs `done`: the owner of a key is the name of every pair with that
key. -/
structure Assigned.Tracks (mode : CaseMode) (done : List Named) (assigned : Assigned) : Prop where
  identifiers : assigned.identifiers = .ofPairs done
  owner : ∀ p ∈ done, assigned.owners.get? (mode.key p.2) = some p.1
  known : ∀ k s, assigned.owners.get? k = some s → ∃ p ∈ done, mode.key p.2 = k ∧ p.1 = s

namespace Assigned.Tracks

variable {scope : String} {mode : CaseMode} {done : List Named} {assigned assigned' : Assigned}

theorem empty (mode : CaseMode) : Tracks mode [] {} where
  identifiers := rfl
  owner := by simp
  known := by simp

theorem consistent (h : Tracks mode done assigned) : Consistent mode done := by
  intro p hp q hq hkey
  have hq' := h.owner q hq
  rw [← hkey, h.owner p hp] at hq'
  exact Option.some.inj hq'

/-- A pair is refused if it clashes with a pair before it, by an error that names both. -/
theorem add_eq_error_iff (h : Tracks mode done assigned) {p : Named} {c : Collision} :
    assigned.add scope mode p = .error c ↔
      ∃ q ∈ done, Clash mode q p ∧ c = ⟨p.2, q.1, p.1, scope⟩ := by
  obtain ⟨source, identifier⟩ := p
  unfold Assigned.add
  dsimp only
  constructor
  · intro hadd
    cases howner : assigned.owners.get? (mode.key identifier) with
    | none =>
      rw [howner] at hadd
      cases hadd
    | some owner =>
      obtain ⟨q, hq, hkey, rfl⟩ := h.known _ _ howner
      by_cases hs : q.1 = source
      · simp [howner, hs] at hadd
      · simp only [howner, if_neg hs] at hadd
        cases hadd
        exact ⟨q, hq, ⟨hs, hkey⟩, rfl⟩
  · rintro ⟨q, hq, ⟨hne, hkey⟩, rfl⟩
    rw [← hkey, h.owner q hq]
    exact if_neg hne

/-- A pair is accepted if it agrees with the pairs before it. -/
theorem add_isOk_iff (scope : String) (h : Tracks mode done assigned) (p : Named) :
    (∃ assigned', assigned.add scope mode p = .ok assigned') ↔
      ∀ q ∈ done, mode.key q.2 = mode.key p.2 → q.1 = p.1 := by
  cases hadd : assigned.add scope mode p with
  | ok assigned' =>
    refine iff_of_true ⟨assigned', rfl⟩ fun q hq hkey => by_contra fun hne => ?_
    rw [h.add_eq_error_iff.2 ⟨q, hq, ⟨hne, hkey⟩, rfl⟩] at hadd
    cases hadd
  | error c =>
    obtain ⟨q, hq, ⟨hne, hkey⟩, -⟩ := h.add_eq_error_iff.1 hadd
    exact iff_of_false nofun fun hagree => hne (hagree q hq hkey)

theorem add_eq (p : Named) (hadd : assigned.add scope mode p = .ok assigned') :
    assigned' = ⟨assigned.identifiers.put p.1 p.2, assigned.owners.put (mode.key p.2) p.1⟩ := by
  obtain ⟨source, identifier⟩ := p
  unfold Assigned.add at hadd
  dsimp only at hadd
  split at hadd
  · split at hadd
    · exact (Except.ok.inj hadd).symm
    · cases hadd
  · exact (Except.ok.inj hadd).symm

theorem step (h : Tracks mode done assigned) {p : Named}
    (hadd : assigned.add scope mode p = .ok assigned') : Tracks mode (done ++ [p]) assigned' := by
  have hagree := (h.add_isOk_iff scope p).1 ⟨_, hadd⟩
  obtain rfl := add_eq p hadd
  refine ⟨?_, ?_, ?_⟩
  · simp only [h.identifiers, Entries.ofPairs, List.foldl_append, List.foldl_cons, List.foldl_nil]
  · intro q hq
    by_cases hkey : mode.key q.2 = mode.key p.2
    · rw [hkey, Entries.get?_put_self]
      rcases List.mem_append.1 hq with hq | hq
      · rw [hagree q hq hkey]
      · rw [List.mem_singleton.1 hq]
    · rw [Entries.get?_put_of_ne hkey]
      rcases List.mem_append.1 hq with hq | hq
      · exact h.owner q hq
      · exact absurd (by rw [List.mem_singleton.1 hq]) hkey
  · intro k s hk
    by_cases hkey : k = mode.key p.2
    · rw [hkey, Entries.get?_put_self] at hk
      exact ⟨p, by simp, hkey.symm, Option.some.inj hk⟩
    · rw [Entries.get?_put_of_ne hkey] at hk
      obtain ⟨q, hq, hqk⟩ := h.known k s hk
      exact ⟨q, List.mem_append_left _ hq, hqk⟩

theorem of_foldlM (h : done.foldlM (Assigned.add scope mode) {} = .ok assigned) :
    Tracks mode done assigned :=
  foldlM_induction (P := Tracks mode) (fun _ _ _ _ h => h.step) (empty mode) h

/-- The remaining pairs are all accepted exactly if they and the pairs before are consistent. -/
theorem foldlM_isOk_iff (scope : String) (h : Tracks mode done assigned) (rest : List Named) :
    (∃ assigned', rest.foldlM (Assigned.add scope mode) assigned = .ok assigned') ↔
      Consistent mode (done ++ rest) := by
  induction rest generalizing done assigned with
  | nil => simpa [pure, Except.pure] using h.consistent
  | cons p rest ih =>
    have hsplit : done ++ p :: rest = done ++ [p] ++ rest := by simp
    rw [List.foldlM_cons, hsplit]
    constructor
    · rintro ⟨assigned', hrun⟩
      obtain ⟨next, hadd, hrest⟩ := bind_eq_ok_iff.1 hrun
      exact (ih (h.step hadd)).1 ⟨assigned', hrest⟩
    · intro hcons
      have hagree : ∀ q ∈ done, mode.key q.2 = mode.key p.2 → q.1 = p.1 :=
        fun q hq => hcons q (by simp [hq]) p (by simp)
      obtain ⟨next, hadd⟩ := (h.add_isOk_iff scope p).2 hagree
      obtain ⟨assigned', hrest⟩ := (ih (h.step hadd)).2 hcons
      exact ⟨assigned', bind_eq_ok_iff.2 ⟨next, hadd, hrest⟩⟩

end Assigned.Tracks

/-- Names have identifiers exactly if they are consistent, and then each has the last one given for
it. -/
theorem assign_eq_ok_iff {scope : String} {mode : CaseMode} {pairs : List Named}
    {identifiers : Entries String String} :
    assign scope mode pairs = .ok identifiers ↔
      Consistent mode pairs ∧ identifiers = .ofPairs pairs := by
  have hrun := (Assigned.Tracks.empty mode).foldlM_isOk_iff scope pairs
  rw [assign, map_eq_ok_iff]
  constructor
  · rintro ⟨assigned', h, rfl⟩
    exact ⟨hrun.1 ⟨_, h⟩, (Assigned.Tracks.of_foldlM h).identifiers⟩
  · rintro ⟨hcons, rfl⟩
    obtain ⟨assigned', h⟩ := hrun.2 hcons
    exact ⟨assigned', h, (Assigned.Tracks.of_foldlM h).identifiers⟩

/-- An assignment fails at the first clash. -/
theorem assign_eq_error_iff {scope : String} {mode : CaseMode} {pairs : List Named}
    {c : Collision} :
    assign scope mode pairs = .error c ↔
      ∃ q p, FirstClash mode pairs q p ∧ c = ⟨p.2, q.1, p.1, scope⟩ := by
  rw [assign, map_eq_error_iff, foldlM_eq_error_iff]
  constructor
  · rintro ⟨before, p, after, assigned, rfl, hbefore, hadd⟩
    have htracks := Assigned.Tracks.of_foldlM hbefore
    obtain ⟨q, hq, hclash, rfl⟩ := htracks.add_eq_error_iff.1 hadd
    exact ⟨q, p, ⟨before, after, rfl, htracks.consistent, hq, hclash⟩, rfl⟩
  · rintro ⟨q, p, ⟨before, after, rfl, hconsistent, hq, hclash⟩, rfl⟩
    obtain ⟨assigned, hbefore⟩ :=
      ((Assigned.Tracks.empty mode).foldlM_isOk_iff scope before).2 hconsistent
    have htracks := Assigned.Tracks.of_foldlM hbefore
    exact ⟨before, p, after, assigned, rfl, hbefore,
      htracks.add_eq_error_iff.2 ⟨q, hq, hclash, rfl⟩⟩

theorem exists_assign_eq_error_iff {scope : String} {mode : CaseMode} {pairs : List Named} :
    (∃ c, assign scope mode pairs = .error c) ↔ ¬ Consistent mode pairs := by
  cases h : assign scope mode pairs with
  | ok identifiers => exact iff_of_false nofun (not_not.2 (assign_eq_ok_iff.1 h).1)
  | error c =>
    refine iff_of_true ⟨c, rfl⟩ fun hconsistent => ?_
    rw [assign_eq_ok_iff.2 ⟨hconsistent, rfl⟩] at h
    cases h

/-- A collision is of two different names. -/
theorem first_ne_second_of_assign {scope : String} {mode : CaseMode} {pairs : List Named}
    {c : Collision} (h : assign scope mode pairs = .error c) : c.first ≠ c.second := by
  obtain ⟨q, p, ⟨before, after, -, -, -, hne, -⟩, rfl⟩ := assign_eq_error_iff.1 h
  exact hne

theorem scope_of_assign {scope : String} {mode : CaseMode} {pairs : List Named} {c : Collision}
    (h : assign scope mode pairs = .error c) : c.scope = scope := by
  obtain ⟨q, p, -, rfl⟩ := assign_eq_error_iff.1 h
  rfl

/-- Names that are all distinct have identifiers with distinct keys. -/
theorem Consistent.nodup_keys {mode : CaseMode} {pairs : List Named} (h : Consistent mode pairs)
    (hnames : (pairs.map Prod.fst).Nodup) : (pairs.map fun p => mode.key p.2).Nodup := by
  rw [List.Nodup, List.pairwise_map] at hnames ⊢
  exact hnames.imp_of_mem fun hp hq hne hkey => hne (h _ hp _ hq hkey)

end SchemaStructs.Identifier
