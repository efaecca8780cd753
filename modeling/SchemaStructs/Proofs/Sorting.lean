import Mathlib.Data.List.Sort
import SchemaStructs.Catalog.QualifiedName

/-!
# Sorted lists are in order

Sorting by a key keeps the elements and puts them in the order of the comparison. The comparisons of
texts and of qualified names are linear, so a list sorted by them is determined by its elements, and
a set of keys stands in strictly ascending order.
-/

namespace SchemaStructs

universe u v w

variable {α : Type u} {κ : Type v}

/-! ## Linear comparisons -/

namespace Comparison

/-- Any two keys are comparable, and only equal keys may stand in either order. -/
structure Linear (le : Comparison κ) : Prop where
  total : ∀ a b, le a b ∨ le b a
  trans : ∀ {a b c}, le a b → le b c → le a c
  antisymm : ∀ {a b}, le a b → le b a → a = b

/-- `a` stands before `b` and is not `b`. -/
def Before (le : Comparison κ) (a b : κ) : Prop := le a b ∧ a ≠ b

theorem Linear.refl {le : Comparison κ} (h : le.Linear) (a : κ) : le a a :=
  (h.total a a).elim id id

theorem Linear.not_before {le : Comparison κ} (h : le.Linear) {a b : κ} (hab : Before le a b) :
    ¬ Before le b a :=
  fun hba => hab.2 (h.antisymm hab.1 hba.1)

theorem Linear.before_trans {le : Comparison κ} (h : le.Linear) {a b c : κ} (hab : Before le a b)
    (hbc : Before le b c) : Before le a c := by
  refine ⟨h.trans hab.1 hbc.1, ?_⟩
  rintro rfl
  exact h.not_before hab hbc

/-- Of two keys one is before the other, or they are the same. -/
theorem Linear.before_of_not_le {le : Comparison κ} (h : le.Linear) {a b : κ} (hab : ¬ le a b) :
    Before le b a := by
  refine ⟨(h.total a b).resolve_left hab, ?_⟩
  rintro rfl
  exact hab (h.refl b)

theorem text_linear : text.Linear where
  total a b := by simpa [text] using String.le_total a b
  trans hab hbc := by
    simp only [text, decide_eq_true_eq] at *
    exact String.le_trans hab hbc
  antisymm hab hba := by
    simp only [text, decide_eq_true_eq] at *
    exact String.le_antisymm hab hba

theorem integer_linear : integer.Linear where
  total a b := by simpa [integer] using Int.le_total a b
  trans hab hbc := by
    simp only [integer, decide_eq_true_eq] at *
    exact Int.le_trans hab hbc
  antisymm hab hba := by
    simp only [integer, decide_eq_true_eq] at *
    exact Int.le_antisymm hab hba

/-- Pairs are ordered linearly by their first parts and then by their second parts. -/
theorem pair_linear {μ : Type u} [BEq κ] [LawfulBEq κ] {first : Comparison κ}
    {second : Comparison μ} (h₁ : first.Linear) (h₂ : second.Linear) :
    (pair first second).Linear where
  total a b := by
    unfold pair
    by_cases h : a.1 = b.1
    · simpa [h] using h₂.total a.2 b.2
    · simpa [h, Ne.symm h] using h₁.total a.1 b.1
  trans := by
    rintro ⟨a₁, a₂⟩ ⟨b₁, b₂⟩ ⟨c₁, c₂⟩ hab hbc
    simp only [pair] at *
    by_cases h : a₁ = b₁
    · subst h
      by_cases h' : a₁ = c₁
      · subst h'
        simp only [beq_self_eq_true, if_true] at *
        exact h₂.trans hab hbc
      · simpa [h'] using hbc
    · by_cases h' : b₁ = c₁
      · subst h'
        simpa [h] using hab
      · simp only [beq_iff_eq, h, h', if_false] at hab hbc
        have hne : a₁ ≠ c₁ := (h₁.before_trans ⟨hab, h⟩ ⟨hbc, h'⟩).2
        simpa [hne] using h₁.trans hab hbc
  antisymm := by
    rintro ⟨a₁, a₂⟩ ⟨b₁, b₂⟩ hab hba
    simp only [pair] at *
    by_cases h : a₁ = b₁
    · subst h
      simp only [beq_self_eq_true, if_true] at *
      rw [h₂.antisymm hab hba]
    · simp only [beq_iff_eq, h, Ne.symm h, if_false] at hab hba
      exact absurd (h₁.antisymm hab hba) h

end Comparison

open Comparison

theorem Catalog.QualifiedName.le_linear : Catalog.QualifiedName.le.Linear where
  total a b := (pair_linear text_linear text_linear).total (a.schema, a.name) (b.schema, b.name)
  trans := (pair_linear text_linear text_linear).trans
  antisymm := by
    rintro ⟨s, n⟩ ⟨s', n'⟩ hab hba
    have h := (pair_linear text_linear text_linear).antisymm hab hba
    simp only [Prod.mk.injEq] at h
    rw [h.1, h.2]

/-! ## Sorting by a key -/

theorem insertSorted_eq_orderedInsert (le : Comparison κ) (key : α → κ) (a : α) (xs : List α) :
    insertSorted le key a xs = xs.orderedInsert (fun a b => le (key a) (key b)) a := by
  induction xs with
  | nil => rfl
  | cons b rest ih => simp only [insertSorted, List.orderedInsert_cons, ih]

theorem sortOn_eq_insertionSort (le : Comparison κ) (key : α → κ) (xs : List α) :
    sortOn le key xs = xs.insertionSort (fun a b => le (key a) (key b)) := by
  induction xs with
  | nil => rfl
  | cons a rest ih =>
    rw [List.insertionSort_cons, ← ih, ← insertSorted_eq_orderedInsert]
    rfl

theorem pairwise_sortOn {le : Comparison κ} (h : le.Linear) (key : α → κ) (xs : List α) :
    (sortOn le key xs).Pairwise (fun a b => le (key a) (key b)) := by
  have : Std.Total (fun a b : α => (le (key a) (key b) : Prop)) := ⟨fun a b => h.total _ _⟩
  have : IsTrans α (fun a b => le (key a) (key b)) := ⟨fun _ _ _ => h.trans⟩
  rw [sortOn_eq_insertionSort]
  exact List.pairwise_insertionSort _ _

/-- Elements with distinct keys stand in strictly ascending order of their keys. -/
theorem pairwise_before_sortOn {le : Comparison κ} (h : le.Linear) {key : α → κ} {xs : List α}
    (hxs : (xs.map key).Nodup) :
    (sortOn le key xs).Pairwise (fun a b => Before le (key a) (key b)) := by
  have hkeys : ((sortOn le key xs).map key).Nodup :=
    ((sortOn_perm le key xs).map key).nodup_iff.2 hxs
  exact (pairwise_sortOn h key xs).and (List.pairwise_map.1 hkeys)

/-- There is only one list of given elements in strictly ascending order of their keys. -/
theorem eq_of_perm_of_pairwise_before {le : Comparison κ} (h : le.Linear) {key : α → κ}
    {xs ys : List α} (hperm : xs.Perm ys) (hxs : xs.Pairwise (fun a b => Before le (key a) (key b)))
    (hys : ys.Pairwise (fun a b => Before le (key a) (key b))) : xs = ys :=
  hperm.eq_of_pairwise (fun _ _ _ _ hab hba => absurd hba (h.not_before hab)) hxs hys

/-- Sorting by distinct keys forgets the order that the elements came in. -/
theorem sortOn_eq_of_perm {le : Comparison κ} (h : le.Linear) {key : α → κ} {xs ys : List α}
    (hperm : xs.Perm ys) (hxs : (xs.map key).Nodup) : sortOn le key xs = sortOn le key ys := by
  have hys : (ys.map key).Nodup := (hperm.map key).nodup_iff.1 hxs
  refine eq_of_perm_of_pairwise_before h ?_ (pairwise_before_sortOn h hxs)
    (pairwise_before_sortOn h hys)
  exact (sortOn_perm le key xs).trans (hperm.trans (sortOn_perm le key ys).symm)

/-- Related lists with the same keys are sorted in the same way. -/
theorem forall₂_sortOn {β : Type w} {R : α → β → Prop} {le : Comparison κ} {key : α → κ}
    {key' : β → κ} (hkey : ∀ a b, R a b → key a = key' b) {xs : List α} {ys : List β}
    (h : List.Forall₂ R xs ys) : List.Forall₂ R (sortOn le key xs) (sortOn le key' ys) := by
  have hinsert : ∀ {a : α} {b : β} {as : List α} {bs : List β}, R a b → List.Forall₂ R as bs →
      List.Forall₂ R (insertSorted le key a as) (insertSorted le key' b bs) := by
    intro a b as bs hab has
    induction has with
    | nil => exact .cons hab .nil
    | @cons a' b' as bs hab' has ih =>
      rw [insertSorted, insertSorted, hkey a b hab, hkey a' b' hab']
      split
      · exact .cons hab (.cons hab' has)
      · exact .cons hab' ih
  induction h with
  | nil => exact .nil
  | cons hab _ ih => exact hinsert hab ih

/-- An element that may stand before all others goes to the front. -/
theorem insertSorted_eq_cons {le : Comparison κ} {key : α → κ} {a : α} {xs : List α}
    (h : ∀ b ∈ xs, le (key a) (key b)) : insertSorted le key a xs = a :: xs := by
  cases xs with
  | nil => rfl
  | cons b rest => rw [insertSorted, if_pos (h b List.mem_cons_self)]

theorem filter_insertSorted {le : Comparison κ} (hle : le.Linear)
    {key : α → κ} (p : α → Bool) (a : α) {xs : List α}
    (hxs : xs.Pairwise fun b c => le (key b) (key c)) :
    (insertSorted le key a xs).filter p =
      if p a then insertSorted le key a (xs.filter p) else xs.filter p := by
  induction xs with
  | nil => cases h : p a <;> simp [insertSorted, h]
  | cons b rest ih =>
    obtain ⟨hb, hrest⟩ := List.pairwise_cons.1 hxs
    rw [insertSorted]
    split
    · rename_i hab
      have hfront : ∀ c ∈ (b :: rest).filter p, le (key a) (key c) := by
        intro c hc
        rcases List.mem_cons.1 (List.mem_filter.1 hc).1 with rfl | hc
        · exact hab
        · exact hle.trans hab (hb c hc)
      rw [insertSorted_eq_cons hfront, List.filter_cons]
    · rename_i hab
      rw [List.filter_cons, ih hrest, List.filter_cons]
      cases p a <;> cases p b <;> simp [insertSorted, hab]

/-- Sorting keeps the order of equal keys, so it does not matter whether elements are dropped
before. -/
theorem filter_sortOn {le : Comparison κ} (hle : le.Linear) (key : α → κ)
    (p : α → Bool) (xs : List α) : (sortOn le key xs).filter p = sortOn le key (xs.filter p) := by
  induction xs with
  | nil => rfl
  | cons a rest ih =>
    show (insertSorted le key a (sortOn le key rest)).filter p = _
    rw [filter_insertSorted hle p a (pairwise_sortOn hle key rest), ih, List.filter_cons]
    split <;> rfl

theorem insertSorted_append_singleton {le : Comparison κ} {key : α → κ} {a b : α}
    (h : le (key a) (key b)) (xs : List α) :
    insertSorted le key a (xs ++ [b]) = insertSorted le key a xs ++ [b] := by
  induction xs with
  | nil => simp [insertSorted, h]
  | cons c rest ih =>
    rw [List.cons_append, insertSorted, insertSorted]
    split
    · rfl
    · rw [ih, List.cons_append]

/-- What may stand after everything else is left at the end. -/
theorem sortOn_append_singleton {le : Comparison κ} {key : α → κ} {xs : List α} {b : α}
    (h : ∀ a ∈ xs, le (key a) (key b)) : sortOn le key (xs ++ [b]) = sortOn le key xs ++ [b] := by
  induction xs with
  | nil => rfl
  | cons a rest ih =>
    obtain ⟨ha, hrest⟩ := List.forall_mem_cons.1 h
    show insertSorted le key a (sortOn le key (rest ++ [b])) = _
    rw [ih hrest, insertSorted_append_singleton ha]
    rfl

/-! ## Keys of which some are in no order -/

namespace Numeric.Extended

theorem less_trans {a b c : Extended} (hab : a.less b) (hbc : b.less c) : a.less c := by
  cases a with
  | finite a =>
    cases b with
    | finite b =>
      cases c with
      | finite c =>
        simp only [less, decide_eq_true_eq] at *
        exact Rat.not_le.1 fun hca => Rat.not_le.2 hab (Rat.le_trans (Rat.le_of_lt hbc) hca)
      | infinite _ => exact hbc
      | undefined => cases hbc
    | infinite _ => cases c <;> simp_all [less]
    | undefined => cases hab
  | infinite _ => cases b <;> cases c <;> simp_all [less]
  | undefined => cases hab

theorem less_asymm {a b : Extended} (hab : a.less b) : ¬ b.less a := by
  intro hba
  have haa := less_trans hab hba
  rw [less_irrefl] at haa
  cases haa

theorem isDefined_of_less {a b : Extended} (h : a.less b) :
    a.isDefined = true ∧ b.isDefined = true := by
  cases a <;> cases b <;> simp_all [less, isDefined]

end Numeric.Extended

theorem pairwise_less_insertSorted {key : α → Numeric.Extended} {a : α} {xs : List α}
    (ha : ∀ b ∈ xs, (key a).less (key b) ∨ (key b).less (key a))
    (hxs : xs.Pairwise fun a b => (key a).less (key b)) :
    (insertSorted extended key a xs).Pairwise fun a b => (key a).less (key b) := by
  induction xs with
  | nil => exact List.pairwise_singleton _ _
  | cons b rest ih =>
    obtain ⟨hb, hrest⟩ := List.pairwise_cons.1 hxs
    rw [insertSorted]
    split
    · rename_i hle
      have hab : (key a).less (key b) := by
        refine (ha b List.mem_cons_self).resolve_right fun hba => ?_
        simp [extended, hba] at hle
      refine List.pairwise_cons.2 ⟨fun c hc => ?_, hxs⟩
      rcases List.mem_cons.1 hc with rfl | hc
      · exact hab
      · exact Numeric.Extended.less_trans hab (hb c hc)
    · rename_i hle
      have hba : (key b).less (key a) := by simpa [extended] using hle
      refine List.pairwise_cons.2
        ⟨fun c hc => ?_, ih (fun c hc => ha c (List.mem_cons_of_mem _ hc)) hrest⟩
      rcases List.mem_cons.1 ((insertSorted_perm extended key a rest).mem_iff.1 hc) with rfl | hc
      · exact hba
      · exact hb c hc

/-- If of any two keys one is less than the other, sorting puts them in strictly ascending order. -/
theorem pairwise_less_sortOn {key : α → Numeric.Extended} {xs : List α}
    (h : xs.Pairwise fun a b => (key a).less (key b) ∨ (key b).less (key a)) :
    (sortOn extended key xs).Pairwise fun a b => (key a).less (key b) := by
  induction xs with
  | nil => exact List.Pairwise.nil
  | cons a rest ih =>
    obtain ⟨ha, hrest⟩ := List.pairwise_cons.1 h
    exact pairwise_less_insertSorted (fun b hb => ha b (mem_sortOn.1 hb)) (ih hrest)

theorem sortOn_extended_eq_of_perm {key : α → Numeric.Extended} {xs ys : List α}
    (hperm : xs.Perm ys)
    (hxs : xs.Pairwise fun a b => (key a).less (key b) ∨ (key b).less (key a)) :
    sortOn extended key xs = sortOn extended key ys := by
  have hys : ys.Pairwise fun a b => (key a).less (key b) ∨ (key b).less (key a) :=
    hperm.pairwise hxs Or.symm
  have hsorted :=
    (sortOn_perm extended key xs).trans (hperm.trans (sortOn_perm extended key ys).symm)
  refine hsorted.eq_of_pairwise ?_ (pairwise_less_sortOn hxs) (pairwise_less_sortOn hys)
  exact fun _ _ _ _ hab hba => absurd hba (Numeric.Extended.less_asymm hab)

/-- Among keys that are in order with all others, not being less carries over. -/
theorem Numeric.Extended.not_less_trans {a b c : Extended} (hb : b.isDefined = true)
    (hab : ¬ b.less a) (hbc : ¬ c.less b) : ¬ c.less a := by
  intro hca
  cases b with
  | finite b =>
    cases a with
    | finite a =>
      cases c with
      | finite c =>
        simp only [less, decide_eq_true_eq, Rat.not_lt] at *
        exact Rat.not_le.2 hca (Rat.le_trans hab hbc)
      | infinite _ => simp_all [less]
      | undefined => cases hca
    | infinite _ => cases c <;> simp_all [less]
    | undefined => cases c <;> cases hca
  | infinite _ => cases a <;> cases c <;> simp_all [less]
  | undefined => cases hb

theorem pairwise_not_less_insertSorted {key : α → Numeric.Extended} {a : α} {xs : List α}
    (ha : (key a).isDefined = true) (hdefined : ∀ b ∈ xs, (key b).isDefined = true)
    (hxs : xs.Pairwise fun b c => ¬ (key c).less (key b)) :
    (insertSorted extended key a xs).Pairwise fun b c => ¬ (key c).less (key b) := by
  induction xs with
  | nil => exact List.pairwise_singleton _ _
  | cons b rest ih =>
    obtain ⟨hb, hrest⟩ := List.pairwise_cons.1 hxs
    obtain ⟨hbdefined, hdefined⟩ := List.forall_mem_cons.1 hdefined
    rw [insertSorted]
    split
    · rename_i hle
      have hab : ¬ (key b).less (key a) := by simpa [extended] using hle
      refine List.pairwise_cons.2 ⟨fun c hc => ?_, hxs⟩
      rcases List.mem_cons.1 hc with rfl | hc
      · exact hab
      · exact Numeric.Extended.not_less_trans hbdefined hab (hb c hc)
    · rename_i hle
      have hba : (key b).less (key a) := by simpa [extended] using hle
      refine List.pairwise_cons.2 ⟨fun c hc => ?_, ih hdefined hrest⟩
      rcases List.mem_cons.1 ((insertSorted_perm extended key a rest).mem_iff.1 hc) with rfl | hc
      · exact Numeric.Extended.less_asymm hba
      · exact hb c hc

/-- Keys that are all in order with each other ascend after sorting. -/
theorem pairwise_not_less_sortOn {key : α → Numeric.Extended} {xs : List α}
    (h : ∀ a ∈ xs, (key a).isDefined = true) :
    (sortOn extended key xs).Pairwise fun a b => ¬ (key b).less (key a) := by
  induction xs with
  | nil => exact List.Pairwise.nil
  | cons a rest ih =>
    obtain ⟨ha, hrest⟩ := List.forall_mem_cons.1 h
    exact pairwise_not_less_insertSorted ha (fun b hb => hrest b (mem_sortOn.1 hb)) (ih hrest)

/-! ### Arranging keeps the elements -/

theorem append_eq_of_takeChain {next : α → α → Bool} {a : α} {xs chain others : List α}
    (h : takeChain next a xs = (chain, others)) : chain ++ others = xs := by
  induction xs generalizing a chain others with
  | nil =>
    cases h
    rfl
  | cons b rest ih =>
    rw [takeChain] at h
    split at h
    · cases htake : takeChain next b rest with
      | mk chain' others' =>
        rw [htake] at h
        obtain ⟨rfl, rfl⟩ := Prod.mk.inj h
        exact congrArg (b :: ·) (ih htake)
    · cases h
      rfl

theorem bisect_le (isAbove : α → Bool) (xs : List α) {low high : Nat} (h : low ≤ high) :
    bisect isAbove xs low high ≤ high := by
  fun_induction bisect isAbove xs low high with
  | case1 low high hlt middle _ ih => exact (ih (by omega)).trans (by omega)
  | case2 low high hlt middle _ ih => exact ih (by omega)
  | case3 low high _ => exact h

theorem foldl_insertIdx_perm (place : α → List α → Nat) (hplace : ∀ a xs, place a xs ≤ xs.length)
    (xs sorted : List α) :
    (xs.foldl (fun sorted a => sorted.insertIdx (place a sorted) a) sorted).Perm
      (sorted ++ xs) := by
  induction xs generalizing sorted with
  | nil => rw [List.append_nil]; exact .refl _
  | cons a rest ih =>
    have hinsert : (sorted.insertIdx (place a sorted) a ++ rest).Perm (sorted ++ a :: rest) :=
      ((List.perm_insertIdx a sorted (hplace a sorted)).append_right rest).trans
        List.perm_middle.symm
    exact (ih _).trans hinsert

theorem arrange_perm (less : α → α → Bool) (xs : List α) : (arrange less xs).Perm xs := by
  have hplace : ∀ a (sorted : List α), bisect (less a) sorted 0 sorted.length ≤ sorted.length :=
    fun a sorted => bisect_le _ _ (Nat.zero_le _)
  match xs with
  | [] => exact .refl _
  | [a] => exact .refl _
  | a :: b :: rest =>
    rw [arrange]
    split
    rename_i chain others hparts
    have hperm : (chain ++ others).Perm (a :: b :: rest) := by
      split at hparts
      · cases htake : takeChain (fun x y => less y x) a (b :: rest) with
        | mk descending others' =>
          rw [htake] at hparts
          obtain ⟨rfl, rfl⟩ := Prod.mk.inj hparts
          refine ((List.reverse_perm _).append_right _).trans (.of_eq ?_)
          rw [List.cons_append, append_eq_of_takeChain htake]
      · cases htake : takeChain (fun x y => !less y x) a (b :: rest) with
        | mk ascending others' =>
          rw [htake] at hparts
          obtain ⟨rfl, rfl⟩ := Prod.mk.inj hparts
          rw [List.cons_append, append_eq_of_takeChain htake]
    exact (foldl_insertIdx_perm _ hplace others chain).trans hperm

/-! ## Sets of keys -/

theorem pairwise_insertUnique [BEq κ] [LawfulBEq κ] {le : Comparison κ} (h : le.Linear) (a : κ)
    {xs : List κ} (hxs : xs.Pairwise (Before le)) :
    (insertUnique le a xs).Pairwise (Before le) := by
  induction xs with
  | nil => exact List.pairwise_singleton _ _
  | cons b rest ih =>
    obtain ⟨hb, hrest⟩ := List.pairwise_cons.1 hxs
    unfold insertUnique
    split
    · exact hxs
    · rename_i hab
      have hne : a ≠ b := fun e => hab (by simp [e])
      split
      · rename_i hle
        refine List.pairwise_cons.2 ⟨fun c hc => ?_, hxs⟩
        rcases List.mem_cons.1 hc with rfl | hc
        · exact ⟨hle, hne⟩
        · exact h.before_trans ⟨hle, hne⟩ (hb c hc)
      · rename_i hle
        refine List.pairwise_cons.2 ⟨fun c hc => ?_, ih hrest⟩
        rcases mem_insertUnique.1 hc with rfl | hc
        · exact h.before_of_not_le hle
        · exact hb c hc

theorem pairwise_sortedSet [BEq κ] [LawfulBEq κ] {le : Comparison κ} (h : le.Linear) (xs : List κ) :
    (sortedSet le xs).Pairwise (Before le) := by
  induction xs with
  | nil => exact List.Pairwise.nil
  | cons a rest ih => exact pairwise_insertUnique h a ih

theorem nodup_sortedSet [BEq κ] [LawfulBEq κ] {le : Comparison κ} (h : le.Linear) (xs : List κ) :
    (sortedSet le xs).Nodup :=
  (pairwise_sortedSet h xs).imp fun hab => hab.2

/-- A set in order is determined by its elements. -/
theorem sortedSet_eq_of_mem_iff [BEq κ] [LawfulBEq κ] {le : Comparison κ} (h : le.Linear)
    {xs ys : List κ} (hmem : ∀ a, a ∈ xs ↔ a ∈ ys) : sortedSet le xs = sortedSet le ys := by
  have hperm : (sortedSet le xs).Perm (sortedSet le ys) := by
    refine (List.perm_ext_iff_of_nodup (nodup_sortedSet h xs) (nodup_sortedSet h ys)).2 fun a => ?_
    rw [mem_sortedSet, mem_sortedSet]
    exact hmem a
  exact hperm.eq_of_pairwise (fun _ _ _ _ hab hba => absurd hba (h.not_before hab))
    (pairwise_sortedSet h xs) (pairwise_sortedSet h ys)

end SchemaStructs
