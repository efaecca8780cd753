import Mathlib.Logic.Relation
import SchemaStructs.Proofs.Generate.DependencyOrder
import SchemaStructs.Proofs.Sorting

/-!
# Declarations stand after what they use

If no declaration uses itself through others, the order of declarations is a topological one: each
stands after all of the list that it uses. While a declaration is visited, what has been visited but
not placed leads to it, so a dependency that is met again is placed already. The order depends on
the declarations alone, not on the order in which they are given.
-/

namespace SchemaStructs.Generate

open Catalog Mapping Comparison

/-- One declaration of the list uses another one of it. -/
def Uses (ds : List Declaration) (d e : Declaration) : Prop :=
  d ∈ ds ∧ e ∈ ds ∧ e.name ∈ d.dependencies

/-- No declaration of the list uses itself, neither directly nor through others. -/
def AcyclicUses (ds : List Declaration) : Prop := ∀ d, ¬ Relation.TransGen (Uses ds) d d

/-- Each declaration of `order` stands after all that it uses. -/
def UsedFirst (ds order : List Declaration) : Prop :=
  ∀ before d after, order = before ++ d :: after → ∀ e, Uses ds d e → e ∈ before

variable {ds : List Declaration}

/-- A rank that grows along uses rules cycles out. -/
theorem acyclicUses_of_rank (rank : Declaration → Nat) (h : ∀ d e, Uses ds d e → rank e < rank d) :
    AcyclicUses ds := by
  have hrank : ∀ d e, Relation.TransGen (Uses ds) d e → rank e < rank d := by
    intro d e huses
    induction huses with
    | single huse => exact h _ _ huse
    | tail _ huse ih => exact (h _ _ huse).trans ih
  exact fun d hd => Nat.lt_irrefl _ (hrank d d hd)

theorem UsedFirst.append_singleton {order : List Declaration} (h : UsedFirst ds order)
    {d : Declaration} (hd : ∀ e, Uses ds d e → e ∈ order) : UsedFirst ds (order ++ [d]) := by
  intro before d' after heq
  rcases List.eq_nil_or_concat after with rfl | ⟨after, last, rfl⟩
  · obtain ⟨rfl, hlast⟩ := List.append_inj' heq rfl
    obtain rfl : d = d' := List.singleton_inj.1 hlast
    exact hd
  · rw [List.concat_eq_append, ← List.cons_append, ← List.append_assoc] at heq
    exact h before d' after (List.append_inj' heq rfl).1

/-! ## Visits -/

namespace Placement

variable {p p' : Placement} {steps : Nat} {path path' : Declaration → Prop}

/-- Each placed declaration stands after what it uses, what is visited and not placed is on the
`path`, and the steps suffice for what is not visited. -/
structure Ready (ds : List Declaration) (steps : Nat) (path : Declaration → Prop) (p : Placement) :
    Prop where
  nodup : p.visited.Nodup
  known : p.visited ⊆ ds.map Declaration.name
  usedFirst : UsedFirst ds p.placed
  steps : ds.length < steps + p.visited.length
  placed_or_path : ∀ e ∈ ds, e.name ∈ p.visited → e ∈ p.placed ∨ path e

namespace Ready

theorem mono (h : Ready ds steps path p) (hpath : ∀ e, path e → path' e) : Ready ds steps path' p :=
  { h with
    placed_or_path := fun e he hvisited => (h.placed_or_path e he hvisited).imp_right (hpath e) }

theorem steps_ne_zero (h : Ready ds steps path p) : steps ≠ 0 := by
  rintro rfl
  have hle : p.visited.length ≤ (ds.map Declaration.name).length :=
    (h.nodup.subperm h.known).length_le
  have hlt := h.steps
  rw [List.length_map] at hle
  omega

/-- What is visited and placed at once leaves the path as it is. -/
theorem grows (hnames : (ds.map Declaration.name).Nodup) (h : Ready ds steps path p)
    (hgrows : Grows ds p p') (hused : UsedFirst ds p'.placed) : Ready ds steps path p' := by
  obtain ⟨new, hnew, hplaced, hvisited, hnodup⟩ := hgrows
  constructor
  case nodup => exact hnodup h.nodup
  case known =>
    intro n hn
    rcases List.mem_append.1 (hvisited.mem_iff.1 hn) with hn | hn
    · exact List.map_subset _ hnew hn
    · exact h.known hn
  case usedFirst => exact hused
  case steps =>
    have hlt := h.steps
    rw [hvisited.length_eq, List.length_append]
    omega
  case placed_or_path =>
    intro e he hn
    rw [hplaced, List.mem_append]
    rcases List.mem_append.1 (hvisited.mem_iff.1 hn) with hn | hn
    · obtain ⟨e', he', hname⟩ := List.mem_map.1 hn
      obtain rfl : e' = e := List.inj_on_of_nodup_map hnames (hnew e' he') he hname
      exact .inl (.inr he')
    · exact (h.placed_or_path e he hn).imp_left .inl

/-- A declaration whose visit begins is on the path. -/
theorem begin (h : Ready ds (steps + 1) path p) {d : Declaration} (hd : d ∈ ds)
    (hnot : d.name ∉ p.visited) (hnames : (ds.map Declaration.name).Nodup) :
    Ready ds steps (fun e => e = d ∨ path e) { p with visited := d.name :: p.visited } := by
  constructor
  case nodup => exact List.nodup_cons.2 ⟨hnot, h.nodup⟩
  case known => exact List.cons_subset.2 ⟨List.mem_map_of_mem hd, h.known⟩
  case usedFirst => exact h.usedFirst
  case steps =>
    have hlt := h.steps
    rw [List.length_cons]
    omega
  case placed_or_path =>
    intro e he hn
    rcases List.mem_cons.1 hn with hname | hn
    · exact .inr (.inl (List.inj_on_of_nodup_map hnames he hd hname))
    · exact (h.placed_or_path e he hn).imp_right .inr

/-- Visits one after the other, each of which places its declaration after what that uses. -/
theorem foldl (hnames : (ds.map Declaration.name).Nodup) {f : Placement → Declaration → Placement}
    {es : List Declaration} (hgrows : ∀ p, ∀ e ∈ es, Grows ds p (f p e))
    (hf : ∀ p, Ready ds steps path p → ∀ e ∈ es, UsedFirst ds (f p e).placed ∧ e ∈ (f p e).placed)
    (h : Ready ds steps path p) :
    UsedFirst ds (es.foldl f p).placed ∧ ∀ e ∈ es, e ∈ (es.foldl f p).placed := by
  induction es generalizing p with
  | nil => exact ⟨h.usedFirst, by simp⟩
  | cons e rest ih =>
    obtain ⟨hgrow, hgrowRest⟩ : Grows ds p (f p e) ∧ ∀ p, ∀ e' ∈ rest, Grows ds p (f p e') :=
      ⟨hgrows p e List.mem_cons_self, fun p e' he' => hgrows p e' (List.mem_cons_of_mem e he')⟩
    obtain ⟨hused, hplaced⟩ := hf p h e List.mem_cons_self
    have hrest := ih hgrowRest (fun p hp e' he' => hf p hp e' (List.mem_cons_of_mem e he'))
      (h.grows hnames hgrow hused)
    refine ⟨hrest.1, List.forall_mem_cons.2 ⟨?_, hrest.2⟩⟩
    obtain ⟨new, -, hnew, -⟩ := Grows.foldl (p := f p e) hgrowRest
    rw [List.foldl_cons, hnew]
    exact List.mem_append_left new hplaced

end Ready

/-- A visit places its declaration after all that it uses, if what waits on the path uses it. -/
theorem usedFirst_visit {byName : Entries QualifiedName Declaration}
    (hnames : (ds.map Declaration.name).Nodup) (hacyclic : AcyclicUses ds)
    (hbyName : ∀ n d, byName.get? n = some d ↔ d ∈ ds ∧ d.name = n) {d : Declaration} (hd : d ∈ ds)
    (h : Ready ds steps (fun e => Relation.TransGen (Uses ds) e d) p) :
    UsedFirst ds (visit byName steps p d).placed ∧ d ∈ (visit byName steps p d).placed := by
  induction steps generalizing p d with
  | zero => exact absurd rfl h.steps_ne_zero
  | succ steps ih =>
    unfold visit
    split
    · rename_i hvisited
      have hplaced := h.placed_or_path d hd (by simpa using hvisited)
      exact ⟨h.usedFirst, hplaced.resolve_right (hacyclic d)⟩
    · rename_i hnot
      have hbegin := h.begin hd (by simpa using hnot) hnames
      have hmem : ∀ n e, byName.get? n = some e → e ∈ ds := fun n e he => ((hbyName n e).1 he).1
      have huses : ∀ e, e ∈ (sortedSet QualifiedName.le d.dependencies).filterMap byName.get? ↔
          Uses ds d e := by
        intro e
        simp only [List.mem_filterMap, mem_sortedSet, hbyName, Uses]
        constructor
        · rintro ⟨n, hn, he, rfl⟩
          exact ⟨hd, he, hn⟩
        · rintro ⟨-, he, hn⟩
          exact ⟨_, hn, he, rfl⟩
      -- All that waits while a dependency is visited is `d` or leads to `d`, so it leads to the
      -- dependency.
      obtain ⟨hused, hplaced⟩ := hbegin.foldl hnames
        (fun q e he => grows_visit hmem steps q ((huses e).1 he).2.1)
        (fun q hq e he => ih ((huses e).1 he).2.1 (hq.mono fun e' he' => by
          have huse := (huses e).1 he
          rcases he' with rfl | hpath
          · exact .single huse
          · exact hpath.tail huse))
      refine ⟨hused.append_singleton fun e he => hplaced e ((huses e).2 he), ?_⟩
      exact List.mem_append_right _ (List.mem_singleton_self d)

theorem visit_congr {byName byName' : Entries QualifiedName Declaration}
    (h : ∀ n, byName.get? n = byName'.get? n) (steps : Nat) :
    visit byName steps = visit byName' steps := by
  induction steps with
  | zero => rfl
  | succ steps ih =>
    funext p d
    unfold visit
    rw [ih, List.filterMap_congr fun n _ => h n]

end Placement

/-! ## Orders -/

theorem usedFirst_dependencyOrder (hnames : (ds.map Declaration.name).Nodup)
    (hacyclic : AcyclicUses ds) : UsedFirst ds (dependencyOrder ds) := by
  have hbyName := get?_ofPairs_names hnames
  have hmem : ∀ d ∈ sortOn QualifiedName.le Declaration.name ds, d ∈ ds :=
    fun d hd => mem_sortOn.1 hd
  have hstart : Placement.Ready ds (ds.length + 1) (fun _ => False) {} := by
    refine ⟨List.nodup_nil, List.nil_subset _, ?_, by simp, by simp⟩
    intro before d after heq
    cases before <;> cases heq
  refine (hstart.foldl hnames (fun p d hd => ?_) fun p hp d hd => ?_).1
  · exact Placement.grows_visit (fun n d he => ((hbyName n d).1 he).1) _ p (hmem d hd)
  · exact Placement.usedFirst_visit hnames hacyclic hbyName (hmem d hd)
      (hp.mono fun _ => False.elim)

/-- The order of declarations with distinct names does not depend on the order in which they are
given. -/
theorem dependencyOrder_eq_of_perm (hnames : (ds.map Declaration.name).Nodup)
    {ds' : List Declaration} (hperm : ds'.Perm ds) : dependencyOrder ds' = dependencyOrder ds := by
  have hnames' : (ds'.map Declaration.name).Nodup := (hperm.map _).nodup_iff.2 hnames
  have hget : ∀ n, (Entries.ofPairs (ds'.map fun d => (d.name, d))).get? n =
      (Entries.ofPairs (ds.map fun d => (d.name, d))).get? n := by
    intro n
    refine Option.ext fun d => ?_
    rw [get?_ofPairs_names hnames, get?_ofPairs_names hnames', hperm.mem_iff]
  unfold dependencyOrder
  dsimp only
  rw [Placement.visit_congr hget, hperm.length_eq,
    sortOn_eq_of_perm QualifiedName.le_linear hperm hnames']

/-- **Topological order**: declarations with distinct names that do not use each other in a circle
are ordered so that each stands after what it uses, in the same way whatever order they are given
in. -/
theorem dependencyOrder_topological (hnames : (ds.map Declaration.name).Nodup)
    (hacyclic : AcyclicUses ds) :
    (dependencyOrder ds).Perm ds ∧ UsedFirst ds (dependencyOrder ds) ∧
      ∀ ds', ds'.Perm ds → dependencyOrder ds' = dependencyOrder ds :=
  ⟨dependencyOrder_perm hnames, usedFirst_dependencyOrder hnames hacyclic,
    fun _ => dependencyOrder_eq_of_perm hnames⟩

/-- A board of tickets, which have a status; the names stand against the order of use. -/
def ticketing : List Declaration := [
  ⟨⟨"public", "board"⟩, "Board", .composite [] []
    [⟨"public", "ticket"⟩, ⟨"public", "zz_status"⟩, ⟨"staff", "person"⟩] []⟩,
  ⟨⟨"public", "zz_status"⟩, "ZzStatus", .enum ["open", "closed"]⟩,
  ⟨⟨"public", "ticket"⟩, "Ticket", .composite [] [] [⟨"public", "zz_status"⟩] []⟩]

theorem ticketing_topological :
    (ticketing.map Declaration.name).Nodup ∧ AcyclicUses ticketing ∧
      (dependencyOrder ticketing).map Declaration.identifier = ["ZzStatus", "Ticket", "Board"] ∧
      (dependencyOrder ticketing).Perm ticketing ∧ UsedFirst ticketing (dependencyOrder ticketing) ∧
      ∀ ds', ds'.Perm ticketing → dependencyOrder ds' = dependencyOrder ticketing := by
  have hnames : (ticketing.map Declaration.name).Nodup := by decide
  have hrank : ∀ d ∈ ticketing, ∀ e ∈ ticketing, e.name ∈ d.dependencies →
      e.dependencies.length < d.dependencies.length := by decide
  have hacyclic : AcyclicUses ticketing :=
    acyclicUses_of_rank (fun d => d.dependencies.length) fun d e ⟨hd, he, huse⟩ =>
      hrank d hd e he huse
  exact ⟨hnames, hacyclic, by decide +kernel, dependencyOrder_topological hnames hacyclic⟩

end SchemaStructs.Generate
