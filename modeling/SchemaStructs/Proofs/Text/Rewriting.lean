import Mathlib.Data.List.Basic
import SchemaStructs.Proofs.Text.Runs

/-!
# Rewriting by patterns

A pattern is a row of character classes, some of them repeated. A repetition takes as many
characters as it can and gives back what the rest of the pattern needs. Matches are looked for from
the left, each behind the one before it. Marking the matches of a pattern, or splitting at them, is
what any function does that agrees with one match and with one character at which there is none.
-/

namespace SchemaStructs.Text

/-! ## Patterns -/

/-- One character of a class, or one or more of them. -/
inductive Piece where
  | one (isIn : Char → Bool)
  | many (isIn : Char → Bool)

abbrev Pattern := List Piece

namespace Pattern

/-- The texts that a pattern matches at the start of another, each with what is left behind it. The
first is the one that is taken, since a repetition prefers to go on. -/
def candidates : Pattern → List Char → List (List Char × List Char)
  | [], s => [([], s)]
  | _ :: _, [] => []
  | .one isIn :: pieces, c :: s =>
    if isIn c then (candidates pieces s).map (Prod.map (c :: ·) id) else []
  | .many isIn :: pieces, c :: s =>
    if isIn c then
      (candidates (.many isIn :: pieces) s ++ candidates pieces s).map (Prod.map (c :: ·) id)
    else []

/-- The whole text is matched by the pattern. -/
inductive Fits : Pattern → List Char → Prop
  | nil : Fits [] []
  | one {isIn : Char → Bool} {pieces : Pattern} {c : Char} {s : List Char} : isIn c = true →
      Fits pieces s → Fits (.one isIn :: pieces) (c :: s)
  | last {isIn : Char → Bool} {pieces : Pattern} {c : Char} {s : List Char} : isIn c = true →
      Fits pieces s → Fits (.many isIn :: pieces) (c :: s)
  | more {isIn : Char → Bool} {pieces : Pattern} {c : Char} {s : List Char} : isIn c = true →
      Fits (.many isIn :: pieces) s → Fits (.many isIn :: pieces) (c :: s)

theorem mem_candidates_iff {pieces : Pattern} {s m rest : List Char} :
    (m, rest) ∈ candidates pieces s ↔ s = m ++ rest ∧ Fits pieces m := by
  induction s generalizing pieces m with
  | nil =>
    cases pieces with
    | nil =>
      simp only [candidates, List.mem_singleton, Prod.mk.injEq, List.nil_eq_append_iff]
      constructor
      · rintro ⟨rfl, rfl⟩
        exact ⟨⟨rfl, rfl⟩, .nil⟩
      · exact fun h => h.1
    | cons piece pieces =>
      simp only [candidates, List.not_mem_nil, List.nil_eq_append_iff, false_iff]
      rintro ⟨⟨rfl, rfl⟩, hfits⟩
      cases hfits
  | cons c s ih =>
    cases pieces with
    | nil =>
      simp only [candidates, List.mem_singleton, Prod.mk.injEq]
      constructor
      · rintro ⟨rfl, rfl⟩
        exact ⟨rfl, .nil⟩
      · rintro ⟨hs, hfits⟩
        cases hfits
        exact ⟨rfl, hs.symm⟩
    | cons piece pieces =>
      cases piece with
      | one isIn =>
        simp only [candidates, List.mem_ite_nil_right, List.mem_map, Prod.exists, Prod.map, id_eq,
          Prod.mk.injEq]
        constructor
        · rintro ⟨hc, m, rest, hm, rfl, rfl⟩
          obtain ⟨rfl, hfits⟩ := ih.1 hm
          exact ⟨rfl, .one hc hfits⟩
        · rintro ⟨hs, hfits⟩
          cases hfits with
          | one hc hfits =>
            obtain ⟨rfl, rfl⟩ := List.cons.inj hs
            exact ⟨hc, _, _, ih.2 ⟨rfl, hfits⟩, rfl, rfl⟩
      | many isIn =>
        simp only [candidates, List.mem_ite_nil_right, List.mem_map, List.mem_append, Prod.exists,
          Prod.map, id_eq, Prod.mk.injEq]
        constructor
        · rintro ⟨hc, m, rest, hm | hm, rfl, rfl⟩
          · obtain ⟨rfl, hfits⟩ := ih.1 hm
            exact ⟨rfl, .more hc hfits⟩
          · obtain ⟨rfl, hfits⟩ := ih.1 hm
            exact ⟨rfl, .last hc hfits⟩
        · rintro ⟨hs, hfits⟩
          cases hfits with
          | last hc hfits =>
            obtain ⟨rfl, rfl⟩ := List.cons.inj hs
            exact ⟨hc, _, _, .inr (ih.2 ⟨rfl, hfits⟩), rfl, rfl⟩
          | more hc hfits =>
            obtain ⟨rfl, rfl⟩ := List.cons.inj hs
            exact ⟨hc, _, _, .inl (ih.2 ⟨rfl, hfits⟩), rfl, rfl⟩

theorem fits_many_iff {isIn : Char → Bool} {m : List Char} :
    Fits [.many isIn] m ↔ m ≠ [] ∧ ∀ c ∈ m, isIn c = true := by
  induction m with
  | nil =>
    refine ⟨fun h => ?_, fun h => absurd rfl h.1⟩
    cases h
  | cons c m ih =>
    rw [List.forall_mem_cons]
    constructor
    · intro h
      cases h with
      | last hc h =>
        cases h
        exact ⟨List.cons_ne_nil _ _, hc, by simp⟩
      | more hc h => exact ⟨List.cons_ne_nil _ _, hc, (ih.1 h).2⟩
    · rintro ⟨-, hc, hm⟩
      by_cases hnil : m = []
      · rw [hnil]
        exact .last hc .nil
      · exact .more hc (ih.2 ⟨hnil, hm⟩)

end Pattern

/-! ## Marking matches -/

/-- Two patterns, one behind the other. -/
structure BorderPattern where
  before : Pattern
  after : Pattern

namespace BorderPattern

/-- The match at the start of a text that is taken, in its two parts. -/
def match? (p : BorderPattern) (s : List Char) : Option (List Char × List Char) :=
  (p.before.candidates s).findSome? fun m => (p.after.candidates m.2).head?.map fun m' =>
    (m.1, m'.1)

/-- The text with an underscore inside each match; of a match that is written, `skip` characters are
still to come. -/
def markFrom (p : BorderPattern) : Nat → List Char → List Char
  | _, [] => []
  | skip + 1, _ :: s => markFrom p skip s
  | 0, c :: s =>
    match p.match? (c :: s) with
    | some (m, m') => m ++ '_' :: m' ++ markFrom p (m.length + m'.length - 1) s
    | none => c :: markFrom p 0 s

def mark (p : BorderPattern) (s : List Char) : List Char := p.markFrom 0 s

/-- The two parts of a match. -/
structure Fits (p : BorderPattern) (m m' : List Char) : Prop where
  before : p.before.Fits m
  after : p.after.Fits m'

theorem exists_of_match? {p : BorderPattern} {s m m' : List Char} (h : p.match? s = some (m, m')) :
    p.Fits m m' ∧ ∃ rest, s = m ++ m' ++ rest := by
  obtain ⟨⟨m₁, rest⟩, hmem, h⟩ := List.exists_of_findSome?_eq_some h
  obtain ⟨⟨m₂, rest'⟩, hhead, h⟩ := Option.map_eq_some_iff.1 h
  obtain ⟨hs, hbefore⟩ := Pattern.mem_candidates_iff.1 hmem
  obtain ⟨hrest : rest = m₂ ++ rest', hafter⟩ :=
    Pattern.mem_candidates_iff.1 (List.mem_of_mem_head? hhead)
  obtain ⟨rfl, rfl⟩ := Prod.mk.inj h
  exact ⟨⟨hbefore, hafter⟩, rest', by rw [hs, hrest, ← List.append_assoc]⟩

theorem not_fits_of_match?_eq_none {p : BorderPattern} {m m' rest : List Char}
    (h : p.match? (m ++ m' ++ rest) = none) : ¬ p.Fits m m' := by
  rintro ⟨hbefore, hafter⟩
  have hm : (m, m' ++ rest) ∈ p.before.candidates (m ++ m' ++ rest) :=
    Pattern.mem_candidates_iff.2 ⟨List.append_assoc .., hbefore⟩
  have hm' : (m', rest) ∈ p.after.candidates (m' ++ rest) :=
    Pattern.mem_candidates_iff.2 ⟨rfl, hafter⟩
  have hnone := List.findSome?_eq_none_iff.1 h _ hm
  rw [Option.map_eq_none_iff, List.head?_eq_none_iff] at hnone
  rw [hnone] at hm'
  cases hm'

/-- A function marks the matches of a pattern if it does so for a match at the start and passes over
a character at which there is none. -/
theorem mark_eq {p : BorderPattern} {f : List Char → List Char} (hnil : f [] = [])
    (hmatch : ∀ m m' rest, p.Fits m m' → f (m ++ m' ++ rest) = m ++ '_' :: m' ++ f rest)
    (hpass : ∀ c s, (∀ m m' rest, c :: s = m ++ m' ++ rest → ¬ p.Fits m m') → f (c :: s) = c :: f s)
    (s : List Char) : p.mark s = f s := by
  suffices H : ∀ skip, p.markFrom skip s = f (s.drop skip) from H 0
  induction s with
  | nil =>
    intro skip
    rw [List.drop_nil, hnil, markFrom]
  | cons c s ih =>
    intro skip
    cases skip with
    | succ skip => exact ih skip
    | zero =>
      rw [markFrom, List.drop_zero]
      split
      · rename_i m m' hsome
        obtain ⟨hfits, rest, hs⟩ := exists_of_match? hsome
        have hlength : (m ++ m').length ≠ 0 := by
          intro hlength
          obtain ⟨rfl, rfl⟩ := List.append_eq_nil_iff.1 (List.length_eq_zero_iff.1 hlength)
          exact List.cons_ne_self _ _ (hmatch [] [] [] hfits).symm
        have hdrop : s.drop (m.length + m'.length - 1) = rest := by
          rw [← List.length_append, ← List.drop_succ_cons (a := c), Nat.sub_one_add_one hlength, hs,
            List.drop_left]
        rw [ih, hdrop, hs, hmatch m m' rest hfits]
      · rename_i hnone
        rw [ih, List.drop_zero, hpass]
        rintro m m' rest hs hfits
        exact not_fits_of_match?_eq_none (hs ▸ hnone) hfits

end BorderPattern

/-! ## Splitting at matches -/

namespace Pattern

/-- The parts of a text between the matches of a pattern; of the match before the text, `skip`
characters are still to come. -/
def partsFrom (pieces : Pattern) : Nat → List Char → List (List Char)
  | _, [] => [[]]
  | skip + 1, _ :: s => partsFrom pieces skip s
  | 0, c :: s =>
    match (pieces.candidates (c :: s)).head? with
    | some (m, _) => [] :: partsFrom pieces (m.length - 1) s
    | none => (partsFrom pieces 0 s).modifyHead (c :: ·)

def parts (pieces : Pattern) (s : List Char) : List (List Char) := pieces.partsFrom 0 s

variable {isSeparator : Char → Bool}

/-- The runs of a text are the parts between its separators that are not empty; the first part is
empty if the text does not start with a run. -/
theorem runsTo_partsFrom (isSeparator : Char → Bool) (skip : Nat) (s : List Char) :
    ∃ first others, partsFrom [.many isSeparator] skip s = first :: others ∧
      RunsTo isSeparator (s.drop skip) ((first :: others).filter (!·.isEmpty)) ∧
      (first = [] ↔ ∀ c ∈ (s.drop skip).head?, isSeparator c = true) := by
  induction s generalizing skip with
  | nil => exact ⟨[], [], by rw [partsFrom], by simpa using RunsTo.nil, by simp⟩
  | cons c s ih =>
    cases skip with
    | succ skip => exact ih skip
    | zero =>
      rw [partsFrom]
      split
      · rename_i m rest hhead
        obtain ⟨hcons, hfits⟩ := mem_candidates_iff.1 (List.mem_of_mem_head? hhead)
        obtain ⟨hne, hm⟩ := fits_many_iff.1 hfits
        obtain ⟨d, m, rfl⟩ := List.exists_cons_of_ne_nil hne
        obtain ⟨rfl, hs⟩ : c = d ∧ s = m ++ rest := List.cons.inj hcons
        obtain ⟨first, others, hparts, hruns, -⟩ := ih m.length
        rw [hs, List.drop_left] at hruns
        refine ⟨[], first :: others, congrArg _ hparts, ?_, by simpa using hm c List.mem_cons_self⟩
        rw [hs]
        exact hruns.skip_append hm
      · rename_i hnone
        have hc : isSeparator c = false := by
          rw [Bool.eq_false_iff]
          intro hc
          have hmem : ([c], s) ∈ candidates [.many isSeparator] (c :: s) :=
            mem_candidates_iff.2 ⟨rfl, .last hc .nil⟩
          rw [List.head?_eq_none_iff.1 hnone] at hmem
          cases hmem
        obtain ⟨first, others, hparts, hruns, hfirst⟩ := ih 0
        rw [List.drop_zero] at hruns hfirst
        refine ⟨c :: first, others, by rw [hparts, List.modifyHead_cons], ?_, by simp [hc]⟩
        by_cases hempty : first = []
        · rw [hempty] at hruns ⊢
          exact .start hc (hfirst.1 hempty) hruns
        · obtain ⟨d, hd, hsep⟩ : ∃ d ∈ s.head?, isSeparator d = false := by
            simpa using mt hfirst.2 hempty
          obtain ⟨s, rfl⟩ := List.head?_eq_some_iff.1 hd
          rw [List.filter_cons_of_pos (by simpa using hempty)] at hruns
          exact .extend hc hsep hruns

theorem filter_parts (isSeparator : Char → Bool) (s : List Char) :
    (parts [.many isSeparator] s).filter (!·.isEmpty) = runs isSeparator s := by
  obtain ⟨first, others, hparts, hruns, -⟩ := runsTo_partsFrom isSeparator 0 s
  rw [parts, hparts]
  exact hruns.unique (runsTo_runs isSeparator s)

end Pattern

end SchemaStructs.Text
