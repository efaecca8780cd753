import Mathlib.Data.List.Infix
import SchemaStructs.Text.Character

/-!
# Runs of a text

The runs of a text are its maximal parts without a separator. Each stands in the text as it is and
is not empty, and put together they are the text without its separators.
-/

namespace SchemaStructs.Text

/-- How the runs of a text come from those of its rest: a separator is skipped, another character
starts a run or extends the first one. -/
inductive RunsTo (isSeparator : Char → Bool) : List Char → List (List Char) → Prop
  | nil : RunsTo isSeparator [] []
  | skip {c : Char} {s : List Char} {rs : List (List Char)} : isSeparator c = true →
      RunsTo isSeparator s rs → RunsTo isSeparator (c :: s) rs
  | start {c : Char} {s : List Char} {rs : List (List Char)} : isSeparator c = false →
      (∀ d ∈ s.head?, isSeparator d = true) → RunsTo isSeparator s rs →
      RunsTo isSeparator (c :: s) ([c] :: rs)
  | extend {c d : Char} {s run : List Char} {rs : List (List Char)} : isSeparator c = false →
      isSeparator d = false → RunsTo isSeparator (d :: s) (run :: rs) →
      RunsTo isSeparator (c :: d :: s) ((c :: run) :: rs)

namespace RunsTo

variable {isSeparator : Char → Bool} {s : List Char} {rs : List (List Char)}

/-- A text that does not start with a separator starts with its first run. -/
theorem exists_prefix {c : Char} (h : RunsTo isSeparator (c :: s) rs) (hc : isSeparator c = false) :
    ∃ run others, rs = run :: others ∧ run <+: c :: s := by
  generalize hs : c :: s = text at h
  induction h generalizing c s with
  | nil => cases hs
  | skip hsep _ _ =>
    cases hs
    rw [hc] at hsep
    cases hsep
  | start _ _ _ _ =>
    cases hs
    exact ⟨_, _, rfl, ⟨_, rfl⟩⟩
  | extend _ hd _ ih =>
    cases hs
    obtain ⟨run, others, hrun, hprefix⟩ := ih hd rfl
    cases hrun
    exact ⟨_, _, rfl, (List.prefix_cons_inj _).2 hprefix⟩

theorem flatten_eq (h : RunsTo isSeparator s rs) : rs.flatten = s.filter (!isSeparator ·) := by
  induction h with
  | nil => rfl
  | skip hc _ ih => simp [hc, ih]
  | start hc _ _ ih => simp [hc, ih]
  | extend hc _ _ ih =>
    rw [List.flatten_cons, List.cons_append, List.filter_cons_of_pos (by simpa using hc), ← ih,
      List.flatten_cons]

theorem ne_nil (h : RunsTo isSeparator s rs) : ∀ run ∈ rs, run ≠ [] := by
  induction h with
  | nil => exact fun _ hrun => absurd hrun List.not_mem_nil
  | skip _ _ ih => exact ih
  | start _ _ _ ih => exact List.forall_mem_cons.2 ⟨List.cons_ne_nil _ _, ih⟩
  | extend _ _ _ ih =>
    exact List.forall_mem_cons.2 ⟨List.cons_ne_nil _ _, (List.forall_mem_cons.1 ih).2⟩

theorem isSeparator_eq_false (h : RunsTo isSeparator s rs) :
    ∀ run ∈ rs, ∀ c ∈ run, isSeparator c = false := by
  induction h with
  | nil => exact fun _ hrun => absurd hrun List.not_mem_nil
  | skip _ _ ih => exact ih
  | start hc _ _ ih => exact List.forall_mem_cons.2 ⟨by simpa using hc, ih⟩
  | extend hc _ _ ih =>
    obtain ⟨hrun, hothers⟩ := List.forall_mem_cons.1 ih
    exact List.forall_mem_cons.2 ⟨List.forall_mem_cons.2 ⟨hc, hrun⟩, hothers⟩

/-- A run stands in the text as it is. -/
theorem isInfix (h : RunsTo isSeparator s rs) : ∀ run ∈ rs, run <:+: s := by
  induction h with
  | nil => exact fun _ hrun => absurd hrun List.not_mem_nil
  | skip _ _ ih => exact fun run hrun => List.infix_cons (ih run hrun)
  | start _ _ _ ih =>
    refine List.forall_mem_cons.2 ⟨?_, fun run hrun => List.infix_cons (ih run hrun)⟩
    exact List.IsPrefix.isInfix ⟨_, rfl⟩
  | extend _ hd hrest ih =>
    obtain ⟨run, others, hrun, hprefix⟩ := hrest.exists_prefix hd
    cases hrun
    refine List.forall_mem_cons.2 ⟨?_, fun run' hrun' => ?_⟩
    · exact ((List.prefix_cons_inj _).2 hprefix).isInfix
    · exact List.infix_cons ((List.forall_mem_cons.1 ih).2 run' hrun')

/-- Separators in front do not matter. -/
theorem skip_append {separators : List Char} (h : RunsTo isSeparator s rs)
    (hseparators : ∀ c ∈ separators, isSeparator c = true) :
    RunsTo isSeparator (separators ++ s) rs := by
  induction separators with
  | nil => exact h
  | cons c rest ih =>
    obtain ⟨hc, hrest⟩ := List.forall_mem_cons.1 hseparators
    exact .skip hc (ih hrest)

theorem append_singleton {separator : Char} (h : RunsTo isSeparator s rs)
    (hseparator : isSeparator separator = true) : RunsTo isSeparator (s ++ [separator]) rs := by
  induction h with
  | nil => exact .skip hseparator .nil
  | skip hc _ ih => exact .skip hc ih
  | @start c s rs hc hhead _ ih =>
    refine .start hc (fun d hd => ?_) ih
    cases s with
    | nil =>
      cases hd
      exact hseparator
    | cons d' s => exact hhead d hd
  | extend hc hd _ ih => exact .extend hc hd ih

/-- Separators at the end do not matter. -/
theorem append_skip {separators : List Char} (h : RunsTo isSeparator s rs)
    (hseparators : ∀ c ∈ separators, isSeparator c = true) :
    RunsTo isSeparator (s ++ separators) rs := by
  induction separators generalizing s with
  | nil => rwa [List.append_nil]
  | cons c rest ih =>
    obtain ⟨hc, hrest⟩ := List.forall_mem_cons.1 hseparators
    rw [List.append_cons]
    exact ih (h.append_singleton hc) hrest

/-- A text without a separator before one, or before the end, is a run. -/
theorem cons_run {run : List Char} (hne : run ≠ []) (hrun : ∀ c ∈ run, isSeparator c = false)
    (hs : ∀ d ∈ s.head?, isSeparator d = true) (h : RunsTo isSeparator s rs) :
    RunsTo isSeparator (run ++ s) (run :: rs) := by
  induction run with
  | nil => exact absurd rfl hne
  | cons c rest ih =>
    obtain ⟨hc, hrest⟩ := List.forall_mem_cons.1 hrun
    cases rest with
    | nil => exact .start hc hs h
    | cons d rest => exact .extend hc (hrest d List.mem_cons_self) (ih (List.cons_ne_nil _ _) hrest)

/-- Texts without a separator are found again in the text that puts one between them. -/
theorem intercalate {separator : Char} (hseparator : isSeparator separator = true)
    (hne : ∀ run ∈ rs, run ≠ []) (hrs : ∀ run ∈ rs, ∀ c ∈ run, isSeparator c = false) :
    RunsTo isSeparator ([separator].intercalate rs) rs := by
  induction rs with
  | nil => exact .nil
  | cons run others ih =>
    obtain ⟨hnerun, hneothers⟩ := List.forall_mem_cons.1 hne
    obtain ⟨hrun, hothers⟩ := List.forall_mem_cons.1 hrs
    cases others with
    | nil =>
      have h := RunsTo.nil.cons_run hnerun hrun (by simp)
      rw [List.intercalate_singleton]
      rwa [List.append_nil] at h
    | cons run' others =>
      rw [List.intercalate_cons_cons, List.append_assoc, List.singleton_append]
      exact .cons_run hnerun hrun (by simpa using hseparator)
        (.skip hseparator (ih hneothers hothers))

theorem unique {rs' : List (List Char)} (h : RunsTo isSeparator s rs)
    (h' : RunsTo isSeparator s rs') : rs = rs' := by
  induction h generalizing rs' with
  | nil =>
    cases h'
    rfl
  | skip hc _ ih =>
    cases h' with
    | skip _ h' => exact ih h'
    | start hc' => exact absurd hc (by simp [hc'])
    | extend hc' => exact absurd hc (by simp [hc'])
  | start hc hhead _ ih =>
    cases h' with
    | skip hc' => exact absurd hc' (by simp [hc])
    | start _ _ h' => rw [ih h']
    | extend _ hd => exact absurd (hhead _ rfl) (by simp [hd])
  | extend hc hd _ ih =>
    cases h' with
    | skip hc' => exact absurd hc' (by simp [hc])
    | start _ hhead => exact absurd (hhead _ rfl) (by simp [hd])
    | extend _ _ h' =>
      obtain ⟨rfl, rfl⟩ := List.cons.inj (ih h')
      rfl

end RunsTo

theorem runsTo_runs (isSeparator : Char → Bool) (s : List Char) :
    RunsTo isSeparator s (runs isSeparator s) := by
  induction s with
  | nil => exact .nil
  | cons c rest ih =>
    unfold runs
    split
    · rename_i hc
      exact .skip hc ih
    rename_i hc
    rw [Bool.not_eq_true] at hc
    split
    · rename_i d rest' run others heq
      rw [heq] at ih
      split
      · rename_i hd
        exact .start hc (by simpa using hd) ih
      · rename_i hd
        exact .extend hc (Bool.eq_false_iff.2 hd) ih
    · rename_i hnot
      refine .start hc (fun d hd => ?_) ih
      by_contra hsep
      rw [Bool.not_eq_true] at hsep
      obtain ⟨rest', rfl⟩ := List.head?_eq_some_iff.1 hd
      obtain ⟨run, others, hrun, -⟩ := ih.exists_prefix hsep
      exact hnot _ _ _ _ rfl hrun

end SchemaStructs.Text
