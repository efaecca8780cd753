import SchemaStructs.Text.Cut

/-!
# Cutting composed text

Where a text is cut is known from where the separator stands in its pieces.
-/

namespace SchemaStructs.Text

variable {separator : Char} {s : List Char}

theorem forall_bne_of_not_mem (h : separator ∉ s) : ∀ c ∈ s, (c != separator) = true := by
  intro c hc
  rw [bne_iff_ne]
  rintro rfl
  exact h hc

theorem cutFirst_of_not_mem (h : separator ∉ s) : cutFirst separator s = (s, none) := by
  have hall := forall_bne_of_not_mem h
  rw [cutFirst, ← List.append_nil s, List.takeWhile_append_of_pos hall,
    List.dropWhile_append_of_pos hall]
  rfl

theorem cutFirst_append_cons (h : separator ∉ s) (t : List Char) :
    cutFirst separator (s ++ separator :: t) = (s, some t) := by
  have hall := forall_bne_of_not_mem h
  rw [cutFirst, List.takeWhile_append_of_pos hall, List.dropWhile_append_of_pos hall]
  simp

/-- A text that has the separator is cut at its first occurrence, whatever follows. -/
theorem cutFirst_append_cons_fst (separator : Char) (s t : List Char) :
    (cutFirst separator (s ++ separator :: t)).1 = (cutFirst separator s).1 := by
  by_cases h : separator ∈ s
  · obtain ⟨start, after, rfl, hstart⟩ := List.eq_append_cons_of_mem h
    rw [List.append_assoc, List.cons_append, cutFirst_append_cons hstart,
      cutFirst_append_cons hstart]
  · rw [cutFirst_append_cons h, cutFirst_of_not_mem h]

theorem exists_cutFirst_snd (h : separator ∈ s) :
    ∃ after, (cutFirst separator s).2 = some after := by
  obtain ⟨start, after, rfl, hstart⟩ := List.eq_append_cons_of_mem h
  exact ⟨after, by rw [cutFirst_append_cons hstart]⟩

theorem cutLast_append_cons {t : List Char} (h : separator ∉ t) (s : List Char) :
    cutLast separator (s ++ separator :: t) = (some s, t) := by
  have hreverse : (s ++ separator :: t).reverse = t.reverse ++ separator :: s.reverse := by simp
  rw [cutLast, hreverse, cutFirst_append_cons (by simpa using h)]
  simp

theorem cutLast_of_not_mem (h : separator ∉ s) : cutLast separator s = (none, s) := by
  rw [cutLast, cutFirst_of_not_mem (by simpa using h)]
  simp

theorem splitAtEach_of_not_mem (h : separator ∉ s) : splitAtEach separator s = [s] := by
  induction s with
  | nil => rfl
  | cons c s ih =>
    obtain ⟨hc, hs⟩ := not_or.1 (mt List.mem_cons.2 h)
    rw [splitAtEach, if_neg (by simpa using Ne.symm hc), ih hs]

theorem exists_mem_splitAtEach {c : Char} (h : c ∈ s) (hne : c ≠ separator) :
    ∃ part ∈ splitAtEach separator s, c ∈ part := by
  induction s with
  | nil => cases h
  | cons d rest ih =>
    rw [splitAtEach]
    split
    · rename_i hd
      have hrest : c ∈ rest := (List.mem_cons.1 h).resolve_left fun hc =>
        hne (hc.trans (eq_of_beq hd))
      obtain ⟨part, hpart, hc⟩ := ih hrest
      exact ⟨part, List.mem_cons_of_mem _ hpart, hc⟩
    · cases hsplit : splitAtEach separator rest with
      | nil => exact absurd hsplit (splitAtEach_ne_nil separator rest)
      | cons first parts =>
        rw [hsplit] at ih
        rcases List.mem_cons.1 h with rfl | hrest
        · exact ⟨c :: first, List.mem_cons_self, List.mem_cons_self⟩
        · obtain ⟨part, hpart, hc⟩ := ih hrest
          rcases List.mem_cons.1 hpart with rfl | hpart
          · exact ⟨d :: part, List.mem_cons_self, List.mem_cons_of_mem _ hc⟩
          · exact ⟨part, List.mem_cons_of_mem _ hpart, hc⟩

theorem splitAtEach_append_cons (separator : Char) (s rest : List Char) :
    splitAtEach separator (s ++ separator :: rest) =
      splitAtEach separator s ++ splitAtEach separator rest := by
  induction s with
  | nil => simp [splitAtEach]
  | cons c s ih =>
    rw [List.cons_append, splitAtEach, ih, splitAtEach]
    split
    · rfl
    · cases hs : splitAtEach separator s with
      | nil => exact absurd hs (splitAtEach_ne_nil separator s)
      | cons part parts => rfl

end SchemaStructs.Text
