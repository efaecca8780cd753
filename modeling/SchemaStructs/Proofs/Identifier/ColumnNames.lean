import SchemaStructs.Proofs.Identifier.LegalIdentifiers
import SchemaStructs.Proofs.Identifier.WordBorders

/-!
# Columns with one field name

The name of a field is made of words in lower case, which have no underscore and so are found again
between the underscores of snake case. Each repair adds an underscore at an end where the words have
none, and what marks a raw identifier is not looked at. So fields have the same name exactly if
their columns have the same words in lower case.
-/

namespace SchemaStructs.Identifier

open Text

/-! ## Words of fields -/

/-- The words that name a field. -/
def fieldWords (raw : String) : List String :=
  if (splitWords raw).isEmpty then ["field"] else (splitWords raw).map lowercase

/-- The identifier of a field that would be called `name`. -/
def fieldEscaped (name : String) : String :=
  if isNonRawKeyword name then name ++ "_" else if isKeyword name then "r#" ++ name else name

theorem columnName_eq (raw : String) :
    columnName raw = fieldEscaped (afterDigit ("_".intercalate (fieldWords raw))) := by
  unfold columnName fieldWords
  dsimp only
  split
  · rw [show afterDigit ("_".intercalate ["field"]) = "field" by decide]
    rfl
  · rfl

/-- A word that can be found again between underscores. -/
structure IsFieldWord (w : String) : Prop where
  ne_nil : w.toList ≠ []
  isPlain : ∀ c ∈ w.toList, IsPlain c

theorem isFieldWord_of_mem {raw w : String} (hw : w ∈ fieldWords raw) : IsFieldWord w := by
  unfold fieldWords at hw
  split at hw
  · obtain rfl := List.mem_singleton.1 hw
    have hfield : IsWord "field".toList := by decide
    exact ⟨by decide, fun c hc _ => (hfield c hc).2⟩
  · obtain ⟨word, hword, rfl⟩ := List.mem_map.1 hw
    rw [lowercase]
    constructor
    case ne_nil =>
      rw [String.toList_ofList]
      exact lower_ne_nil (ne_nil_of_mem_splitWords hword)
    case isPlain =>
      rw [String.toList_ofList]
      exact isPlain_of_mem_lower (isPlain_of_mem_splitWords hword)

theorem fieldWords_ne_nil (raw : String) : fieldWords raw ≠ [] := by
  unfold fieldWords
  split
  · exact List.cons_ne_nil _ _
  · rename_i hne
    exact mt List.map_eq_nil_iff.1 (by simpa using hne)

theorem toList_joined (ws : List String) :
    ("_".intercalate ws).toList = ['_'].intercalate (ws.map String.toList) := by
  rw [String.toList_intercalate, show "_".toList = ['_'] by decide]

/-! ## Words between underscores -/

section Words

variable {ws ws' : List String} (hws : ∀ w ∈ ws, IsFieldWord w)

include hws

theorem runsTo_joined : RunsTo (· == '_') ("_".intercalate ws).toList (ws.map String.toList) := by
  rw [toList_joined]
  refine .intercalate (by decide) ?_ ?_
  · exact List.forall_mem_map.2 fun w hw => (hws w hw).ne_nil
  · refine List.forall_mem_map.2 fun w hw c hc => beq_eq_false_iff_ne.2 ?_
    rintro rfl
    exact absurd ((hws w hw).isPlain _ hc) (by decide)

theorem eq_of_joined_eq (hws' : ∀ w ∈ ws', IsFieldWord w)
    (h : "_".intercalate ws = "_".intercalate ws') : ws = ws' := by
  have hruns := runsTo_joined hws'
  rw [← h] at hruns
  exact (List.map_injective_iff.2 fun _ _ => String.toList_inj.1) ((runsTo_joined hws).unique hruns)

end Words

/-! ## Ends of names -/

theorem exists_mem_of_head?_intercalate {ws : List (List Char)} (hne : ∀ w ∈ ws, w ≠ []) {c : Char}
    (hc : (['_'].intercalate ws).head? = some c) : ∃ w ∈ ws, c ∈ w := by
  cases ws with
  | nil => cases hc
  | cons w rest =>
    refine ⟨w, List.mem_cons_self, List.mem_of_mem_head? ?_⟩
    cases rest with
    | nil => rwa [List.intercalate_singleton] at hc
    | cons w' rest =>
      rwa [List.intercalate_cons_cons, List.append_assoc,
        List.head?_append_of_ne_nil _ (hne w List.mem_cons_self)] at hc

theorem exists_mem_of_getLast?_intercalate {ws : List (List Char)} (hne : ∀ w ∈ ws, w ≠ [])
    {c : Char} (hc : (['_'].intercalate ws).getLast? = some c) : ∃ w ∈ ws, c ∈ w := by
  induction ws with
  | nil => cases hc
  | cons w rest ih =>
    obtain ⟨-, hnerest⟩ := List.forall_mem_cons.1 hne
    cases rest with
    | nil =>
      rw [List.intercalate_singleton] at hc
      exact ⟨w, List.mem_cons_self, List.mem_of_getLast? hc⟩
    | cons w' rest =>
      have hnil : ['_'].intercalate (w' :: rest) ≠ [] := by
        obtain ⟨d, others, hd⟩ := List.exists_cons_of_ne_nil (hnerest w' List.mem_cons_self)
        cases rest <;> simp [hd]
      rw [List.intercalate_cons_cons, List.getLast?_append_of_ne_nil _ hnil] at hc
      obtain ⟨v, hv, hcv⟩ := ih hnerest hc
      exact ⟨v, List.mem_cons_of_mem _ hv, hcv⟩

/-- A name that has its underscores between other characters. -/
structure IsJoined (s : String) : Prop where
  isPlainName : IsPlainName s
  head_ne : s.toList.head? ≠ some '_'
  last_ne : s.toList.getLast? ≠ some '_'

theorem isJoined_of_isFieldWord {ws : List String} (hws : ∀ w ∈ ws, IsFieldWord w) :
    IsJoined ("_".intercalate ws) := by
  have hne : ∀ w ∈ ws.map String.toList, w ≠ [] := List.forall_mem_map.2 fun w hw =>
    (hws w hw).ne_nil
  have hmark : ¬ ∃ w ∈ ws.map String.toList, '_' ∈ w := by
    rintro ⟨word, hword, hmem⟩
    obtain ⟨w, hw, rfl⟩ := List.mem_map.1 hword
    exact absurd ((hws w hw).isPlain _ hmem) (by decide)
  constructor
  case isPlainName =>
    intro c hc
    by_cases hmark : c = '_'
    · exact Or.inr hmark
    have hflatten : c ∈ (ws.map String.toList).flatten := by
      rw [(runsTo_joined hws).flatten_eq]
      exact List.mem_filter.2 ⟨hc, by simpa using hmark⟩
    obtain ⟨word, hword, hcword⟩ := List.mem_flatten.1 hflatten
    obtain ⟨w, hw, rfl⟩ := List.mem_map.1 hword
    exact Or.inl ((hws w hw).isPlain c hcword)
  case head_ne =>
    rw [toList_joined]
    exact fun hc => hmark (exists_mem_of_head?_intercalate hne hc)
  case last_ne =>
    rw [toList_joined]
    exact fun hc => hmark (exists_mem_of_getLast?_intercalate hne hc)

theorem isJoined_fieldWords (raw : String) : IsJoined ("_".intercalate (fieldWords raw)) :=
  isJoined_of_isFieldWord fun _ => isFieldWord_of_mem

/-! ## Repairs -/

theorem eq_of_afterDigit_eq {s t : String} (hs : s.toList.head? ≠ some '_')
    (ht : t.toList.head? ≠ some '_') (h : afterDigit s = afterDigit t) : s = t := by
  have hmark : ∀ r : String, ("_" ++ r).toList.head? = some '_' := fun r => by
    rw [String.toList_append]
    rfl
  unfold afterDigit at h
  split at h
  · split at h
    · rwa [String.append_right_inj] at h
    · exact absurd (by rw [← h, hmark]) ht
  · split at h
    · exact absurd (by rw [h, hmark]) hs
    · exact h

theorem bare_raw (s : String) : bare ("r#" ++ s) = s := by
  have hraw : ("r#" ++ s).toList = 'r' :: '#' :: s.toList := by
    rw [String.toList_append]
    rfl
  simp only [bare, hraw, String.ofList_toList]

theorem bare_fieldEscaped {s : String} (hs : IsPlainName s) :
    bare (fieldEscaped s) = if isNonRawKeyword s then s ++ "_" else s := by
  unfold fieldEscaped
  split
  · exact hs.append_underscore.bare_eq
  · split
    · exact bare_raw s
    · exact hs.bare_eq

theorem eq_of_bare_fieldEscaped_eq {s t : String} (hs : IsPlainName s) (ht : IsPlainName t)
    (hslast : s.toList.getLast? ≠ some '_') (htlast : t.toList.getLast? ≠ some '_')
    (h : bare (fieldEscaped s) = bare (fieldEscaped t)) : s = t := by
  have hmark : ∀ r : String, (r ++ "_").toList.getLast? = some '_' := fun r => by
    rw [String.toList_append]
    exact List.getLast?_concat
  rw [bare_fieldEscaped hs, bare_fieldEscaped ht] at h
  split at h
  · split at h
    · rwa [String.append_left_inj] at h
    · exact absurd (by rw [← h, hmark]) htlast
  · split at h
    · exact absurd (by rw [h, hmark]) hslast
    · exact h

theorem IsJoined.last_afterDigit_ne {s : String} (hs : IsJoined s) :
    (afterDigit s).toList.getLast? ≠ some '_' := by
  unfold afterDigit
  split
  · rename_i hdigit
    have hne : s.toList ≠ [] := by
      intro hnil
      rw [hnil] at hdigit
      cases hdigit
    rw [String.toList_append, List.getLast?_append_of_ne_nil _ hne]
    exact hs.last_ne
  · exact hs.last_ne

/-- Two columns have the same field name, whether in its raw form or not, exactly if they have the
same words. -/
theorem bare_columnName_eq_iff {r₁ r₂ : String} :
    bare (columnName r₁) = bare (columnName r₂) ↔ fieldWords r₁ = fieldWords r₂ := by
  constructor
  · intro h
    have h₁ := isJoined_fieldWords r₁
    have h₂ := isJoined_fieldWords r₂
    rw [columnName_eq, columnName_eq] at h
    have hescaped := eq_of_bare_fieldEscaped_eq h₁.isPlainName.afterDigit h₂.isPlainName.afterDigit
      h₁.last_afterDigit_ne h₂.last_afterDigit_ne h
    have hjoined := eq_of_afterDigit_eq h₁.head_ne h₂.head_ne hescaped
    exact eq_of_joined_eq (fun _ => isFieldWord_of_mem) (fun _ => isFieldWord_of_mem) hjoined
  · intro h
    rw [columnName_eq, columnName_eq, h]

/-! ## Names of fields as names of columns -/

/-- A word of small letters and digits. -/
structure IsSmallWord (w : String) : Prop extends IsNameWord w where
  isCapital_eq_false : ∀ c ∈ w.toList, isCapital c = false

theorem isSmallWord_of_mem {raw w : String} (hraw : IsAscii raw.toList) (hw : w ∈ fieldWords raw) :
    IsSmallWord w := by
  unfold fieldWords at hw
  split at hw
  · obtain rfl := List.mem_singleton.1 hw
    have hcapital : "field".toList.any isCapital = false := by decide
    exact ⟨⟨by decide, by decide⟩,
      fun c hc => Bool.eq_false_iff.2 (List.any_eq_false.1 hcapital c hc)⟩
  · obtain ⟨word, hword, rfl⟩ := List.mem_map.1 hw
    have hname := isNameWord_of_mem_splitWords hraw hword
    have hlower : (lowercase word).toList = word.toList.map Char.toLower := by
      rw [lowercase, String.toList_ofList, lower_eq_map hname.isWord]
    refine ⟨⟨?_, ?_⟩, ?_⟩
    · rw [hlower]
      exact mt List.map_eq_nil_iff.1 hname.ne_nil
    · rw [hlower]
      exact List.forall_mem_map.2 fun c hc => (hname.isWord c hc).casing.toLower
    · rw [hlower]
      exact List.forall_mem_map.2 fun c hc => (hname.isWord c hc).casing.isCapital_toLower

theorem IsSmallWord.lowercase_eq {w : String} (hw : IsSmallWord w) : lowercase w = w := by
  have hsame : ∀ c ∈ w.toList, c.toLower = c :=
    fun c hc => (hw.isWord c hc).casing.toLower_eq_self (hw.isCapital_eq_false c hc)
  rw [lowercase, lower_eq_map hw.isWord, List.map_congr_left hsame, List.map_id',
    String.ofList_toList]

/-- A border is before a capital. -/
theorem unbordered_of_not_isCapital {s : List Char} (hs : ∀ c ∈ s, isCapital c = false) :
    Unbordered s := by
  induction s with
  | nil => exact unbordered_nil
  | cons a s ih =>
    obtain ⟨-, hs⟩ := List.forall_mem_cons.1 hs
    refine unbordered_cons_iff.2 ⟨Bool.eq_false_iff.2 fun hborder => ?_, ih hs⟩
    rcases borderAt_iff.1 hborder with ⟨-, b, hb, hcapital⟩ | ⟨b, c, after, rfl, -, hcapital, -⟩
    · rw [hs b (List.mem_of_mem_head? hb)] at hcapital
      cases hcapital
    · rw [hs b List.mem_cons_self] at hcapital
      cases hcapital

theorem toList_afterDigit (s : String) :
    ∃ marks, (∀ c ∈ marks, c = '_') ∧ (afterDigit s).toList = marks ++ s.toList := by
  unfold afterDigit
  split
  · exact ⟨['_'], fun _ => List.mem_singleton.1, String.toList_append⟩
  · exact ⟨[], by simp, rfl⟩

theorem toList_bare_fieldEscaped {s : String} (hs : IsPlainName s) :
    ∃ marks, (∀ c ∈ marks, c = '_') ∧ (bare (fieldEscaped s)).toList = s.toList ++ marks := by
  rw [bare_fieldEscaped hs]
  split
  · exact ⟨['_'], fun _ => List.mem_singleton.1, String.toList_append⟩
  · exact ⟨[], by simp, (List.append_nil _).symm⟩

/-- Small words are found again, whatever underscores stand at the ends. -/
theorem splitWords_of_joined {ws : List String} (hws : ∀ w ∈ ws, IsSmallWord w) {name : String}
    {before after : List Char} (hbefore : ∀ c ∈ before, c = '_') (hafter : ∀ c ∈ after, c = '_')
    (hname : name.toList = before ++ ("_".intercalate ws).toList ++ after) :
    splitWords name = ws := by
  have hseparator : isSeparator '_' = true := by decide
  have hjoined : RunsTo isSeparator ("_".intercalate ws).toList (ws.map String.toList) := by
    rw [toList_joined]
    refine .intercalate hseparator ?_ ?_
    · exact List.forall_mem_map.2 fun w hw => (hws w hw).ne_nil
    · exact List.forall_mem_map.2 fun w hw c hc =>
        ((hws w hw).isWord c hc).casing.isSeparator_eq_false
  have hruns : RunsTo isSeparator name.toList (ws.map String.toList) := by
    rw [hname, List.append_assoc]
    refine (hjoined.append_skip ?_).skip_append ?_
    · exact fun c hc => hafter c hc ▸ hseparator
    · exact fun c hc => hbefore c hc ▸ hseparator
  have hsmall : ∀ c ∈ name.toList, isCapital c = false := by
    intro c hc
    rw [Bool.eq_false_iff]
    intro hcapital
    have hflatten : c ∈ (ws.map String.toList).flatten := by
      rw [hruns.flatten_eq]
      exact List.mem_filter.2 ⟨hc, by simp [isSeparator_eq_false (Or.inr hcapital)]⟩
    obtain ⟨word, hword, hcword⟩ := List.mem_flatten.1 hflatten
    obtain ⟨w, hw, rfl⟩ := List.mem_map.1 hword
    rw [(hws w hw).isCapital_eq_false c hcword] at hcapital
    cases hcapital
  have hwords : words name.toList = ws.map String.toList := by
    rw [words_eq, marked_eq_self (unbordered_of_not_isCapital hsmall)]
    exact (runsTo_runs _ _).unique hruns
  rw [splitWords, hwords, List.map_map]
  exact (List.map_congr_left fun w _ => String.ofList_toList).trans (List.map_id _)

theorem fieldWords_bare_columnName {raw : String} (hraw : IsAscii raw.toList) :
    fieldWords (bare (columnName raw)) = fieldWords raw := by
  have hws : ∀ w ∈ fieldWords raw, IsSmallWord w := fun _ => isSmallWord_of_mem hraw
  have hjoined := isJoined_fieldWords raw
  obtain ⟨before, hbefore, hdigit⟩ := toList_afterDigit ("_".intercalate (fieldWords raw))
  obtain ⟨after, hafter, hescaped⟩ := toList_bare_fieldEscaped hjoined.isPlainName.afterDigit
  have hsplit : splitWords (bare (columnName raw)) = fieldWords raw := by
    refine splitWords_of_joined hws hbefore hafter ?_
    rw [columnName_eq, hescaped, hdigit]
  have hlower : (fieldWords raw).map lowercase = fieldWords raw :=
    (List.map_congr_left fun w hw => (hws w hw).lowercase_eq).trans (List.map_id' _)
  have hne : (fieldWords raw).isEmpty = false := by simpa using fieldWords_ne_nil raw
  rw [fieldWords, hsplit, hne, hlower]
  rfl

/-- The name of a field, as that of a column, is kept. -/
theorem columnName_bare_columnName {raw : String} (hraw : IsAscii raw.toList) :
    columnName (bare (columnName raw)) = columnName raw := by
  rw [columnName_eq, fieldWords_bare_columnName hraw, ← columnName_eq]

end SchemaStructs.Identifier
