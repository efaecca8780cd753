import Mathlib.Data.List.SplitBy
import SchemaStructs.Proofs.Identifier.Words
import SchemaStructs.Proofs.Text.CaseForms
import SchemaStructs.Proofs.Text.Rewriting

/-!
# Borders between words

Where the words of a name end can be seen from two neighbours and the character behind them, so that
one pass over the name finds its words. Two rewritings by patterns, each of which marks the matches
of its pattern from the left, find the same borders: capitals in a row match at one place only.
Words that are put together with underscores are found again.
-/

namespace SchemaStructs.Identifier

open Text

/-! ## Words in one pass -/

/-- A word ends with `a` and another starts with `b`, behind which `next` stands. -/
def isBorder (a b : Char) (next : Option Char) : Bool :=
  (endsWord a && isCapital b) || (isCapital a && isCapital b && next.any isSmall)

/-- Each character with the one behind it. -/
def withNext : List Char → List (Char × Option Char)
  | [] => []
  | c :: rest => (c, rest.head?) :: withNext rest

/-- Two neighbours belong to one word. -/
def inOneWord (x y : Char × Option Char) : Bool :=
  !isSeparator x.1 && !isSeparator y.1 && !isBorder x.1 y.1 y.2

/-- The maximal parts of a name in which all neighbours belong to one word, without its
separators. -/
def cutWords (name : List Char) : List (List Char) :=
  (((withNext name).splitBy inOneWord).map (·.map Prod.fst)).filter (·.all (!isSeparator ·))

/-! ## Words by rewriting -/

/-- The pattern `([A-Z]+)([A-Z][a-z])`. -/
def acronymBorder : BorderPattern := ⟨[.many isCapital], [.one isCapital, .one isSmall]⟩

/-- The pattern `([a-z0-9])([A-Z])`. -/
def camelBorder : BorderPattern := ⟨[.one endsWord], [.one isCapital]⟩

/-- The parts between separators after both rewritings. -/
def rewrittenWords (name : List Char) : List (List Char) :=
  (Pattern.parts [.many isSeparator] (camelBorder.mark (acronymBorder.mark name))).filter
    (!·.isEmpty)

/-! ## Characters at borders -/

section Characters

variable {c : Char}

theorem toNat_lt_of_isCapital (h : isCapital c = true) : c.toNat < 0x80 := by
  simp only [isCapital, Bool.and_eq_true, decide_eq_true_eq] at h
  exact Nat.lt_of_le_of_lt (show c.toNat ≤ 'Z'.toNat from h.2) (by decide)

theorem toNat_lt_of_endsWord (h : endsWord c = true) : c.toNat < 0x80 := by
  simp only [endsWord, isSmall, Bool.or_eq_true, Bool.and_eq_true, decide_eq_true_eq] at h
  rcases h with h | h
  · exact Nat.lt_of_le_of_lt (show c.toNat ≤ 'z'.toNat from h.2) (by decide)
  · exact Nat.lt_of_le_of_lt (show c.toNat ≤ '9'.toNat from h.2) (by decide)

theorem not_endsWord_of_isCapital (h : isCapital c = true) : endsWord c = false :=
  ascii_forall (p := fun c => isCapital c = true → endsWord c = false) (by decide +kernel) c
    (toNat_lt_of_isCapital h) h

theorem not_isSmall_of_isCapital (h : isCapital c = true) : isSmall c = false :=
  (Bool.or_eq_false_iff.1 (not_endsWord_of_isCapital h)).1

theorem not_isCapital_of_isSmall (h : isSmall c = true) : isCapital c = false := by
  rw [Bool.eq_false_iff]
  intro hcapital
  rw [not_isSmall_of_isCapital hcapital] at h
  cases h

/-- No word ends or starts at a separator. -/
theorem isSeparator_eq_false (h : endsWord c = true ∨ isCapital c = true) :
    isSeparator c = false := by
  have hascii : c.toNat < 0x80 := h.elim toNat_lt_of_endsWord toNat_lt_of_isCapital
  exact ascii_forall (p := fun c => endsWord c = true ∨ isCapital c = true → isSeparator c = false)
    (by decide +kernel) c hascii h

end Characters

/-! ## Marks at borders -/

/-- There is a border between `a` and the text behind it. -/
def borderAt (a : Char) : List Char → Bool
  | [] => false
  | b :: rest => isBorder a b rest.head?

/-- A name with an underscore at each border. -/
def marked (name : List Char) : List Char := markCamel (markAcronyms name)

theorem words_eq (name : List Char) : words name = runs isSeparator (marked name) := rfl

/-- Whether the last capital of an acronym stands behind `a`. -/
def endsAcronym (a : Char) : List Char → Bool
  | b :: c :: _ => isCapital a && isCapital b && isSmall c
  | _ => false

theorem markAcronyms_cons (a : Char) (rest : List Char) :
    markAcronyms (a :: rest) =
      a :: ((if endsAcronym a rest then ['_'] else []) ++ markAcronyms rest) := by
  cases rest with
  | nil => rfl
  | cons b rest =>
    cases rest with
    | nil => rfl
    | cons c rest =>
      rw [markAcronyms, endsAcronym]
      split <;> rfl

theorem head?_markAcronyms (name : List Char) : (markAcronyms name).head? = name.head? := by
  cases name with
  | nil => rfl
  | cons a rest => rw [markAcronyms_cons, List.head?_cons, List.head?_cons]

theorem markCamel_cons (a : Char) (rest : List Char) :
    markCamel (a :: rest) =
      a :: ((if endsWord a && rest.head?.any isCapital then ['_'] else []) ++ markCamel rest) := by
  cases rest with
  | nil => simp [markCamel]
  | cons b rest =>
    rw [markCamel, List.head?_cons, Option.any_some]
    split <;> rfl

theorem borderAt_eq (a : Char) (rest : List Char) :
    borderAt a rest = (endsWord a && rest.head?.any isCapital || endsAcronym a rest) := by
  cases rest with
  | nil => simp [borderAt, endsAcronym]
  | cons b rest =>
    cases rest with
    | nil => simp [borderAt, isBorder, endsAcronym]
    | cons c rest => rfl

theorem marked_cons (a : Char) (rest : List Char) :
    marked (a :: rest) = a :: ((if borderAt a rest then ['_'] else []) ++ marked rest) := by
  have hmark : ∀ t, markCamel ('_' :: t) = '_' :: markCamel t := fun t => by
    rw [markCamel_cons]
    rfl
  rw [marked, markAcronyms_cons, markCamel_cons, borderAt_eq]
  cases hacronym : endsAcronym a rest with
  | true => simp [hmark, marked, show isCapital '_' = false by decide]
  | false => simp [marked, head?_markAcronyms]

theorem marked_of_borderAt {a : Char} {rest : List Char} (h : borderAt a rest = true) :
    marked (a :: rest) = a :: '_' :: marked rest := by
  rw [marked_cons, if_pos h]
  rfl

theorem marked_of_not_borderAt {a : Char} {rest : List Char} (h : borderAt a rest = false) :
    marked (a :: rest) = a :: marked rest := by
  rw [marked_cons, h]
  rfl

theorem head?_marked (name : List Char) : (marked name).head? = name.head? := by
  cases name with
  | nil => rfl
  | cons a rest => rw [marked_cons, List.head?_cons, List.head?_cons]

/-! ## Marking by the patterns -/

theorem endsAcronym_iff {a : Char} {rest : List Char} :
    endsAcronym a rest = true ↔
      ∃ b c after, rest = b :: c :: after ∧ isCapital a = true ∧ isCapital b = true ∧
        isSmall c = true := by
  constructor
  · intro h
    unfold endsAcronym at h
    split at h
    · rename_i b c after
      simp only [Bool.and_eq_true] at h
      exact ⟨b, c, after, rfl, h.1.1, h.1.2, h.2⟩
    · cases h
  · rintro ⟨b, c, after, rfl, ha, hb, hc⟩
    rw [endsAcronym, ha, hb, hc]
    rfl

theorem endsAcronym_eq_false {a b : Char} {rest : List Char}
    (h : ∀ c ∈ rest.head?, isSmall c = false) : endsAcronym a (b :: rest) = false := by
  rw [Bool.eq_false_iff, Ne, endsAcronym_iff]
  rintro ⟨b, c, after, hcons, -, -, hc⟩
  obtain ⟨-, rfl⟩ := List.cons.inj hcons
  rw [h c rfl] at hc
  cases hc

theorem markAcronyms_pass {a : Char} {rest : List Char} (h : endsAcronym a rest = false) :
    markAcronyms (a :: rest) = a :: markAcronyms rest := by
  rw [markAcronyms_cons, h]
  rfl

/-- Of capitals in a row only the last one starts a word. -/
theorem markAcronyms_append {capitals : List Char} {b c : Char} (hne : capitals ≠ [])
    (hcapitals : ∀ a ∈ capitals, isCapital a = true) (hb : isCapital b = true)
    (hc : isSmall c = true) (rest : List Char) :
    markAcronyms (capitals ++ b :: c :: rest) = capitals ++ '_' :: b :: c :: markAcronyms rest := by
  have hsmall := not_isCapital_of_isSmall hc
  -- Behind the border there is none before the character that shows it.
  have hafter : markAcronyms (b :: c :: rest) = b :: c :: markAcronyms rest := by
    rw [markAcronyms_pass, markAcronyms_pass]
    · simpa using mt endsAcronym_iff.1 (by simp [hsmall])
    · simpa using mt endsAcronym_iff.1 (by simp [hsmall])
  induction capitals with
  | nil => exact absurd rfl hne
  | cons a others ih =>
    obtain ⟨ha, hothers⟩ := List.forall_mem_cons.1 hcapitals
    cases others with
    | nil =>
      have hend : endsAcronym a (b :: c :: rest) = true :=
        endsAcronym_iff.2 ⟨b, c, rest, rfl, ha, hb, hc⟩
      rw [List.singleton_append, markAcronyms_cons, hend, hafter]
      rfl
    | cons a' others =>
      have hend : endsAcronym a (a' :: (others ++ b :: c :: rest)) = false := by
        refine endsAcronym_eq_false fun d hd => not_isSmall_of_isCapital ?_
        cases others with
        | nil =>
          cases hd
          exact hb
        | cons a'' others =>
          cases hd
          exact hothers _ (by simp)
      rw [List.cons_append, List.cons_append, markAcronyms_pass hend, ← List.cons_append,
        ih (List.cons_ne_nil _ _) hothers]
      rfl

theorem mark_acronymBorder (s : List Char) : acronymBorder.mark s = markAcronyms s := by
  refine BorderPattern.mark_eq rfl ?_ ?_ s
  · rintro m m' rest ⟨hbefore, hafter⟩
    obtain ⟨hne, hm⟩ := Pattern.fits_many_iff.1 hbefore
    obtain ⟨b, hb, c, hc, rfl⟩ :
        ∃ b, isCapital b = true ∧ ∃ c, isSmall c = true ∧ m' = [b, c] := by
      cases hafter with
      | one hb hafter =>
        cases hafter with
        | one hc hafter =>
          cases hafter
          exact ⟨_, hb, _, hc, rfl⟩
    rw [List.append_assoc, List.append_assoc]
    exact markAcronyms_append hne hm hb hc rest
  · intro a s hnone
    refine markAcronyms_pass ?_
    rw [Bool.eq_false_iff, Ne, endsAcronym_iff]
    rintro ⟨b, c, after, rfl, ha, hb, hc⟩
    exact hnone [a] [b, c] after rfl ⟨.last ha .nil, .one hb (.one hc .nil)⟩

theorem mark_camelBorder (s : List Char) : camelBorder.mark s = markCamel s := by
  refine BorderPattern.mark_eq rfl ?_ ?_ s
  · rintro m m' rest ⟨hbefore, hafter⟩
    obtain ⟨a, ha, rfl⟩ : ∃ a, endsWord a = true ∧ m = [a] := by
      cases hbefore with
      | one ha hbefore =>
        cases hbefore
        exact ⟨_, ha, rfl⟩
    obtain ⟨b, hb, rfl⟩ : ∃ b, isCapital b = true ∧ m' = [b] := by
      cases hafter with
      | one hb hafter =>
        cases hafter
        exact ⟨_, hb, rfl⟩
    have hends : endsWord b = false := not_endsWord_of_isCapital hb
    simp [markCamel_cons, ha, hb, hends]
  · intro a s hnone
    cases s with
    | nil => rfl
    | cons b rest =>
      rw [markCamel_cons, List.head?_cons, Option.any_some, if_neg, List.nil_append]
      intro h
      obtain ⟨ha, hb⟩ := Bool.and_eq_true_iff.1 h
      exact hnone [a] [b] rest rfl ⟨.one ha .nil, .one hb .nil⟩

/-- Both passes put underscores where the rewritings by patterns do. -/
theorem rewrittenWords_eq (name : List Char) : rewrittenWords name = words name := by
  rw [rewrittenWords, mark_acronymBorder, mark_camelBorder, Pattern.filter_parts, words]

/-! ## Cutting at borders -/

section SplitBy

variable {α : Type*} {r : α → α → Bool} {x y : α} {l : List α}

theorem splitBy_cons_of_rel {part : List α} {others : List (List α)} (h : r x y = true)
    (hsplit : (y :: l).splitBy r = part :: others) :
    (∃ after, part = y :: after) ∧ (x :: y :: l).splitBy r = (x :: part) :: others := by
  obtain ⟨hflatten, hnil, hparts, hborders⟩ := List.splitBy_eq_iff.1 hsplit
  obtain ⟨z, after, rfl⟩ := List.exists_cons_of_ne_nil (fun he => hnil (he ▸ List.mem_cons_self))
  obtain ⟨rfl, -⟩ := List.cons.inj hflatten
  obtain ⟨hpart, hothers⟩ := List.forall_mem_cons.1 hparts
  obtain ⟨hborder, hborders⟩ := List.isChain_cons.1 hborders
  refine ⟨⟨after, rfl⟩, List.splitBy_eq_iff.2 ⟨by rw [hflatten]; rfl, by simpa using hnil, ?_, ?_⟩⟩
  · exact List.forall_mem_cons.2 ⟨List.isChain_cons_cons.2 ⟨h, hpart⟩, hothers⟩
  · refine List.isChain_cons.2 ⟨fun next hnext => ?_, hborders⟩
    obtain ⟨_, hne, hlast⟩ := hborder next hnext
    exact ⟨List.cons_ne_nil _ _, hne, by rwa [List.getLast_cons (List.cons_ne_nil _ _)]⟩

theorem splitBy_cons_of_not_rel (h : r x y = false) :
    (x :: y :: l).splitBy r = [x] :: (y :: l).splitBy r :=
  List.splitBy_append_cons (l := [x]) l (by simpa using h)

end SplitBy

theorem inOneWord_iff {a b : Char} {s : List Char} :
    inOneWord (a, some b) (b, s.head?) = true ↔
      isSeparator a = false ∧ isSeparator b = false ∧ borderAt a (b :: s) = false := by
  simp [inOneWord, borderAt, and_assoc]

/-- Separators are alone in their part. -/
theorem all_of_isChain {x : Char × Option Char} {part : List (Char × Option Char)}
    (hchain : (x :: part).IsChain fun x y => inOneWord x y) (hx : isSeparator x.1 = false) :
    ((x :: part).map Prod.fst).all (!isSeparator ·) = true := by
  induction part generalizing x with
  | nil => simp [hx]
  | cons y part ih =>
    obtain ⟨hword, hchain⟩ := List.isChain_cons_cons.1 hchain
    simp only [inOneWord, Bool.and_eq_true, Bool.not_eq_true'] at hword
    rw [List.map_cons, List.all_cons, ih hchain hword.1.2, hx]
    rfl

theorem cutWords_of_inOneWord {a b : Char} {s : List Char}
    (h : inOneWord (a, some b) (b, s.head?) = true) :
    ∃ after others, cutWords (b :: s) = (b :: after) :: others ∧
      cutWords (a :: b :: s) = (a :: b :: after) :: others := by
  obtain ⟨ha, hb, -⟩ := inOneWord_iff.1 h
  have hne : (withNext (b :: s)).splitBy inOneWord ≠ [] :=
    List.splitBy_ne_nil.2 (List.cons_ne_nil _ _)
  obtain ⟨part, others, hsplit⟩ := List.exists_cons_of_ne_nil hne
  obtain ⟨⟨after, rfl⟩, hcons⟩ := splitBy_cons_of_rel h hsplit
  have hpart : (b, s.head?) :: after ∈ (withNext (b :: s)).splitBy inOneWord :=
    hsplit ▸ List.mem_cons_self
  have hall : ((b :: after.map Prod.fst).all (!isSeparator ·)) = true :=
    all_of_isChain (List.isChain_of_mem_splitBy hpart) hb
  have hall' : ((a :: b :: after.map Prod.fst).all (!isSeparator ·)) = true := by
    rw [List.all_cons, hall, ha]
    rfl
  refine ⟨after.map Prod.fst, (others.map (·.map Prod.fst)).filter (·.all (!isSeparator ·)), ?_, ?_⟩
  · rw [cutWords, hsplit]
    exact List.filter_cons_of_pos hall
  · rw [cutWords, withNext, withNext, List.head?_cons, hcons]
    exact List.filter_cons_of_pos hall'

theorem cutWords_of_not_inOneWord {a b : Char} {s : List Char}
    (h : inOneWord (a, some b) (b, s.head?) = false) :
    cutWords (a :: b :: s) = if isSeparator a then cutWords (b :: s)
      else [a] :: cutWords (b :: s) := by
  rw [cutWords, withNext, withNext, List.head?_cons, splitBy_cons_of_not_rel h, List.map_cons,
    List.filter_cons]
  cases ha : isSeparator a with
  | true => rw [if_neg (by simp [ha]), if_pos rfl]; rfl
  | false => rw [if_pos (by simp [ha]), if_neg (by simp)]; rfl

theorem isSeparator_eq_false_of_borderAt {a : Char} {rest : List Char}
    (h : borderAt a rest = true) : isSeparator a = false := by
  rw [borderAt_eq, Bool.or_eq_true, Bool.and_eq_true, endsAcronym_iff] at h
  refine isSeparator_eq_false ?_
  rcases h with h | ⟨_, _, _, _, h, _⟩
  · exact Or.inl h.1
  · exact Or.inr h

theorem cutWords_singleton (a : Char) : cutWords [a] = if isSeparator a then [] else [[a]] := by
  cases ha : isSeparator a <;> simp [cutWords, withNext, List.splitBy, List.splitBy.loop, ha]

/-- Between underscores at the borders stand the parts that are cut there. -/
theorem runsTo_marked (name : List Char) : RunsTo isSeparator (marked name) (cutWords name) := by
  induction name with
  | nil => exact .nil
  | cons a rest ih =>
    cases rest with
    | nil =>
      rw [cutWords_singleton]
      cases ha : isSeparator a with
      | true => exact .skip ha .nil
      | false => exact .start ha (by simp) .nil
    | cons b s =>
      cases hword : inOneWord (a, some b) (b, s.head?) with
      | true =>
        obtain ⟨ha, hb, hborder⟩ := inOneWord_iff.1 hword
        obtain ⟨after, others, hcut, hcut'⟩ := cutWords_of_inOneWord hword
        rw [hcut] at ih
        rw [hcut', marked_of_not_borderAt hborder]
        rw [marked_cons] at ih ⊢
        exact .extend ha hb ih
      | false =>
        rw [cutWords_of_not_inOneWord hword]
        cases hborder : borderAt a (b :: s) with
        | true =>
          have ha := isSeparator_eq_false_of_borderAt hborder
          rw [ha, marked_of_borderAt hborder]
          exact .start ha (by simp; decide) (.skip (by decide) ih)
        | false =>
          rw [marked_of_not_borderAt hborder]
          cases ha : isSeparator a with
          | true => exact .skip ha ih
          | false =>
            have hb : isSeparator b = true := by
              rw [← Bool.not_eq_false]
              intro hb
              rw [inOneWord_iff.2 ⟨ha, hb, hborder⟩] at hword
              cases hword
            refine .start ha ?_ ih
            rw [head?_marked]
            simpa using hb

theorem words_eq_cutWords (name : List Char) : words name = cutWords name :=
  (runsTo_runs isSeparator (marked name)).unique (runsTo_marked name)

/-! ## Borders in a marked name -/

/-- There is no border in the text. -/
def Unbordered (s : List Char) : Prop := ∀ a rest, a :: rest <:+ s → borderAt a rest = false

theorem unbordered_nil : Unbordered [] := fun _ _ h => absurd (List.suffix_nil.1 h)
    (List.cons_ne_nil _ _)

theorem unbordered_cons_iff {a : Char} {s : List Char} :
    Unbordered (a :: s) ↔ borderAt a s = false ∧ Unbordered s := by
  constructor
  · intro h
    exact ⟨h a s List.suffix_rfl, fun b rest hrest => h b rest (hrest.trans (List.suffix_cons a s))⟩
  · rintro ⟨ha, hs⟩ b rest hrest
    rcases List.suffix_cons_iff.1 hrest with hcons | hrest
    · obtain ⟨rfl, rfl⟩ := List.cons.inj hcons
      exact ha
    · exact hs b rest hrest

theorem marked_eq_self {s : List Char} (h : Unbordered s) : marked s = s := by
  induction s with
  | nil => rfl
  | cons a rest ih =>
    obtain ⟨ha, hrest⟩ := unbordered_cons_iff.1 h
    rw [marked_of_not_borderAt ha, ih hrest]

theorem borderAt_iff {a : Char} {s : List Char} :
    borderAt a s = true ↔ (endsWord a = true ∧ ∃ b ∈ s.head?, isCapital b = true) ∨
      ∃ b c after, s = b :: c :: after ∧ isCapital a = true ∧ isCapital b = true ∧
        isSmall c = true := by
  rw [borderAt_eq, Bool.or_eq_true, Bool.and_eq_true, endsAcronym_iff]
  cases s <;> simp

/-- A text behind can only show one more border. -/
theorem borderAt_append {a : Char} {s : List Char} (t : List Char) (h : borderAt a s = true) :
    borderAt a (s ++ t) = true := by
  rw [borderAt_iff] at h ⊢
  rcases h with ⟨ha, b, hb, hcapital⟩ | ⟨b, c, after, rfl, h⟩
  · obtain ⟨s, rfl⟩ := List.head?_eq_some_iff.1 hb
    exact Or.inl ⟨ha, b, rfl, hcapital⟩
  · exact Or.inr ⟨b, c, after ++ t, rfl, h⟩

theorem Unbordered.of_isInfix {s t : List Char} (h : Unbordered t) (hs : s <:+: t) :
    Unbordered s := by
  obtain ⟨before, after, rfl⟩ := hs
  rintro a rest ⟨between, rfl⟩
  rw [Bool.eq_false_iff]
  intro hborder
  have hbordered : borderAt a (rest ++ after) = false :=
    h a (rest ++ after) ⟨before ++ between, by simp⟩
  rw [borderAt_append after hborder] at hbordered
  cases hbordered

/-- Marks behind a character show no new border at it. -/
theorem borderAt_of_marked {a : Char} {s : List Char} (h : borderAt a (marked s) = true) :
    borderAt a s = true := by
  rw [borderAt_iff, head?_marked] at h
  rw [borderAt_iff]
  refine h.imp_right ?_
  rintro ⟨b, c, after, hs, ha, hb, hc⟩
  have hhead : s.head? = some b := by rw [← head?_marked, hs, List.head?_cons]
  obtain ⟨s, rfl⟩ := List.head?_eq_some_iff.1 hhead
  cases hborder : borderAt b s with
  | true =>
    rw [marked_of_borderAt hborder] at hs
    obtain ⟨rfl, -⟩ := List.cons.inj (List.cons.inj hs).2
    exact absurd hc (by decide)
  | false =>
    rw [marked_of_not_borderAt hborder] at hs
    have hhead : s.head? = some c := by rw [← head?_marked, (List.cons.inj hs).2, List.head?_cons]
    obtain ⟨s, rfl⟩ := List.head?_eq_some_iff.1 hhead
    exact ⟨b, c, s, rfl, ha, hb, hc⟩

/-- An underscore in the text behind a character shows no new border at it. -/
theorem borderAt_of_append_mark {a : Char} {s t : List Char}
    (h : borderAt a (s ++ '_' :: t) = true) : borderAt a s = true := by
  rw [borderAt_iff] at h ⊢
  have hcapital : isCapital '_' = false := by decide
  have hsmall : isSmall '_' = false := by decide
  cases s with
  | nil => simp [hcapital] at h
  | cons b s =>
    cases s with
    | nil => simpa [hsmall] using h
    | cons c s => simpa using h

/-- No border is next to an underscore. -/
theorem borderAt_mark (a : Char) (s : List Char) : borderAt a ('_' :: s) = false :=
  Bool.eq_false_iff.2 (mt (borderAt_of_append_mark (s := [])) (by simp [borderAt]))

theorem unbordered_mark_cons {s : List Char} (h : Unbordered s) : Unbordered ('_' :: s) := by
  refine unbordered_cons_iff.2 ⟨Bool.eq_false_iff.2 fun hborder => ?_, h⟩
  exact absurd (isSeparator_eq_false_of_borderAt hborder) (by decide)

theorem unbordered_marked (name : List Char) : Unbordered (marked name) := by
  induction name with
  | nil => exact unbordered_nil
  | cons a rest ih =>
    cases hborder : borderAt a rest with
    | true =>
      rw [marked_of_borderAt hborder]
      exact unbordered_cons_iff.2 ⟨borderAt_mark a _, unbordered_mark_cons ih⟩
    | false =>
      rw [marked_of_not_borderAt hborder]
      exact unbordered_cons_iff.2
        ⟨Bool.eq_false_iff.2 (mt borderAt_of_marked (by simp [hborder])), ih⟩

theorem Unbordered.append_mark {s t : List Char} (hs : Unbordered s) (ht : Unbordered t) :
    Unbordered (s ++ '_' :: t) := by
  induction s with
  | nil => exact unbordered_mark_cons ht
  | cons a s ih =>
    obtain ⟨ha, hs⟩ := unbordered_cons_iff.1 hs
    refine unbordered_cons_iff.2 ⟨?_, ih hs⟩
    exact Bool.eq_false_iff.2 (mt borderAt_of_append_mark (by simp [ha]))

theorem unbordered_intercalate {ws : List (List Char)} (hws : ∀ w ∈ ws, Unbordered w) :
    Unbordered (['_'].intercalate ws) := by
  induction ws with
  | nil => exact unbordered_nil
  | cons w rest ih =>
    obtain ⟨hw, hrest⟩ := List.forall_mem_cons.1 hws
    cases rest with
    | nil => rwa [List.intercalate_singleton]
    | cons w' rest =>
      rw [List.intercalate_cons_cons, List.append_assoc, List.singleton_append]
      exact hw.append_mark (ih hrest)

/-- Words put together with underscores are found again. -/
theorem words_intercalate_words (name : List Char) :
    words (['_'].intercalate (words name)) = words name := by
  have hruns := runsTo_runs isSeparator (marked name)
  have hwords : ∀ w ∈ words name, Unbordered w :=
    fun w hw => (unbordered_marked name).of_isInfix (hruns.isInfix w hw)
  rw [words_eq, marked_eq_self (unbordered_intercalate hwords)]
  exact (runsTo_runs _ _).unique (.intercalate (by decide) hruns.ne_nil hruns.isSeparator_eq_false)

/-! ## Words of a name -/

theorem map_toList_splitWords (name : String) :
    (splitWords name).map String.toList = words name.toList := by
  rw [splitWords, List.map_map]
  exact (List.map_congr_left fun w _ => String.toList_ofList).trans (List.map_id _)

/-- The words that the two rewritings find are those of one pass. Put together they are the name
without its separators, no word is empty or has a separator, and put together with underscores they
are found again. -/
theorem splitWords_one_pass (name : String) :
    splitWords name = (rewrittenWords name.toList).map .ofList ∧
      splitWords name = (cutWords name.toList).map .ofList ∧
      String.join (splitWords name) = String.ofList (name.toList.filter (!isSeparator ·)) ∧
      (∀ word ∈ splitWords name, word ≠ "" ∧ ∀ c ∈ word.toList, isSeparator c = false) ∧
      splitWords ("_".intercalate (splitWords name)) = splitWords name := by
  have hruns := runsTo_runs isSeparator (marked name.toList)
  refine ⟨by rw [rewrittenWords_eq, splitWords], by rw [← words_eq_cutWords, splitWords],
    ?_, ?_, ?_⟩
  · rw [← String.toList_inj, String.toList_join, String.toList_ofList, ← flatten_words,
      ← map_toList_splitWords, List.flatMap_def]
  · intro word hword
    have hmem := toList_of_mem_splitWords hword
    refine ⟨?_, hruns.isSeparator_eq_false _ hmem⟩
    rintro rfl
    exact hruns.ne_nil _ hmem rfl
  · have hmark : "_".toList = ['_'] := by decide
    rw [splitWords, String.toList_intercalate, hmark, map_toList_splitWords,
      words_intercalate_words, ← splitWords]

example : cutWords "HTTPServer2Go_naïve".toList = ["HTTP", "Server2", "Go",
      "naïve"].map String.toList := by
  decide +kernel

end SchemaStructs.Identifier
