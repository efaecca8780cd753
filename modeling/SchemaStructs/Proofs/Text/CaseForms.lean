import Mathlib.Data.List.Basic
import SchemaStructs.Text.Case

/-!
# Case forms keep letters letters

The case forms of a character are letters, digits or characters beyond ASCII if the character is. So
changing the case of a word introduces no punctuation of ASCII, whatever script the word is written
in.
-/

namespace SchemaStructs.Text

/-- If the character is in ASCII, it is a letter or a digit. -/
def IsPlain (c : Char) : Prop := c.toNat < 0x80 → c.isAlphanum

instance (c : Char) : Decidable (IsPlain c) := inferInstanceAs (Decidable (_ → _))

theorem isPlain_of_ascii (c : Char) (h : 0x80 ≤ c.toNat) : IsPlain c :=
  fun hc => absurd hc (Nat.not_lt.2 h)

theorem ascii_forall {p : Char → Prop} (h : ∀ n < 0x80, p (Char.ofNat n)) (c : Char)
    (hc : c.toNat < 0x80) : p c := by
  have := h c.toNat hc
  rwa [Char.ofNat_toNat] at this

/-! ## Tables -/

namespace Shift

/-- The characters that a run is moved to are valid, and plain. -/
def KeepsPlain (s : Shift) : Prop :=
  (0x80 ≤ s.first + s.distance ∧ s.last + s.distance < 0xd800) ∨
    (0xe000 ≤ s.first + s.distance ∧ s.last + s.distance < 0x110000) ∨
    (s.first = s.last ∧ IsPlain (Char.ofNat (s.target s.first)))

instance (s : Shift) : Decidable s.KeepsPlain := inferInstanceAs (Decidable (_ ∨ _))

theorem toNat_ofNat_of_isValidChar {n : Nat} (h : n.isValidChar) : (Char.ofNat n).toNat = n := by
  rw [Char.ofNat, dif_pos h]
  rfl

theorem KeepsPlain.target {s : Shift} (hs : s.KeepsPlain) {code : Nat} (hcode : s.covers code) :
    IsPlain (Char.ofNat (s.target code)) := by
  simp only [covers, Bool.and_eq_true, decide_eq_true_eq] at hcode
  obtain ⟨⟨hfirst, hlast⟩, -⟩ := hcode
  have htarget : s.target code = ((code : Int) + s.distance).toNat := rfl
  rcases hs with ⟨hlow, hhigh⟩ | ⟨hlow, hhigh⟩ | ⟨hone, hplain⟩
  · have hvalid : (s.target code).isValidChar := Or.inl (by omega)
    exact isPlain_of_ascii _ (by rw [toNat_ofNat_of_isValidChar hvalid]; omega)
  · have hvalid : (s.target code).isValidChar := Or.inr ⟨by omega, by omega⟩
    exact isPlain_of_ascii _ (by rw [toNat_ofNat_of_isValidChar hvalid]; omega)
  · obtain rfl : code = s.first := by omega
    exact hplain

end Shift

theorem isPlain_of_mem_mapCase {expansions : List (Nat × List Nat)} {shifts : List Shift}
    (hexp : ∀ e ∈ expansions, ∀ code ∈ e.2, IsPlain (Char.ofNat code))
    (hshift : ∀ s ∈ shifts, s.KeepsPlain) {c d : Char} (hc : IsPlain c)
    (hd : d ∈ mapCase expansions shifts c) : IsPlain d := by
  unfold mapCase at hd
  split at hd
  · rename_i codes hlookup
    obtain ⟨code, hcode, rfl⟩ := List.mem_map.1 hd
    obtain ⟨l₁, l₂, hl, -⟩ := List.lookup_eq_some_iff.1 hlookup
    exact hexp (c.toNat, codes) (by rw [hl]; simp) code hcode
  · rw [List.mem_singleton] at hd
    subst hd
    unfold shifted?
    cases hfind : shifts.find? (·.covers c.toNat) with
    | none => exact hc
    | some s =>
      have hcovers : s.covers c.toNat := by simpa using List.find?_some hfind
      exact (hshift s (List.mem_of_find?_eq_some hfind)).target hcovers

theorem upperExpansions_isPlain :
    ∀ e ∈ upperExpansions, ∀ code ∈ e.2, IsPlain (Char.ofNat code) := by
  decide +kernel

theorem upperShifts_keepsPlain : ∀ s ∈ upperShifts, s.KeepsPlain := by decide +kernel

theorem lowerExpansions_isPlain :
    ∀ e ∈ lowerExpansions, ∀ code ∈ e.2, IsPlain (Char.ofNat code) := by
  decide +kernel

theorem lowerShifts_keepsPlain : ∀ s ∈ lowerShifts, s.KeepsPlain := by decide +kernel

/-! ## Characters and texts -/

theorem isPlain_of_mem_upperOf {c d : Char} (hc : IsPlain c) (hd : d ∈ upperOf c) : IsPlain d := by
  unfold upperOf at hd
  split at hd
  · rename_i hascii
    rw [List.mem_singleton.1 hd]
    exact ascii_forall (p := fun c => IsPlain c → IsPlain c.toUpper) (by decide +kernel) c hascii hc
  · exact isPlain_of_mem_mapCase upperExpansions_isPlain upperShifts_keepsPlain hc hd

theorem isPlain_of_mem_lowerOf {c d : Char} (hc : IsPlain c) (hd : d ∈ lowerOf c) : IsPlain d := by
  unfold lowerOf at hd
  split at hd
  · rename_i hascii
    rw [List.mem_singleton.1 hd]
    exact ascii_forall (p := fun c => IsPlain c → IsPlain c.toLower) (by decide +kernel) c hascii hc
  · exact isPlain_of_mem_mapCase lowerExpansions_isPlain lowerShifts_keepsPlain hc hd

theorem isPlain_of_mem_lowerAfter {before s : List Char} (hs : ∀ c ∈ s, IsPlain c) :
    ∀ d ∈ lowerAfter before s, IsPlain d := by
  induction s generalizing before with
  | nil => simp [lowerAfter]
  | cons c rest ih =>
    intro d hd
    obtain ⟨hc, hrest⟩ := List.forall_mem_cons.1 hs
    rw [lowerAfter, List.mem_append] at hd
    rcases hd with hd | hd
    · split at hd
      · rw [List.mem_singleton.1 hd]
        split <;> decide
      · exact isPlain_of_mem_lowerOf hc hd
    · exact ih hrest d hd

theorem isPlain_of_mem_lower {s : List Char} (hs : ∀ c ∈ s, IsPlain c) : ∀ d ∈ lower s, IsPlain d :=
  isPlain_of_mem_lowerAfter hs

theorem lower_of_ascii {s : List Char} (hs : ∀ c ∈ s, c.toNat < 0x80) :
    lower s = s.map Char.toLower := by
  have hafter : ∀ before, lowerAfter before s = s.map Char.toLower := by
    induction s with
    | nil => exact fun before => rfl
    | cons c rest ih =>
      obtain ⟨hc, hrest⟩ := List.forall_mem_cons.1 hs
      intro before
      have hsigma : c ≠ 'Σ' := by
        rintro rfl
        exact absurd hc (by decide)
      rw [lowerAfter, if_neg (by simpa using hsigma), lowerOf, if_pos hc, ih hrest]
      rfl
  exact hafter []

/-- Each character has a lower case. -/
theorem lowerOf_ne_nil (c : Char) : lowerOf c ≠ [] := by
  have hexpansions : ∀ e ∈ lowerExpansions, e.2 ≠ [] := by decide
  unfold lowerOf
  split
  · exact List.cons_ne_nil _ _
  unfold mapCase
  split
  · rename_i codes hlookup
    obtain ⟨l₁, l₂, hl, -⟩ := List.lookup_eq_some_iff.1 hlookup
    exact mt List.map_eq_nil_iff.1 (hexpansions (c.toNat, codes) (by rw [hl]; simp))
  · exact List.cons_ne_nil _ _

theorem lower_ne_nil {s : List Char} (hs : s ≠ []) : lower s ≠ [] := by
  obtain ⟨c, rest, rfl⟩ := List.exists_cons_of_ne_nil hs
  rw [lower, lowerAfter]
  refine List.append_ne_nil_of_left_ne_nil ?_ _
  split
  · exact List.cons_ne_nil _ _
  · exact lowerOf_ne_nil c

end SchemaStructs.Text
