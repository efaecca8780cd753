import Mathlib.Data.Int.Bitwise
import SchemaStructs.Catalog.Modifier

/-!
# Layout of type modifiers

Precision and scale of a number are put side by side in one integer, shifted and masked as fields of
bits, and so are the range and the precision of an interval. Decoding works on the integer as a
number: it divides and takes remainders. Both meet in two facts, that the low bits of an integer are
its remainder, also if it is negative, and that a field put below a shifted one is added to it.
-/

namespace SchemaStructs.Catalog.Modifiers

/-! ## Fields of bits -/

theorem ldiff_two_pow_sub_one (m n : Nat) : Nat.ldiff (2 ^ n - 1) m = 2 ^ n - (m % 2 ^ n + 1) := by
  have hmod : m % 2 ^ n < 2 ^ n := Nat.mod_lt _ (Nat.two_pow_pos n)
  refine Nat.eq_of_testBit_eq fun i => ?_
  rw [Nat.testBit_ldiff, Nat.testBit_two_pow_sub_one, Nat.testBit_two_pow_sub_succ hmod,
    Nat.testBit_mod_two_pow]
  cases decide (i < n) <;> simp

/-- The low bits of an integer in two's complement are its remainder. -/
theorem land_two_pow_sub_one (x : Int) (n : Nat) :
    x.land ((2 ^ n - 1 : Nat) : Int) = x % (2 ^ n : Nat) := by
  cases x with
  | ofNat m =>
    show ((m &&& (2 ^ n - 1) : Nat) : Int) = _
    rw [Nat.and_two_pow_sub_one_eq_mod]
    rfl
  | negSucc m =>
    show ((Nat.ldiff (2 ^ n - 1) m : Nat) : Int) = _
    have hpos : 0 < 2 ^ n := Nat.two_pow_pos n
    have hmod : m % 2 ^ n < 2 ^ n := Nat.mod_lt _ hpos
    rw [ldiff_two_pow_sub_one, Int.negSucc_emod _ (by exact_mod_cast hpos)]
    omega

/-- A field put below a shifted one is added to it. -/
theorem lor_shiftLeft {high low : Int} {n : Nat} (hhigh : 0 ≤ high) (hlow : 0 ≤ low)
    (hlt : low < (2 ^ n : Nat)) : (high <<< n).lor low = high * (2 ^ n : Nat) + low := by
  obtain ⟨h, rfl⟩ := Int.eq_ofNat_of_zero_le hhigh
  obtain ⟨l, rfl⟩ := Int.eq_ofNat_of_zero_le hlow
  rw [← Int.natCast_shiftLeft]
  show ((h <<< n ||| l : Nat) : Int) = _
  rw [← Nat.shiftLeft_add_eq_or_of_lt (by exact_mod_cast hlt), Nat.shiftLeft_eq]
  push_cast
  rfl

/-- The bits below a shifted field are those of what is put there, whatever stands above. -/
theorem lor_shiftLeft_emod {high low : Int} {n : Nat} (hhigh : 0 ≤ high) (hlow : 0 ≤ low) :
    0 ≤ (high <<< n).lor low ∧ (high <<< n).lor low % (2 ^ n : Nat) = low % (2 ^ n : Nat) := by
  obtain ⟨h, rfl⟩ := Int.eq_ofNat_of_zero_le hhigh
  obtain ⟨l, rfl⟩ := Int.eq_ofNat_of_zero_le hlow
  have hmod : (h <<< n ||| l) % 2 ^ n = l % 2 ^ n := by
    rw [Nat.or_mod_two_pow, Nat.shiftLeft_eq, Nat.mul_mod_left, Nat.zero_or]
  rw [← Int.natCast_shiftLeft]
  exact ⟨Int.natCast_nonneg (h <<< n ||| l), congrArg Nat.cast hmod⟩

/-! ## Encoding -/

/-- The fields of a number: its precision, and below it the scale in eleven bits. -/
def numericFields (precision scale : Int) : Int := (precision <<< (16 : Nat)).lor (scale.land 0x7FF)

def encodeNumeric (precision scale : Int) : Int := numericFields precision scale + headerSize

/-- The layout before scales had a sign, in which the scale takes all bits below the precision. -/
def encodeUnsignedNumeric (precision scale : Int) : Int :=
  (precision <<< (16 : Nat)).lor scale + headerSize

def encodeInterval (range precision : Int) : Int := (range <<< (16 : Nat)).lor precision

theorem numericFields_eq {p : Int} (hp : 0 ≤ p) (s : Int) :
    numericFields p s = p * 65536 + s % 2048 := by
  rw [numericFields, show (0x7FF : Int) = ((2 ^ 11 - 1 : Nat) : Int) from rfl, land_two_pow_sub_one]
  exact lor_shiftLeft hp (by omega) (by omega)

/-- A scale is back from its eleven bits. -/
theorem signedScale_emod {s : Int} (hs : -1024 ≤ s) (hs' : s ≤ 1023) (high : Int) :
    signedScale (high * 65536 + s % 2048) = s := by
  rw [signedScale]
  omega

/-! ## Decoding -/

theorem decode?_numeric {modifier : Int} (h : headerSize ≤ modifier) :
    decode? "numeric" (some modifier) = ofNumeric (modifier - headerSize) := by
  have hpos : ¬ modifier < 0 := by rw [headerSize] at h; omega
  have hheader : ¬ modifier < headerSize := by omega
  simp [decode?, decode, hpos, hheader]

theorem decode?_encodeNumeric {p s : Int} (hp : 0 ≤ p) (hp' : p < 65536) (hs : -1024 ≤ s)
    (hs' : s ≤ 1023) : decode? "numeric" (some (encodeNumeric p s)) = ⟨some p, some s, none⟩ := by
  rw [encodeNumeric, numericFields_eq hp, decode?_numeric (by omega), Int.add_sub_cancel, ofNumeric,
    signedScale_emod hs hs']
  congr
  omega

theorem decode?_encodeUnsignedNumeric {p s : Int} (hp : 0 ≤ p) (hp' : p < 65536) (hs : 0 ≤ s)
    (hs' : s ≤ 1000) :
    decode? "numeric" (some (encodeUnsignedNumeric p s)) = ⟨some p, some s, none⟩ := by
  have hfields : encodeUnsignedNumeric p s = encodeNumeric p s := by
    rw [encodeUnsignedNumeric, encodeNumeric, numericFields_eq hp, lor_shiftLeft hp hs (by omega),
      Int.emod_eq_of_lt hs (by omega)]
    rfl
  rw [hfields, decode?_encodeNumeric hp hp' (by omega) (by omega)]

theorem signedScale_mem (packed : Int) :
    -1024 ≤ signedScale packed ∧ signedScale packed ≤ 1023 := by
  rw [signedScale]
  omega

theorem testBit_numericFields (v : Nat) {i : Nat} (hi : i ≤ 10 ∨ 16 ≤ i ∧ i ≤ 31) :
    (numericFields (v / 65536 % 65536) (signedScale v)).testBit i = (v : Int).testBit i := by
  have hfields : numericFields (v / 65536 % 65536) (signedScale v) =
      ((2 ^ 16 * (v / 2 ^ 16 % 2 ^ 16) + v % 2 ^ 11 : Nat) : Int) := by
    have hscale : signedScale v % 2048 = v % 2048 := by
      rw [signedScale]
      omega
    rw [numericFields_eq (by omega), hscale]
    push_cast
    rw [Int.mul_comm]
  have hlow : v % 2 ^ 11 < 2 ^ 16 := by omega
  rw [hfields]
  show (2 ^ 16 * (v / 2 ^ 16 % 2 ^ 16) + v % 2 ^ 11).testBit i = v.testBit i
  rw [Nat.testBit_two_pow_mul_add _ hlow]
  rcases hi with hi | ⟨hi, hi'⟩
  · rw [if_pos (by omega), Nat.testBit_mod_two_pow, decide_eq_true (by omega), Bool.true_and]
  · rw [if_neg (by omega), Nat.testBit_mod_two_pow, decide_eq_true (by omega), Bool.true_and,
      Nat.testBit_div_two_pow, Nat.sub_add_cancel hi]

/-- A decoded number has its fields in range, and they stand for the bits that hold them. -/
theorem decode?_numeric_inverse {modifier : Int} (h : headerSize ≤ modifier) :
    ∃ p s, decode? "numeric" (some modifier) = ⟨some p, some s, none⟩ ∧ 0 ≤ p ∧ p ≤ 65535 ∧
      -1024 ≤ s ∧ s ≤ 1023 ∧ ∀ i, i ≤ 10 ∨ 16 ≤ i ∧ i ≤ 31 →
        (numericFields p s).testBit i = (modifier - headerSize).testBit i := by
  obtain ⟨v, hv⟩ := Int.eq_ofNat_of_zero_le (Int.sub_nonneg_of_le h)
  obtain ⟨hs, hs'⟩ := signedScale_mem v
  refine ⟨(v / 65536 % 65536 : Int), signedScale v, ?_, by omega, by omega, hs, hs', fun i hi => ?_⟩
  · rw [decode?_numeric h, hv, ofNumeric]
  · rw [hv]
    exact testBit_numericFields v hi

theorem decode?_character {kind : String} (hkind : kind = "varchar" ∨ kind = "bpchar") {n : Int}
    (hn : 0 ≤ n) : decode? kind (some (n + headerSize)) = { length := some n } := by
  have hpos : ¬ n + headerSize < 0 := by rw [headerSize]; omega
  have hheader : ¬ n + headerSize < headerSize := by omega
  rcases hkind with rfl | rfl <;> simp [decode?, decode, hpos, hheader]

theorem decode?_bits {kind : String} (hkind : kind = "bit" ∨ kind = "varbit") {n : Int}
    (hn : 0 ≤ n) : decode? kind (some n) = { length := some n } := by
  have hpos : ¬ n < 0 := by omega
  rcases hkind with rfl | rfl <;> simp [decode?, decode, hpos]

/-- Of the precision of an interval only the low sixteen bits count; the range does not count at
all. -/
theorem decode?_encodeInterval {r q : Int} (hr : 0 ≤ r) (hq : 0 ≤ q) :
    decode? "interval" (some (encodeInterval r q)) =
      { precision := if q % 0x10000 = 0xFFFF then none else some (q % 0x10000) } := by
  obtain ⟨hpos, hmod⟩ := lor_shiftLeft_emod (n := 16) hr hq
  have hnot : ¬ encodeInterval r q < 0 := Int.not_lt.2 hpos
  have hlow : encodeInterval r q % 65536 = q % 65536 := hmod
  simp [decode?, decode, hnot, ofInterval, hlow]

theorem decode?_of_neg (kind : String) {modifier : Int} (h : modifier < 0) :
    decode? kind (some modifier) = {} := by
  rw [decode?, decode, if_pos h]

/-! ## Round trip -/

/-- **Modifiers**: decoding gives back what was encoded, in either layout of numbers, and what is
decoded of a number is encoded in the bits that it was read from. An absent or negative modifier
says nothing of any type. -/
theorem decode_encoded :
    (∀ p s : Int, 0 ≤ p → p < 65536 → -1024 ≤ s → s ≤ 1023 →
      decode? "numeric" (some (encodeNumeric p s)) = ⟨some p, some s, none⟩) ∧
    (∀ p s : Int, 0 ≤ p → p < 65536 → 0 ≤ s → s ≤ 1000 →
      decode? "numeric" (some (encodeUnsignedNumeric p s)) = ⟨some p, some s, none⟩) ∧
    (∀ modifier : Int, 4 ≤ modifier → ∃ p s,
      decode? "numeric" (some modifier) = ⟨some p, some s, none⟩ ∧
        0 ≤ p ∧ p ≤ 65535 ∧ -1024 ≤ s ∧ s ≤ 1023 ∧ ∀ i, i ≤ 10 ∨ 16 ≤ i ∧ i ≤ 31 →
          (numericFields p s).testBit i = (modifier - 4).testBit i) ∧
    (∀ kind, kind = "varchar" ∨ kind = "bpchar" → ∀ n : Int, 0 ≤ n →
      decode? kind (some (n + 4)) = { length := some n }) ∧
    (∀ kind, kind = "bit" ∨ kind = "varbit" → ∀ n : Int, 0 ≤ n →
      decode? kind (some n) = { length := some n }) ∧
    (∀ r q : Int, 0 ≤ r → 0 ≤ q → q ≤ 0xFFFF → decode? "interval" (some (encodeInterval r q)) =
      { precision := if q = 0xFFFF then none else some q }) ∧
    (∀ r q : Int, 0 ≤ r → 0 ≤ q → decode? "interval" (some (encodeInterval r q)) =
      decode? "interval" (some (encodeInterval 0 (q % 0x10000)))) ∧
    ∀ kind, decode? kind none = {} ∧ ∀ modifier : Int, modifier < 0 →
      decode? kind (some modifier) = {} := by
  refine ⟨fun p s => decode?_encodeNumeric, fun p s => decode?_encodeUnsignedNumeric,
    fun modifier => decode?_numeric_inverse, fun kind hkind n => decode?_character hkind,
    fun kind hkind n => decode?_bits hkind, fun r q hr hq hlt => ?_, fun r q hr hq => ?_,
    fun kind => ⟨rfl, fun modifier => decode?_of_neg kind⟩⟩
  · rw [decode?_encodeInterval hr hq, Int.emod_eq_of_lt hq (by omega)]
  · rw [decode?_encodeInterval hr hq, decode?_encodeInterval (by omega) (by omega), Int.emod_emod]

theorem decode_encoded_extremes :
    decode? "numeric" (some (encodeNumeric 65535 (-1024))) = ⟨some 65535, some (-1024), none⟩ ∧
      decode? "numeric" (some (encodeUnsignedNumeric 1000 1000)) = ⟨some 1000, some 1000, none⟩ ∧
      (∃ p s, decode? "numeric" (some 4) = ⟨some p, some s, none⟩ ∧ 0 ≤ p ∧ p ≤ 65535 ∧ -1024 ≤ s ∧
        s ≤ 1023 ∧
        ∀ i, i ≤ 10 ∨ 16 ≤ i ∧ i ≤ 31 → (numericFields p s).testBit i = Int.testBit (4 - 4) i) ∧
      decode? "bpchar" (some (0 + 4)) = { length := some 0 } ∧
      decode? "varbit" (some 0) = { length := some 0 } ∧
      decode? "interval" (some (encodeInterval 0x7FFF 0xFFFF)) = {} ∧
      decode? "interval" (some (encodeInterval 0x7FFF 0x10006)) =
        decode? "interval" (some (encodeInterval 0 6)) ∧
      decode? "timestamp" (some (-1)) = {} := by
  obtain ⟨hnumeric, hunsigned, hinverse, hcharacter, hbits, hinterval, hranges, habsent⟩ :=
    decode_encoded
  exact ⟨hnumeric 65535 (-1024) (by decide) (by decide) (by decide) (by decide),
    hunsigned 1000 1000 (by decide) (by decide) (by decide) (by decide), hinverse 4 (by decide),
    hcharacter "bpchar" (.inr rfl) 0 (by decide), hbits "varbit" (.inr rfl) 0 (by decide),
    hinterval 0x7FFF 0xFFFF (by decide) (by decide) (by decide),
      hranges 0x7FFF 0x10006 (by decide) (by decide),
    (habsent "timestamp").2 (-1) (by decide)⟩

end SchemaStructs.Catalog.Modifiers
