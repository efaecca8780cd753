import Mathlib.Data.List.TakeWhile
import SchemaStructs.Connection.Url
import SchemaStructs.Proofs.Text.Cutting

/-!
# Hosts in brackets

An IPv6 address has a colon in it, and starts with a colon or a hexadecimal digit. So in brackets it
is taken neither for an IPv4 address nor for an address of a later version.
-/

namespace SchemaStructs.Connection

open Numeric Text

variable {s : List Char} {groups : List (List Char)}

theorem colon_not_mem_of_isIpv4 (h : isIpv4 s = true) : ':' ∉ s := by
  intro hcolon
  simp only [isIpv4, Bool.and_eq_true, List.all_eq_true] at h
  obtain ⟨octet, hoctet, hmem⟩ := exists_mem_splitAtEach hcolon (show ':' ≠ '.' by decide)
  have hdigits := h.2 octet hoctet
  simp only [isOctet, Bool.and_eq_true, List.all_eq_true] at hdigits
  exact absurd (hdigits.1.1.2 ':' hmem) (by decide)

/-! ## Groups of an IPv6 address -/

theorem colon_mem_of_hextets? (h : hextets? s = some groups) : ':' ∈ s := by
  by_contra hcolon
  rw [hextets?, splitAtEach_of_not_mem hcolon] at h
  cases h

/-- What stands for an IPv4 address at the end leaves the first group as it is. -/
theorem head?_of_hextets? (h : hextets? s = some groups) :
    groups.head? = (splitAtEach ':' s).head? := by
  unfold hextets? at h
  dsimp only at h
  generalize splitAtEach ':' s = parts at h
  obtain hshort | ⟨a, b, rest, rfl⟩ : parts.length < 3 ∨ ∃ a b rest, parts = a :: b :: rest := by
    rcases parts with _ | ⟨a, _ | ⟨b, rest⟩⟩
    · exact .inl (by decide)
    · exact .inl (by simp)
    · exact .inr ⟨a, b, rest, rfl⟩
  · rw [if_pos hshort] at h
    cases h
  · split at h
    · cases h
    split at h
    · split at h
      · split at h
        · cases h
          simp
        · cases h
      · cases h
        rfl
    · cases h

theorem isHextet_of_sideLength? {g : List Char} {side : List (List Char)} {n : Nat}
    (h : sideLength? (g :: side) = some n) : g = [] ∨ isHextet g = true := by
  unfold sideLength? at h
  split at h
  · rename_i hempty
    exact .inl (List.cons.inj (eq_of_beq hempty)).1
  · split at h
    · rename_i hall
      exact .inr (List.all_eq_true.1 hall g List.mem_cons_self)
    · cases h

/-- An address starts with a group, or with zeros that are left out. -/
theorem isHextet_of_isIpv6Groups {g : List Char} (h : isIpv6Groups (g :: groups) = true) :
    g = [] ∨ isHextet g = true := by
  unfold isIpv6Groups at h
  split at h
  · cases h
  dsimp only at h
  split at h
  · rw [Bool.and_eq_true, List.all_eq_true] at h
    exact .inr (h.2 g List.mem_cons_self)
  · unfold hasOmittedRun at h
    rw [List.take_succ_cons] at h
    split at h
    · rename_i hbefore _
      exact isHextet_of_sideLength? hbefore
    · cases h

/-! ## Checks of the host -/

theorem checkBracketedHost_of_isIpv6 (h : isIpv6 s = true) : checkBracketedHost s = .ok () := by
  have haddress : ∃ groups, hextets? (cutFirst '%' s).1 = some groups ∧
      isIpv6Groups groups = true := by
    simp only [isIpv6, Bool.and_eq_true, Option.any_eq_true] at h
    obtain ⟨-, groups, hgroups, hvalid⟩ := h
    exact ⟨groups, hgroups, hvalid⟩
  obtain ⟨groups, hgroups, hvalid⟩ := haddress
  have hcolon : ':' ∈ s := List.IsPrefix.mem (colon_mem_of_hextets? hgroups) <|
    List.takeWhile_prefix _
  have hhead : s.head? ≠ some 'v' := by
    intro hv
    obtain ⟨t, rfl⟩ := List.head?_eq_some_iff.1 hv
    obtain ⟨g, parts, hparts⟩ :
        ∃ g parts, splitAtEach ':' (cutFirst '%' ('v' :: t)).1 = ('v' :: g) :: parts := by
      have hcut : (cutFirst '%' ('v' :: t)).1 = 'v' :: (cutFirst '%' t).1 := rfl
      rw [hcut, splitAtEach, if_neg (by decide)]
      split
      · exact ⟨_, _, rfl⟩
      · exact ⟨_, _, rfl⟩
    have hfirst := head?_of_hextets? hgroups
    rw [hparts, List.head?_cons] at hfirst
    obtain ⟨rest, rfl⟩ := List.head?_eq_some_iff.1 hfirst
    rcases isHextet_of_isIpv6Groups hvalid with hnil | hhextet
    · cases hnil
    · have hdigit : isHexDigit 'v' = true := by
        simp only [isHextet, Bool.and_eq_true, List.all_eq_true] at hhextet
        exact hhextet.2 'v' List.mem_cons_self
      exact absurd hdigit (by decide)
  have hipv4 : isIpv4 s = false := Bool.eq_false_iff.2 fun hipv4 =>
    colon_not_mem_of_isIpv4 hipv4 hcolon
  rw [checkBracketedHost, if_neg (by simpa using hhead), hipv4, if_neg Bool.false_ne_true, if_pos h]

/-- Brackets around an address are in order, whatever precedes the host. -/
theorem checkBrackets_of_isIpv6 {address : List Char} (h : isIpv6 address = true)
    (hat : '@' ∉ address) (hclose : ']' ∉ address) {port : List Char} (hatport : '@' ∉ port)
    (hport : port.head?.all (· == ':') = true) (userInfo : List Char) :
    checkBrackets (userInfo ++ '@' :: '[' :: (address ++ ']' :: port)) = .ok () := by
  have hhost : '@' ∉ '[' :: (address ++ ']' :: port) := by simp [hat, hatport]
  have hopens : (userInfo ++ '@' :: '[' :: (address ++ ']' :: port)).contains '[' = true := by simp
  have hcloses : (userInfo ++ '@' :: '[' :: (address ++ ']' :: port)).contains ']' = true := by simp
  have hopen : cutFirst '[' ('[' :: (address ++ ']' :: port)) =
      ([], some (address ++ ']' :: port)) :=
    cutFirst_append_cons List.not_mem_nil _
  have hstart : (port.isEmpty || port.head? == some ':') = true := by
    cases port with
    | nil => rfl
    | cons c rest => simpa using hport
  unfold checkBrackets
  simp only [cutLast_append_cons hhost, hopens, hcloses, hopen, cutFirst_append_cons hclose,
    Option.getD_some, hstart, if_true, checkBracketedHost_of_isIpv6 h]

theorem checkBrackets_of_not_mem {authority : List Char} (hopen : '[' ∉ authority)
    (hclose : ']' ∉ authority) : checkBrackets authority = .ok () := by
  have hopens : authority.contains '[' = false := by simpa using hopen
  have hcloses : authority.contains ']' = false := by simpa using hclose
  simp only [checkBrackets, hopens, hcloses]

end SchemaStructs.Connection
