import Mathlib.Data.List.TakeDrop
import SchemaStructs.Connection.DatabaseKind
import SchemaStructs.Proofs.Success
import SchemaStructs.Proofs.Text.CaseForms
import SchemaStructs.Proofs.Text.Cutting

/-!
# A password and what surrounds it

A connection string with a password is split in the same way whatever the password is, as long as
nothing in it ends the authority or is a bracket: it may hold the separators of the user, the
password and the host itself. What the splitting reads of the password is only that there is one.
-/

namespace SchemaStructs.Connection

open Text

/-! ## Connection strings around a password -/

/-- A text of ASCII that does not end the authority. -/
def IsInner (s : List Char) : Prop := ∀ c ∈ s, endsAuthority c = false ∧ c.toNat < 0x80

instance (s : List Char) : Decidable (IsInner s) :=
  List.decidableBAll (fun c : Char => endsAuthority c = false ∧ c.toNat < 0x80) s

/-- A connection string without its password: what precedes the two slashes of the authority, the
user, the host with its port, and what follows the authority. -/
structure PasswordFrame where
  before : List Char
  user : List Char
  host : List Char
  rest : List Char
  user_inner : IsInner user
  host_inner : IsInner host
  at_not_mem_host : '@' ∉ host
  rest_outside : rest.head?.all endsAuthority = true

/-- A text that can stand for the password. It may be empty. -/
structure IsPassword (password : List Char) : Prop where
  inner : IsInner password
  open_not_mem : '[' ∉ password
  close_not_mem : ']' ∉ password

theorem isPassword_nil : IsPassword [] where
  inner := by simp [IsInner]
  open_not_mem := by simp
  close_not_mem := by simp

def isKept (c : Char) : Bool := c != '\t' && c != '\r' && c != '\n'

/-- Tabs and line ends are dropped wherever they stand. -/
def withoutBreaks (s : List Char) : List Char := s.filter isKept

theorem mem_of_mem_withoutBreaks {s : List Char} {c : Char} (h : c ∈ withoutBreaks s) : c ∈ s :=
  (List.mem_filter.1 h).1

theorem IsInner.withoutBreaks {s : List Char} (h : IsInner s) : IsInner (withoutBreaks s) :=
  fun c hc => h c (mem_of_mem_withoutBreaks hc)

theorem IsPassword.withoutBreaks {password : List Char} (h : IsPassword password) :
    IsPassword (withoutBreaks password) where
  inner := h.inner.withoutBreaks
  open_not_mem hc := h.open_not_mem (mem_of_mem_withoutBreaks hc)
  close_not_mem hc := h.close_not_mem (mem_of_mem_withoutBreaks hc)

theorem stripControls_append_cons {c : Char} (hc : 0x20 < c.toNat) (s t : List Char) :
    stripControls (s ++ c :: t) = stripControls s ++ withoutBreaks (c :: t) := by
  have hdrop : (s ++ c :: t).dropWhile (·.toNat ≤ 0x20) = s.dropWhile (·.toNat ≤ 0x20) ++
      c :: t := by
    induction s with
    | nil => exact List.dropWhile_cons_of_neg (by simpa using hc)
    | cons d rest ih => by_cases hd : d.toNat ≤ 0x20 <;> simp [hd, ih]
  rw [stripControls, hdrop, List.filter_append]
  rfl

namespace PasswordFrame

variable (f : PasswordFrame)

/-- User, password and host. -/
def authority (password : List Char) : List Char := f.user ++ ':' :: password ++ '@' :: f.host

def text (password : List Char) : List Char :=
  f.before ++ '/' :: '/' :: f.authority password ++ f.rest

/-- The connection string with this password. -/
def url (password : List Char) : String := .ofList (f.text password)

theorem url_ne_empty (password : List Char) : f.url password ≠ "" := by
  rw [url, Ne, String.ofList_eq_empty_iff]
  simp [text]

/-- The frame as it is split, without leading blanks and without line ends. -/
def stripped : PasswordFrame where
  before := stripControls f.before
  user := withoutBreaks f.user
  host := withoutBreaks f.host
  rest := withoutBreaks f.rest
  user_inner := f.user_inner.withoutBreaks
  host_inner := f.host_inner.withoutBreaks
  at_not_mem_host hc := f.at_not_mem_host (mem_of_mem_withoutBreaks hc)
  rest_outside := by
    cases hrest : f.rest with
    | nil => rfl
    | cons c t =>
      -- What ends an authority is kept, so it still stands first.
      have hc : endsAuthority c = true := by simpa [hrest] using f.rest_outside
      have hkept : isKept c = true := by
        simp only [endsAuthority, Bool.or_eq_true, beq_iff_eq] at hc
        rcases hc with (rfl | rfl) | rfl <;> decide
      rw [withoutBreaks, List.filter_cons_of_pos hkept]
      exact hc

theorem stripControls_text (password : List Char) :
    stripControls (f.text password) = f.stripped.text (withoutBreaks password) := by
  have hslash : f.text password = f.before ++ '/' :: ('/' :: f.authority password ++ f.rest) := by
    simp [text]
  rw [hslash, stripControls_append_cons (by decide)]
  simp [text, authority, stripped, withoutBreaks, isKept]

/-! ## Splitting -/

/-- The scheme that is found before the two slashes, in lower case; empty if none is found. -/
def scheme : List Char := (cutScheme f.stripped.before).1

/-- What stands between the scheme and the two slashes, which then open no authority. -/
def gap : List Char := (cutScheme f.stripped.before).2

end PasswordFrame

/-- A scheme is found before the first slash or not at all. -/
theorem cutScheme_append_slash (s t : List Char) :
    cutScheme (s ++ '/' :: t) = ((cutScheme s).1, (cutScheme s).2 ++ '/' :: t) := by
  by_cases hcolon : ':' ∈ s
  · obtain ⟨start, after, rfl, hstart⟩ := List.eq_append_cons_of_mem hcolon
    have hcut : cutFirst ':' (start ++ ':' :: after ++ '/' :: t) =
        (start, some (after ++ '/' :: t)) := by
      rw [List.append_assoc, List.cons_append, cutFirst_append_cons hstart]
    simp only [cutScheme, hcut, cutFirst_append_cons hstart]
    split <;> rfl
  · have hnone : cutScheme s = ([], s) := by rw [cutScheme, cutFirst_of_not_mem hcolon]
    rw [hnone]
    by_cases ht : ':' ∈ '/' :: t
    · -- A colon behind the slash ends no scheme: the slash would be in it.
      obtain ⟨start, after, heq, hstart⟩ := List.eq_append_cons_of_mem ht
      have hslash : '/' ∈ start := by
        cases start with
        | nil => cases heq
        | cons c start =>
          obtain rfl : '/' = c := (List.cons.inj heq).1
          exact List.mem_cons_self
      have hcut : cutFirst ':' (s ++ '/' :: t) = (s ++ start, some after) := by
        rw [heq, ← List.append_assoc, cutFirst_append_cons (by simp [hcolon, hstart])]
      have hbad : (s ++ start).all isSchemeChar = false :=
        List.all_eq_false.2 ⟨'/', List.mem_append_right _ hslash, by decide⟩
      simp [cutScheme, hcut, hbad]
    · have hcut : cutFirst ':' (s ++ '/' :: t) = (s ++ '/' :: t, none) :=
        cutFirst_of_not_mem (by simpa [hcolon] using ht)
      rw [cutScheme, hcut]

/-- An ASCII character is compatible with no delimiter. -/
theorem checkLookalikes_of_ascii {authority : List Char} (h : ∀ c ∈ authority, c.toNat < 0x80) :
    checkLookalikes authority = .ok () := by
  have hrange : ∀ r ∈ delimiterLookalikes, 0x80 ≤ r.1 := by decide
  have hnone : authority.any (fun c => inRanges delimiterLookalikes c.toNat) = false := by
    rw [List.any_eq_false]
    intro c hc hin
    obtain ⟨r, hr, hrc⟩ := List.any_eq_true.1 hin
    have hlow := hrange r hr
    have hascii := h c hc
    simp only [Bool.and_eq_true, decide_eq_true_eq] at hrc
    omega
  rw [checkLookalikes, hnone]
  rfl

/-- An authority goes up to what ends it. -/
theorem cutAuthority_append {authority rest : List Char} (hinner : IsInner authority)
    (hrest : rest.head?.all endsAuthority = true) :
    cutAuthority ('/' :: '/' :: authority ++ rest) = (authority, rest) := by
  have hinside : ∀ c ∈ authority, (!endsAuthority c) = true :=
    fun c hc => by rw [(hinner c hc).1]; rfl
  show ((authority ++ rest).span (!endsAuthority ·)) = _
  rw [List.span_eq_takeWhile_dropWhile, List.takeWhile_append_of_pos hinside,
    List.dropWhile_append_of_pos hinside]
  cases rest with
  | nil => simp
  | cons c t =>
    have hc : endsAuthority c = true := by simpa using hrest
    simp [hc]

/-- The parts of a connection string, given what stands before and behind the end of the
authority. -/
def Url.ofAuthority (scheme authority rest : List Char) : Url :=
  let (rest, fragment) := cutFirst '#' rest
  let (path, query) := cutFirst '?' rest
  ⟨scheme, authority, path, query.getD [], fragment.getD []⟩

/-- Of an authority in ASCII only the brackets can be wrong. -/
theorem ofText_of_authority {s scheme authority rest : List Char}
    (hscheme : cutScheme (stripControls s) = (scheme, '/' :: '/' :: authority ++ rest))
    (hinner : IsInner authority) (hrest : rest.head?.all endsAuthority = true) :
    Url.ofText s = (fun _ => Url.ofAuthority scheme authority rest) <$>
      checkBrackets authority := by
  have hascii : checkLookalikes authority = .ok () :=
    checkLookalikes_of_ascii fun c hc => (hinner c hc).2
  simp only [Url.ofText, hscheme, cutAuthority_append hinner hrest, hascii]
  cases checkBrackets authority with
  | error e => rfl
  | ok u => rfl

namespace PasswordFrame

variable {f : PasswordFrame} {password : List Char}

theorem isInner_authority (f : PasswordFrame) (h : IsInner password) :
    IsInner (f.authority password) := by
  intro c hc
  simp only [authority, List.mem_append, List.mem_cons] at hc
  rcases hc with (hc | rfl | hc) | rfl | hc
  · exact f.user_inner c hc
  · decide
  · exact h c hc
  · decide
  · exact f.host_inner c hc

theorem cutLast_authority (f : PasswordFrame) (password : List Char) :
    cutLast '@' (f.authority password) = (some (f.user ++ ':' :: password), f.host) := by
  rw [authority, cutLast_append_cons f.at_not_mem_host]

/-- The check of brackets asks the password only whether it has any. -/
theorem checkBrackets_authority_congr (f : PasswordFrame) {p q : List Char}
    (hopen : '[' ∈ p ↔ '[' ∈ q) (hclose : ']' ∈ p ↔ ']' ∈ q) :
    checkBrackets (f.authority p) = checkBrackets (f.authority q) := by
  have hopens : (f.authority p).contains '[' = (f.authority q).contains '[' := by
    simp [authority, hopen]
  have hcloses : (f.authority p).contains ']' = (f.authority q).contains ']' := by
    simp [authority, hclose]
  simp only [checkBrackets, cutLast_authority, hopens, hcloses]

/-- The brackets are those of the host. -/
theorem checkBrackets_authority (f : PasswordFrame) (h : IsPassword password) :
    checkBrackets (f.authority password) = checkBrackets (f.authority []) :=
  f.checkBrackets_authority_congr (by simp [h.open_not_mem]) (by simp [h.close_not_mem])

/-- The parts of the connection string. -/
def parts (f : PasswordFrame) (password : List Char) : Url :=
  let (rest, fragment) := cutFirst '#' f.stripped.rest
  let (path, query) := cutFirst '?' rest
  ⟨f.scheme, f.stripped.authority (withoutBreaks password), path, query.getD [], fragment.getD []⟩

theorem ofText_text_of_inner (hgap : f.gap = []) (h : IsInner password) :
    Url.ofText (f.text password) =
      (fun _ => f.parts password) <$>
        checkBrackets (f.stripped.authority (withoutBreaks password)) := by
  refine ofText_of_authority ?_ (f.stripped.isInner_authority h.withoutBreaks)
    f.stripped.rest_outside
  have hfound := cutScheme_append_slash f.stripped.before
    ('/' :: f.stripped.authority (withoutBreaks password) ++ f.stripped.rest)
  rw [show (cutScheme f.stripped.before).2 = [] from hgap] at hfound
  rw [stripControls_text]
  simpa [text, scheme] using hfound

/-- Whether a connection string can be split does not depend on its password. -/
theorem ofText_text (hgap : f.gap = []) (h : IsPassword password) :
    Url.ofText (f.text password) =
      (fun _ => f.parts password) <$> checkBrackets (f.stripped.authority []) := by
  rw [ofText_text_of_inner hgap h.inner, f.stripped.checkBrackets_authority h.withoutBreaks]

/-! ## Reading the parts -/

@[simp] theorem hostInfo_parts (f : PasswordFrame) (password : List Char) :
    (f.parts password).hostInfo = f.stripped.host :=
  congrArg Prod.snd (cutLast_authority f.stripped _)

@[simp] theorem userInfo_parts (f : PasswordFrame) (password : List Char) :
    (f.parts password).userInfo = some (f.stripped.user ++ ':' :: withoutBreaks password) :=
  congrArg Prod.fst (cutLast_authority f.stripped _)

/-- The user ends at a colon that stands before the password. -/
theorem user_parts (f : PasswordFrame) (password : List Char) :
    (f.parts password).user = (cutFirst ':' f.stripped.user).1 := by
  rw [Url.user, userInfo_parts, Option.map_some, Option.getD_some, cutFirst_append_cons_fst]

theorem exists_password_parts (f : PasswordFrame) (password : List Char) :
    ∃ password', (f.parts password).password? = some password' := by
  rw [Url.password?, userInfo_parts, Option.bind_some]
  exact exists_cutFirst_snd (List.mem_append_right _ List.mem_cons_self)

theorem maskedAuthority_parts (f : PasswordFrame) (password : List Char) :
    (f.parts password).maskedAuthority = (f.parts []).maskedAuthority := by
  have hhost : (f.parts password).hostAndPort = (f.parts []).hostAndPort := by
    simp only [Url.hostAndPort, hostInfo_parts]
  simp only [Url.maskedAuthority, Url.port?, Url.host, hhost, user_parts]

/-- What is shown of the connection string if its brackets are in order. -/
def shown (f : PasswordFrame) : Except UrlError String := do
  let authority ← (f.parts []).maskedAuthority
  pure (.ofList { f.parts [] with authority }.text)

/-- The connection string as it is shown, with the error if it cannot be. -/
def masked (f : PasswordFrame) : Except UrlError String := do
  checkBrackets (f.stripped.authority [])
  let authority ← (f.parts []).maskedAuthority
  pure (.ofList { f.parts [] with authority }.text)

theorem maskPassword_url_of_inner (hgap : f.gap = []) (h : IsInner password) :
    maskPassword (f.url password) =
      checkBrackets (f.stripped.authority (withoutBreaks password)) >>= fun _ => f.shown := by
  have hne : (f.url password).isEmpty = false := by
    rw [Bool.eq_false_iff, Ne, String.isEmpty_iff]
    exact f.url_ne_empty password
  obtain ⟨password', hpassword'⟩ := f.exists_password_parts password
  rw [maskPassword, hne, if_neg Bool.false_ne_true, url, String.toList_ofList,
    ofText_text_of_inner hgap h, shown]
  cases checkBrackets (f.stripped.authority (withoutBreaks password)) with
  | error e => rfl
  | ok u =>
    simp only [Functor.map, Except.map, bind, Except.bind, hpassword',
      ← maskedAuthority_parts f password]
    rfl

/-- **Masked passwords**: what is shown of a connection string is the same for every password. -/
theorem maskPassword_url (hgap : f.gap = []) (h : IsPassword password) :
    maskPassword (f.url password) = f.masked := by
  rw [maskPassword_url_of_inner hgap h.inner, f.stripped.checkBrackets_authority h.withoutBreaks]
  rfl

end PasswordFrame

/-! ## Schemes -/

/-- A text that is a scheme if a colon follows it. -/
structure IsScheme (s : List Char) : Prop where
  head : s.head?.any Char.isAlpha = true
  all : s.all isSchemeChar = true

theorem lt_toNat_of_isSchemeChar {c : Char} (h : isSchemeChar c = true) : 0x20 < c.toNat := by
  by_contra hle
  have hcontrol := ascii_forall (p := fun c => c.toNat ≤ 0x20 → isSchemeChar c = false)
    (by decide +kernel) c (by omega) (by omega)
  rw [hcontrol] at h
  cases h

theorem stripControls_eq_self {s : List Char} (h : ∀ c ∈ s, 0x20 < c.toNat) :
    stripControls s = s := by
  have hkept : ∀ c ∈ s, isKept c = true := by
    intro c hc
    have hlt := h c hc
    simp only [isKept, Bool.and_eq_true, bne_iff_ne]
    refine ⟨⟨?_, ?_⟩, ?_⟩ <;> rintro rfl <;> exact absurd hlt (by decide)
  have hdrop : s.dropWhile (·.toNat ≤ 0x20) = s := by
    cases s with
    | nil => rfl
    | cons c rest => exact List.dropWhile_cons_of_neg (by simpa using h c List.mem_cons_self)
  rw [stripControls, hdrop]
  exact List.filter_eq_self.2 hkept

/-- The two slashes behind a scheme and its colon open an authority. -/
theorem PasswordFrame.cutScheme_before {f : PasswordFrame} {s : List Char} (hs : IsScheme s)
    (hbefore : f.before = s ++ [':']) : f.scheme = s.map Char.toLower ∧ f.gap = [] := by
  have hcolon : ':' ∉ s := fun hmem => absurd (List.all_eq_true.1 hs.all _ hmem) (by decide)
  have hstripped : f.stripped.before = s ++ [':'] := by
    show stripControls f.before = _
    rw [hbefore]
    refine stripControls_eq_self fun c hc => ?_
    rcases List.mem_append.1 hc with hc | hc
    · exact lt_toNat_of_isSchemeChar (List.all_eq_true.1 hs.all c hc)
    · rw [List.mem_singleton.1 hc]
      decide
  have hcut : cutScheme f.stripped.before = (s.map Char.toLower, []) := by
    simp only [hstripped, cutScheme, cutFirst_append_cons hcolon, hs.head, hs.all, Bool.and_self,
      if_true]
  exact ⟨congrArg Prod.fst hcut, congrArg Prod.snd hcut⟩

end SchemaStructs.Connection
