import SchemaStructs.Proofs.Connection.BracketedHosts
import SchemaStructs.Proofs.Connection.PasswordFrame

/-!
# What masking keeps

A masked connection string is put together from the parts that were found, and not from the text.
Scheme, user, port, path and query come back as they were written. A host comes back without its
brackets, so the string is masked exactly if the host has none.
-/

namespace SchemaStructs.Connection

open Numeric Text

/-! ## Connection strings in their parts -/

/-- A text of ASCII, without tabs and line ends, that has none of the delimiters. -/
def IsPart (delimiters s : List Char) : Prop :=
  ∀ c ∈ s, c.toNat < 0x80 ∧ isKept c = true ∧ c ∉ delimiters

instance (delimiters s : List Char) : Decidable (IsPart delimiters s) :=
  List.decidableBAll (fun c : Char => c.toNat < 0x80 ∧ isKept c = true ∧ c ∉ delimiters) s

def InLowerCase (s : List Char) : Prop := ∀ c ∈ s, c.toLower = c

instance (s : List Char) : Decidable (InLowerCase s) :=
  List.decidableBAll (fun c : Char => c.toLower = c) s

/-- A host in lower case: a name or an IPv4 address, or an IPv6 address that is written in
brackets. -/
structure Host where
  text : List Char
  bracketed : Bool
  part : IsPart ['/', '?', '#', '@', '[', ']'] text
  lower_case : InLowerCase text
  kind : if bracketed then isIpv6 text = true else ':' ∉ text

/-- A connection string `scheme://user:…@host:port/path?query` without its password. Port and query
may be missing. -/
structure Locator where
  scheme : List Char
  user : List Char
  host : Host
  port : Option Nat
  path : List Char
  query : Option (List Char)
  isScheme : IsScheme scheme
  scheme_lower_case : InLowerCase scheme
  user_part : IsPart ['/', '?', '#', ':'] user
  port_range : ∀ n ∈ port, 1 ≤ n ∧ n ≤ 65535
  path_part : IsPart ['?', '#'] path
  query_part : ∀ q ∈ query, q ≠ [] ∧ IsPart ['#'] q

def Host.written (host : Host) : List Char :=
  if host.bracketed then '[' :: (host.text ++ [']']) else host.text

def portDigits (port : Option Nat) : List Char := (port.map fun n => (toString n).toList).getD []

def portText (port : Option Nat) : List Char := if port.isSome then ':' :: portDigits port else []

namespace Locator

variable (l : Locator)

def queryText : List Char := (l.query.map ('?' :: ·)).getD []

/-- The connection string with this text for its password and this one for its host. -/
def textWith (password host : List Char) : List Char :=
  l.scheme ++ "://".toList ++ l.user ++ ':' :: password ++ '@' :: host ++ portText l.port ++
    '/' :: l.path ++ l.queryText

/-- The connection string with this password. -/
def url (password : List Char) : String := .ofList (l.textWith password l.host.written)

/-- The connection string with three stars for the password and without the brackets of the host. -/
def shown : String := .ofList (l.textWith "***".toList l.host.text)

def authority (password : List Char) : List Char :=
  l.user ++ ':' :: password ++ '@' :: (l.host.written ++ portText l.port)

theorem shown_eq_url_stars_iff : l.shown = l.url "***".toList ↔ l.host.bracketed = false := by
  have hcancel : l.shown = l.url "***".toList ↔ l.host.text = l.host.written := by
    simp [shown, url, textWith, String.ofList_inj]
  rw [hcancel, Host.written]
  cases l.host.bracketed with
  | false => simp
  | true =>
    refine iff_of_false (fun h => ?_) (by decide)
    have hlength := congrArg List.length h
    simp at hlength
    omega

end Locator

/-! ## Ports and hosts that are read back -/

theorem isDigit_of_mem_portDigits {port : Option Nat} {c : Char} (h : c ∈ portDigits port) :
    c.isDigit = true := by
  cases port with
  | none => cases h
  | some n =>
    have hmem : c ∈ Nat.toDigits 10 n := by
      simpa [portDigits, Nat.toString_eq_ofList_toDigits] using h
    exact Nat.isDigit_of_mem_toDigits (by decide) (by decide) hmem

theorem port?_eq {url : Url} {port : Option Nat} (hport : url.hostAndPort.2 = portDigits port)
    (hrange : ∀ n ∈ port, n ≤ 65535) : url.port? = .ok port := by
  unfold Url.port?
  rw [hport]
  cases port with
  | none => rfl
  | some n =>
    have hle : n ≤ 65535 := hrange n rfl
    have hdigits : portDigits (some n) = Nat.toDigits 10 n := by
      simp [portDigits]
    have hvalue : digitsValue (Nat.toDigits 10 n) = n :=
      Nat.ofDigitChars_toDigits (by decide) (by decide)
    have hall : (Nat.toDigits 10 n).all Char.isDigit = true :=
      List.all_eq_true.2 fun c hc => Nat.isDigit_of_mem_toDigits (by decide) (by decide) hc
    have hfew : (Nat.toDigits 10 n).length ≤ 5 :=
      (Nat.length_toDigits_le_iff (by decide) (by decide)).2 (by omega)
    have hcheck : checkDigits (Nat.toDigits 10 n) = .ok () := by
      rw [checkDigits, if_neg (by simp),
        if_neg (by rw [maxIntegerDigits]; omega)]
    rw [hdigits]
    obtain ⟨d, rest, hcons⟩ := List.exists_cons_of_ne_nil (Nat.toDigits_ne_nil (n := n) (b := 10))
    rw [hcons] at hall hcheck hvalue ⊢
    simp only [hall, hcheck, hvalue, Bool.not_true, Bool.false_eq_true, if_false, if_pos hle]
    rfl

theorem cutFirst_portText {s : List Char} (h : ':' ∉ s) (port : Option Nat) :
    (cutFirst ':' (s ++ portText port)).1 = s ∧
      (cutFirst ':' (s ++ portText port)).2.getD [] = portDigits port := by
  cases port with
  | none =>
    rw [show s ++ portText none = s from List.append_nil s, cutFirst_of_not_mem h]
    exact ⟨rfl, rfl⟩
  | some n =>
    rw [show portText (some n) = ':' :: portDigits (some n) from rfl, cutFirst_append_cons h]
    exact ⟨rfl, rfl⟩

theorem hostAndPort_of_bracketed {url : Url} {address rest : List Char}
    (h : url.hostInfo = '[' :: (address ++ ']' :: rest)) (hclose : ']' ∉ address) :
    url.hostAndPort = (address, (cutFirst ':' rest).2.getD []) := by
  have hopen : cutFirst '[' url.hostInfo = ([], some (address ++ ']' :: rest)) :=
    h ▸ cutFirst_append_cons List.not_mem_nil _
  simp only [Url.hostAndPort, hopen, cutFirst_append_cons hclose, Option.getD_some]

theorem hostAndPort_of_plain {url : Url} (hopen : '[' ∉ url.hostInfo) :
    url.hostAndPort = ((cutFirst ':' url.hostInfo).1, (cutFirst ':' url.hostInfo).2.getD []) := by
  simp only [Url.hostAndPort, cutFirst_of_not_mem hopen]

/-- A host in lower case is read as it is, its zone included. -/
theorem host_eq {url : Url} (hascii : ∀ c ∈ url.hostAndPort.1, c.toNat < 0x80)
    (hlower : InLowerCase url.hostAndPort.1) : url.host = url.hostAndPort.1 := by
  have hzoneless : url.hostAndPort.1.takeWhile (· != '%') ⊆ url.hostAndPort.1 :=
    List.IsPrefix.subset <| List.takeWhile_prefix _
  rw [Url.host, List.span_eq_takeWhile_dropWhile]
  dsimp only
  rw [lower_of_ascii fun c hc => hascii c (hzoneless hc),
    List.map_congr_left fun c hc => hlower c (hzoneless hc), List.map_id',
    List.takeWhile_append_dropWhile]

/-! ## Parts -/

namespace IsPart

variable {delimiters delimiters' s t : List Char}

theorem mono (h : IsPart delimiters s) (hsub : delimiters' ⊆ delimiters) : IsPart delimiters' s :=
  fun c hc => ⟨(h c hc).1, (h c hc).2.1, fun hmem => (h c hc).2.2 (hsub hmem)⟩

theorem append (hs : IsPart delimiters s) (ht : IsPart delimiters t) : IsPart delimiters (s ++ t) :=
  fun c hc => (List.mem_append.1 hc).elim (hs c) (ht c)

theorem not_mem (h : IsPart delimiters s) {c : Char} (hc : c ∈ delimiters) : c ∉ s :=
  fun hmem => (h c hmem).2.2 hc

theorem withoutBreaks_eq_self (h : IsPart delimiters s) : withoutBreaks s = s :=
  List.filter_eq_self.2 fun c hc => (h c hc).2.1

theorem isInner (h : IsPart delimiters s) (hsub : ['/', '?', '#'] ⊆ delimiters) : IsInner s := by
  refine fun c hc => ⟨Bool.eq_false_iff.2 fun hends => ?_, (h c hc).1⟩
  have hmem : c ∈ ['/', '?', '#'] := by simpa [endsAuthority, or_assoc] using hends
  exact h.not_mem (hsub hmem) hc

end IsPart

theorem isPart_portText (port : Option Nat) : IsPart ['/', '?', '#', '@', '[', ']']
    (portText port) := by
  intro c hc
  unfold portText at hc
  split at hc
  · rcases List.mem_cons.1 hc with rfl | hc
    · decide
    · have hdigit := isDigit_of_mem_portDigits hc
      have hascii : c.toNat < 0x80 := by
        simp only [Char.isDigit, Bool.and_eq_true, decide_eq_true_eq, ge_iff_le,
          UInt32.le_iff_toNat_le] at hdigit
        exact Nat.lt_of_le_of_lt hdigit.2 (by decide)
      exact ascii_forall (p := fun c => c.isDigit = true → c.toNat < 0x80 ∧ isKept c = true ∧
        c ∉ ['/', '?', '#', '@', '[', ']']) (by decide) c hascii hdigit
  · cases hc

namespace Locator

variable (l : Locator)

theorem isPart_host : IsPart ['/', '?', '#', '@'] (l.host.written ++ portText l.port) := by
  refine IsPart.append ?_ ((isPart_portText l.port).mono (by simp))
  have hpart : IsPart ['/', '?', '#', '@'] l.host.text := l.host.part.mono (by simp)
  unfold Host.written
  split
  · exact IsPart.append (s := ['[']) (by decide) (hpart.append (by decide))
  · exact hpart

theorem isPart_rest : IsPart ['#'] ('/' :: l.path ++ l.queryText) := by
  have hpath : IsPart ['#'] ('/' :: l.path) :=
    IsPart.append (s := ['/']) (by decide) (l.path_part.mono (by simp))
  refine hpath.append ?_
  unfold queryText
  cases hquery : l.query with
  | none => exact nofun
  | some q => exact IsPart.append (s := ['?']) (by decide) (l.query_part q hquery).2

/-- What surrounds the password. -/
def frame : PasswordFrame where
  before := l.scheme ++ [':']
  user := l.user
  host := l.host.written ++ portText l.port
  rest := '/' :: l.path ++ l.queryText
  user_inner := l.user_part.isInner (by simp)
  host_inner := l.isPart_host.isInner (by simp)
  at_not_mem_host := l.isPart_host.not_mem (by simp)
  rest_outside := rfl

theorem url_eq (password : List Char) : l.url password = l.frame.url password := by
  simp [url, textWith, frame, PasswordFrame.url, PasswordFrame.text, PasswordFrame.authority]

/-- Nothing is dropped when the connection string is split. -/
theorem stripped_frame : l.frame.stripped = l.frame := by
  have hbefore : stripControls (l.scheme ++ [':']) = l.scheme ++ [':'] := by
    refine stripControls_eq_self fun c hc => ?_
    rcases List.mem_append.1 hc with hc | hc
    · exact lt_toNat_of_isSchemeChar (List.all_eq_true.1 l.isScheme.all c hc)
    · rw [List.mem_singleton.1 hc]
      decide
  simp only [PasswordFrame.stripped, frame, hbefore, l.user_part.withoutBreaks_eq_self,
    l.isPart_host.withoutBreaks_eq_self, l.isPart_rest.withoutBreaks_eq_self]

theorem scheme_frame : l.frame.scheme = l.scheme ∧ l.frame.gap = [] := by
  obtain ⟨hscheme, hgap⟩ := PasswordFrame.cutScheme_before l.isScheme (f := l.frame) rfl
  refine ⟨?_, hgap⟩
  rw [hscheme, List.map_congr_left l.scheme_lower_case, List.map_id']

theorem parts_frame : l.frame.parts [] =
    ⟨l.scheme, l.frame.authority [], '/' :: l.path, l.query.getD [], []⟩ := by
  have hrest : cutFirst '?' ('/' :: l.path ++ l.queryText) = ('/' :: l.path, l.query) := by
    have hpath : '?' ∉ '/' :: l.path := by simpa using l.path_part.not_mem (c := '?') (by simp)
    unfold queryText
    cases l.query with
    | none => simpa using cutFirst_of_not_mem hpath
    | some q => exact cutFirst_append_cons hpath q
  simp only [PasswordFrame.parts, l.stripped_frame, l.scheme_frame.1]
  rw [show l.frame.rest = '/' :: l.path ++ l.queryText from rfl,
    cutFirst_of_not_mem (l.isPart_rest.not_mem List.mem_cons_self)]
  simp only [hrest]
  rfl

theorem hostAndPort_parts : (l.frame.parts []).hostAndPort = (l.host.text, portDigits l.port) := by
  have hinfo : (l.frame.parts []).hostInfo = l.host.written ++ portText l.port := by
    rw [PasswordFrame.hostInfo_parts, l.stripped_frame]
    rfl
  have hkind := l.host.kind
  cases hbracketed : l.host.bracketed with
  | true =>
    have hwritten : (l.frame.parts []).hostInfo =
        '[' :: (l.host.text ++ ']' :: portText l.port) := by
      simp [hinfo, Host.written, hbracketed]
    rw [hostAndPort_of_bracketed hwritten (l.host.part.not_mem (by simp))]
    exact congrArg _ (cutFirst_portText List.not_mem_nil l.port).2
  | false =>
    have hwritten : (l.frame.parts []).hostInfo = l.host.text ++ portText l.port := by
      simp [hinfo, Host.written, hbracketed]
    have hopen : '[' ∉ l.host.text ++ portText l.port :=
      (l.host.part.append (isPart_portText l.port)).not_mem (by simp)
    have hcolon : ':' ∉ l.host.text := by simpa [hbracketed] using hkind
    obtain ⟨hname, hport⟩ := cutFirst_portText hcolon l.port
    rw [hostAndPort_of_plain (hwritten ▸ hopen), hwritten, hname, hport]

theorem maskedAuthority_parts : (l.frame.parts []).maskedAuthority =
    .ok (l.user ++ ':' :: "***".toList ++ '@' :: l.host.text ++ portText l.port) := by
  have hport : (l.frame.parts []).port? = .ok l.port :=
    port?_eq (congrArg Prod.snd l.hostAndPort_parts) fun n hn => (l.port_range n hn).2
  have hhost : (l.frame.parts []).host = l.host.text := by
    have htext := congrArg Prod.fst l.hostAndPort_parts
    rw [host_eq (htext ▸ fun c hc => (l.host.part c hc).1) (htext ▸ l.host.lower_case), htext]
  have huser : (l.frame.parts []).user = l.user := by
    rw [PasswordFrame.user_parts, l.stripped_frame]
    exact congrArg Prod.fst (cutFirst_of_not_mem (l.user_part.not_mem (by simp)))
  rw [Url.maskedAuthority, hport, hhost, huser]
  have hrange := l.port_range
  cases hnumber : l.port with
  | none => simp [bind, Except.bind, pure, Except.pure, portText]
  | some n =>
    obtain ⟨m, rfl⟩ : ∃ m, n = m + 1 := Nat.exists_eq_add_one.2 (hrange n hnumber).1
    simp [bind, Except.bind, pure, Except.pure, portText, portDigits]

theorem shown_frame : l.frame.shown = .ok l.shown := by
  have hscheme : l.scheme.isEmpty = false := by
    cases hnil : l.scheme with
    | nil => exact absurd l.isScheme.head (by rw [hnil]; decide)
    | cons c rest => rfl
  rw [PasswordFrame.shown, l.maskedAuthority_parts, l.parts_frame]
  show Except.ok _ = _
  rw [shown]
  congr 2
  cases hquery : l.query with
  | none => simp [Url.text, textWith, queryText, hquery, hscheme]
  | some q =>
    have hq : q.isEmpty = false := by simpa using (l.query_part q hquery).1
    simp [Url.text, textWith, queryText, hquery, hscheme, hq]

theorem checkBrackets_withoutBreaks (password : List Char) :
    checkBrackets (l.frame.authority (withoutBreaks password)) =
      checkBrackets (l.authority password) := by
  have hkept : ∀ c, isKept c = true → (c ∈ withoutBreaks password ↔ c ∈ password) :=
    fun c hc => List.mem_filter.trans (and_iff_left hc)
  exact l.frame.checkBrackets_authority_congr (hkept '[' (by decide)) (hkept ']' (by decide))

/-- The brackets of a bracketed host are in order, and without one so is an authority that has
none. -/
theorem checkBrackets_authority {password : List Char}
    (h : l.host.bracketed = false → '[' ∉ l.user ++ password ∧ ']' ∉ l.user ++ password) :
    checkBrackets (l.authority password) = .ok () := by
  have hkind := l.host.kind
  cases hbracketed : l.host.bracketed with
  | true =>
    have hauthority : l.authority password = (l.user ++ ':' :: password) ++
        '@' :: '[' :: (l.host.text ++ ']' :: portText l.port) := by
      simp [authority, Host.written, hbracketed]
    rw [hauthority]
    refine checkBrackets_of_isIpv6 (by simpa [hbracketed] using hkind)
      (l.host.part.not_mem (by simp))
      (l.host.part.not_mem (by simp)) ((isPart_portText l.port).not_mem (by simp)) ?_ _
    unfold portText
    split <;> rfl
  | false =>
    have hnot : ∀ c ∈ ['[', ']'], c ∉ l.user ++ password → c ∉ l.authority password := by
      intro c hc huserInfo
      have hdelimiter : c ∈ ['/', '?', '#', '@', '[', ']'] :=
        List.mem_append_right ['/', '?', '#', '@'] hc
      have hseparator : c ≠ ':' ∧ c ≠ '@' := by
        rcases List.mem_pair.1 hc with rfl | rfl <;> decide
      have hhost := l.host.part.not_mem hdelimiter
      have hport := (isPart_portText l.port).not_mem hdelimiter
      simp_all [authority, Host.written]
    obtain ⟨hopen, hclose⟩ := h hbracketed
    exact checkBrackets_of_not_mem (hnot '[' (by simp) hopen) (hnot ']' (by simp) hclose)

end Locator

/-- **Masked parts**: if its brackets are in order, a connection string is shown with three stars
for the password and the host without brackets, and all else as it was written. So exactly the
password is masked if and only if the host is in no brackets. The brackets can be out of order only
if a host without them follows a user or a password with some. -/
theorem maskPassword_exact_iff (l : Locator) {password : List Char} (h : IsInner password) :
    maskPassword (l.url password) = (fun _ => l.shown) <$> checkBrackets (l.authority password) ∧
      (maskPassword (l.url password) = .ok (l.url "***".toList) ↔
        checkBrackets (l.authority password) = .ok () ∧ l.host.bracketed = false) ∧
      ((l.host.bracketed = false → '[' ∉ l.user ++ password ∧ ']' ∉ l.user ++ password) →
        checkBrackets (l.authority password) = .ok ()) := by
  have hmasked : maskPassword (l.url password) =
      (fun _ => l.shown) <$> checkBrackets (l.authority password) := by
    rw [l.url_eq, PasswordFrame.maskPassword_url_of_inner l.scheme_frame.2 h, l.stripped_frame,
      l.checkBrackets_withoutBreaks, l.shown_frame]
    rfl
  refine ⟨hmasked, ?_, l.checkBrackets_authority⟩
  rw [hmasked, map_eq_ok_iff, ← l.shown_eq_url_stars_iff]
  constructor
  · rintro ⟨⟨⟩, hbrackets, hshown⟩
    exact ⟨hbrackets, hshown⟩
  · rintro ⟨hbrackets, hshown⟩
    exact ⟨(), hbrackets, hshown⟩

/-- `db.internal` -/
def internalHost : Host where
  text := "db.internal".toList
  bracketed := false
  part := by decide
  lower_case := by decide
  kind := by decide

/-- `[::1]` -/
def loopbackHost : Host where
  text := "::1".toList
  bracketed := true
  part := by decide
  lower_case := by decide
  kind := by decide +kernel

/-- `postgresql://app:…@db.internal:5432/shop?sslmode=require` -/
def internalLocator : Locator where
  scheme := "postgresql".toList
  user := "app".toList
  host := internalHost
  port := some 5432
  path := "shop".toList
  query := some "sslmode=require".toList
  isScheme := ⟨by decide, by decide⟩
  scheme_lower_case := by decide
  user_part := by decide
  port_range := by simp
  path_part := by decide
  query_part := by
    rintro q ⟨⟩
    exact ⟨by decide, by decide⟩

/-- `postgresql://app:…@[::1]:5432/shop?sslmode=require` -/
def loopbackLocator : Locator := { internalLocator with host := loopbackHost }

/-- A password that looks like another authority is masked as a whole. -/
theorem internalLocator_exact :
    IsInner "p@ss:word".toList ∧
      maskPassword (internalLocator.url "p@ss:word".toList) =
        .ok (internalLocator.url "***".toList) ∧
      maskPassword (loopbackLocator.url "p@ss:word".toList) = .ok loopbackLocator.shown := by
  have hinner : IsInner "p@ss:word".toList := by decide
  obtain ⟨-, hexact, hbrackets⟩ := maskPassword_exact_iff internalLocator hinner
  obtain ⟨hshown, -, hloopback⟩ := maskPassword_exact_iff loopbackLocator hinner
  refine ⟨hinner, hexact.2 ⟨hbrackets fun _ => by decide, rfl⟩, ?_⟩
  rw [hshown, hloopback nofun]
  rfl

/-- The host comes back without its brackets, and runs into its port. -/
theorem not_forall_maskPassword_exact :
    ¬ ∀ (l : Locator) (password : List Char), IsInner password →
      '[' ∉ l.user ++ password → ']' ∉ l.user ++ password →
      maskPassword (l.url password) = .ok (l.url "***".toList) := by
  intro h
  have hexact := h loopbackLocator "s3cret".toList (by decide) (by decide) (by decide)
  have hshown : maskPassword (loopbackLocator.url "s3cret".toList) =
      .ok "postgresql://app:***@::1:5432/shop?sslmode=require" := by decide +kernel
  rw [hshown] at hexact
  exact absurd (Except.ok.inj hexact) (by decide +kernel)

end SchemaStructs.Connection
