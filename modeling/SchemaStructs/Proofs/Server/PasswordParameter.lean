import SchemaStructs.Proofs.Connection.MaskedParts
import SchemaStructs.Proofs.Server.Secrecy
import SchemaStructs.Run.Failure

/-!
# Passwords that are parameters

The password of a connection may also be given as a parameter of the query. A connection string
without a password in its authority is shown as it is, and its query with it. So such a password is
disclosed by what is logged, and by the report of a connection that fails.
-/

namespace SchemaStructs.Connection

open Text

theorem ofList_append_cons_ne_empty (s : List Char) (c : Char) (t : List Char) :
    String.ofList (s ++ c :: t) ≠ "" := by
  rw [Ne, String.ofList_eq_empty_iff]
  exact List.append_ne_nil_of_right_ne_nil _ (List.cons_ne_nil _ _)

/-- A connection string without a password is shown as it is. -/
theorem maskPassword_of_passwordless {url : String} (hne : url ≠ "") {check : Except UrlError Unit}
    {parts : Url} (hparts : Url.ofText url.toList = (fun _ => parts) <$> check)
    (hnone : parts.password? = none) : maskPassword url = (fun _ => url) <$> check := by
  rw [maskPassword, if_neg (by simpa using hne), hparts]
  cases check with
  | error e => rfl
  | ok u =>
    simp only [Functor.map, Except.map, bind, Except.bind, hnone]
    rfl

/-- A connection string `postgresql://user@host/database?…&password=…&…` without its password. The
user may be missing, and so may the parameters before the password and after it. -/
structure ParameterFrame where
  user : Option (List Char)
  host : List Char
  database : List Char
  leading : List (List Char)
  trailing : List (List Char)
  user_part : ∀ u ∈ user, IsPart ['/', '?', '#', ':'] u
  host_part : IsPart ['/', '?', '#', '@'] host

namespace ParameterFrame

variable (f : ParameterFrame)

def authority : List Char := ((f.user.map (· ++ ['@'])).getD []) ++ f.host

def queryText (password : List Char) : List Char :=
  f.leading.flatMap (· ++ ['&']) ++ "password=".toList ++ password ++ f.trailing.flatMap ('&' :: ·)

/-- The connection string with this password. -/
def url (password : List Char) : String :=
  .ofList ("postgresql:".toList ++
    '/' :: ('/' :: f.authority ++ '/' :: (f.database ++ '?' :: f.queryText password)))

theorem url_injective : Function.Injective f.url := by
  intro p q h
  have htext := String.ofList_inj.1 h
  simpa [queryText] using htext

theorem isPart_authority : IsPart ['/', '?', '#'] f.authority := by
  refine IsPart.append ?_ (f.host_part.mono (by simp))
  cases huser : f.user with
  | none => exact nofun
  | some u => exact ((f.user_part u huser).mono (by simp)).append (by decide)

/-- The authority has no password. -/
theorem password?_eq_none {url : Url} (h : url.authority = f.authority) : url.password? = none := by
  have hhost : '@' ∉ f.host := f.host_part.not_mem (by simp)
  rw [Url.password?, Url.userInfo, h, authority]
  cases huser : f.user with
  | none =>
    rw [Option.map_none, Option.getD_none, List.nil_append, cutLast_of_not_mem hhost]
    rfl
  | some u =>
    have hcolon : ':' ∉ u := (f.user_part u huser).not_mem (by simp)
    rw [Option.map_some, Option.getD_some, List.append_assoc, List.singleton_append,
      cutLast_append_cons hhost, Option.bind_some, cutFirst_of_not_mem hcolon]

theorem cutScheme_text (rest : List Char) :
    cutScheme (stripControls ("postgresql:".toList ++ '/' :: ('/' :: f.authority ++ '/' :: rest))) =
      ("postgresql".toList, '/' :: '/' :: f.authority ++ '/' :: withoutBreaks rest) := by
  have hstart : stripControls "postgresql:".toList = "postgresql:".toList := by decide
  have hfound : cutScheme "postgresql:".toList = ("postgresql".toList, []) := by decide
  have hslash : ∀ t, withoutBreaks ('/' :: t) = '/' :: withoutBreaks t := fun t => rfl
  have hkept : withoutBreaks (f.authority ++ '/' :: rest) =
      f.authority ++ '/' :: withoutBreaks rest := by
    rw [withoutBreaks, List.filter_append]
    exact congrArg (· ++ _) f.isPart_authority.withoutBreaks_eq_self
  rw [stripControls_append_cons (by decide), hstart, List.cons_append, hslash, hslash, hkept,
    cutScheme_append_slash, hfound]
  rfl

theorem url_ne_empty (password : List Char) : f.url password ≠ "" :=
  ofList_append_cons_ne_empty _ _ _

/-- Masking changes nothing. -/
theorem maskPassword_url (password : List Char) :
    maskPassword (f.url password) = (fun _ => f.url password) <$> checkBrackets f.authority := by
  have hscheme := f.cutScheme_text (f.database ++ '?' :: f.queryText password)
  have hparts := ofText_of_authority hscheme (f.isPart_authority.isInner (by simp)) rfl
  have hsplit := (congrArg Url.ofText String.toList_ofList).trans hparts
  exact maskPassword_of_passwordless (f.url_ne_empty password) hsplit (f.password?_eq_none rfl)

/-- What is shown of two connection strings is the same only if their passwords are, or if neither
can be split. -/
theorem maskPassword_url_eq_iff (p q : List Char) :
    maskPassword (f.url p) = maskPassword (f.url q) ↔
      (checkBrackets f.authority = .ok () → p = q) := by
  rw [f.maskPassword_url, f.maskPassword_url]
  cases checkBrackets f.authority with
  | error e => exact iff_of_true rfl nofun
  | ok u =>
    rw [forall_prop_of_true rfl]
    exact ⟨fun h => f.url_injective (Except.ok.inj h), fun h => h ▸ rfl⟩

end ParameterFrame

end SchemaStructs.Connection

namespace SchemaStructs.Server

open Connection Run

/-! ## What a reader discloses -/

theorem connecting_injective (seconds : Int) : Function.Injective (connecting · seconds) := by
  intro masked masked' h
  have hmessage : toString masked = toString masked' := by
    simpa [connecting, Record.info] using congrArg Record.message h
  exact hmessage

/-- The report of an attempt to connect that fails. -/
def attemptReport? : Except ReaderError Unit → Option Report
  | .error e => (Failure.reader e).report?
  | .ok _ => none

/-- The report of a server that cannot be reached. -/
def unreachableReport (masked text : String) (seconds : Int) : Report where
  kind := .connection
  message := s!"Could not connect to {masked}: {text}"
  details := [("database_url", .text masked), ("timeout", .number seconds)]

theorem message_unreachableReport_injective (text : String) (seconds : Int) :
    Function.Injective fun masked => (unreachableReport masked text seconds).message := by
  intro masked masked' h
  have hmessage : toString masked = toString masked' := by simpa [unreachableReport] using h
  exact hmessage

theorem details_unreachableReport_injective (text : String) (seconds : Int) :
    Function.Injective fun masked => (unreachableReport masked text seconds).details :=
  fun _ _ h => Detail.text.inj (Prod.mk.inj (List.cons.inj h).1).2

theorem attemptReport?_of_unreachable {reader : Reader} {server : Script} {s : Session}
    {masked text : String} {seconds : Int} (hmasked : maskPassword reader.url = .ok masked)
    (hseconds : Config.wholeSeconds reader.timeout = .ok seconds) (hs : s.connected = false)
    (herror : server.connectError = some text) :
    attemptReport? (outcome (connect server reader) s).1 =
      some (unreachableReport masked (trimmed text) seconds) := by
  rw [outcome_connect_of_unreachable hmasked hseconds herror hs]
  rfl

section Attempts

variable {f : ParameterFrame} {reader : Reader} {s : Session} {seconds : Int} {e : UrlError}

theorem outcome_connect_of_unsplit (hsplit : checkBrackets f.authority = .error e)
    (hs : s.connected = false) (server : Script) (password : List Char) :
    outcome (connect server { reader with url := f.url password }) s =
      (.error (.malformedUrl e), s) := by
  have hmasked := f.maskPassword_url password
  rw [hsplit] at hmasked
  exact outcome_connect_of_unmasked hmasked hs

theorem maskPassword_of_split (hsplit : checkBrackets f.authority = .ok ()) (password : List Char) :
    maskPassword { reader with url := f.url password }.url = .ok (f.url password) := by
  have hmasked := f.maskPassword_url password
  rw [hsplit] at hmasked
  exact hmasked

/-- What is logged tells any two passwords apart, if there is anything to log. -/
theorem log_connect_eq_iff (hs : s.connected = false)
    (hseconds : Config.wholeSeconds reader.timeout = .ok seconds) (server : Script)
    (p q : List Char) :
    (outcome (connect server { reader with url := f.url p }) s).2.log =
        (outcome (connect server { reader with url := f.url q }) s).2.log ↔
      (checkBrackets f.authority = .ok () → p = q) := by
  cases hsplit : checkBrackets f.authority with
  | error e =>
    rw [outcome_connect_of_unsplit hsplit hs, outcome_connect_of_unsplit hsplit hs]
    exact iff_of_true rfl nofun
  | ok u =>
    have hlog : ∀ password,
        (outcome (connect server { reader with url := f.url password }) s).2.log =
        s.log ++ [connecting (f.url password) seconds] := fun password =>
      (outcome_connect_of_tried server (maskPassword_of_split hsplit password) hseconds hs).2
    rw [forall_prop_of_true rfl, hlog, hlog, List.append_cancel_left_eq, List.singleton_inj]
    exact ((connecting_injective seconds).comp f.url_injective).eq_iff

/-- So does all of the report that shows the connection string. -/
theorem attemptReport?_eq_iff {α : Type} {view : Report → α} {server : Script} {text : String}
    (hview : Function.Injective fun masked =>
      view (unreachableReport masked (trimmed text) seconds))
    (hs : s.connected = false) (hseconds : Config.wholeSeconds reader.timeout = .ok seconds)
    (herror : server.connectError = some text) (p q : List Char) :
    (attemptReport? (outcome (connect server { reader with url := f.url p }) s).1).map view =
        (attemptReport? (outcome (connect server { reader with url := f.url q }) s).1).map view ↔
      (checkBrackets f.authority = .ok () → p = q) := by
  cases hsplit : checkBrackets f.authority with
  | error e =>
    rw [outcome_connect_of_unsplit hsplit hs, outcome_connect_of_unsplit hsplit hs]
    exact iff_of_true rfl nofun
  | ok u =>
    have hreport : ∀ password,
        attemptReport? (outcome (connect server { reader with url := f.url password }) s).1 =
          some (unreachableReport (f.url password) (trimmed text) seconds) := fun password =>
      attemptReport?_of_unreachable (maskPassword_of_split hsplit password) hseconds hs herror
    rw [forall_prop_of_true rfl, hreport, hreport, Option.map_some, Option.map_some,
      Option.some_inj]
    exact (hview.comp f.url_injective).eq_iff

end Attempts

/-- **Disclosed parameters**: what is shown of a connection string that gives its password as a
parameter is the same for no two passwords, unless its authority cannot be split. Neither is what is
logged when a connection is opened, nor the message and the details of the report if the server
cannot be reached. -/
theorem connect_discloses_parameter (f : ParameterFrame) (p q : List Char) :
    (maskPassword (f.url p) = maskPassword (f.url q) ↔
      (checkBrackets f.authority = .ok () → p = q)) ∧
      ∀ (reader : Reader) (server : Script) (s : Session) (seconds : Int), s.connected = false →
        Config.wholeSeconds reader.timeout = .ok seconds →
          let attempt (password : List Char) :=
            outcome (connect server { reader with url := f.url password }) s
          let report (password : List Char) := attemptReport? (attempt password).1
          ((attempt p).2.log = (attempt q).2.log ↔ (checkBrackets f.authority = .ok () → p = q)) ∧
            ∀ text, server.connectError = some text →
              ((report p).map (·.message) = (report q).map (·.message) ↔
                (checkBrackets f.authority = .ok () → p = q)) ∧
              ((report p).map (·.details) = (report q).map (·.details) ↔
                (checkBrackets f.authority = .ok () → p = q)) := by
  refine ⟨f.maskPassword_url_eq_iff p q, ?_⟩
  intro reader server s seconds hs hseconds
  refine ⟨log_connect_eq_iff hs hseconds server p q, fun text herror => ⟨?_, ?_⟩⟩
  · exact attemptReport?_eq_iff (message_unreachableReport_injective _ _) hs hseconds herror p q
  · exact attemptReport?_eq_iff (details_unreachableReport_injective _ _) hs hseconds herror p q

/-- `postgresql://app@db.internal/shop?sslmode=require&password=…&connect_timeout=5` -/
def shopParameter : ParameterFrame where
  user := some "app".toList
  host := "db.internal".toList
  database := "shop".toList
  leading := ["sslmode=require".toList]
  trailing := ["connect_timeout=5".toList]
  user_part := by
    rintro u ⟨⟩
    decide
  host_part := by decide

theorem shopParameter_disclosed :
    checkBrackets shopParameter.authority = .ok () ∧
      Config.wholeSeconds (shopReader "").timeout = .ok 3 ∧
      maskPassword (shopParameter.url "s3cret".toList) ≠ maskPassword (shopParameter.url []) ∧
      (outcome (connect refusingServer (shopReader (shopParameter.url "s3cret".toList))) {}).2.log ≠
        (outcome (connect refusingServer (shopReader (shopParameter.url []))) {}).2.log := by
  have hbrackets : checkBrackets shopParameter.authority = .ok () := by decide
  have hseconds : Config.wholeSeconds (shopReader "").timeout = .ok 3 := by decide +kernel
  have hne : ¬ (checkBrackets shopParameter.authority = .ok () → "s3cret".toList = []) :=
    fun h => absurd (h hbrackets) (by decide)
  obtain ⟨hmasked, hattempts⟩ := connect_discloses_parameter shopParameter "s3cret".toList []
  obtain ⟨hlog, -⟩ := hattempts (shopReader "") refusingServer {} 3 rfl hseconds
  have hreader : ∀ url, { shopReader "" with url } = shopReader url := fun _ => rfl
  simp only [hreader] at hlog
  exact ⟨hbrackets, hseconds, mt hmasked.1 hne, mt hlog.1 hne⟩

/-- The masked connection string shows the parameter. -/
theorem not_forall_parameter_masked :
    ¬ ∀ (f : ParameterFrame) (p q : List Char), '&' ∉ p → '#' ∉ p → '&' ∉ q → '#' ∉ q →
      maskPassword (f.url p) = maskPassword (f.url q) := by
  intro h
  have hsame := h shopParameter "s3cret".toList [] (by decide) (by decide) (by decide) (by decide)
  have hshown : maskPassword (shopParameter.url "s3cret".toList) =
      .ok
        "postgresql://app@db.internal/shop?sslmode=require&password=s3cret&connect_timeout=5" := by
    decide +kernel
  have hempty : maskPassword (shopParameter.url []) =
      .ok "postgresql://app@db.internal/shop?sslmode=require&password=&connect_timeout=5" := by
    decide +kernel
  rw [hshown, hempty] at hsame
  exact absurd (Except.ok.inj hsame) (by decide)

end SchemaStructs.Server
