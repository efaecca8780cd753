import SchemaStructs.Proofs.Outcome
import SchemaStructs.Server.Reader

/-!
# What a reader does to a server

A read opens a connection, sends its requests in one transaction and closes the connection. On an
open connection, whatever is asked is sent in order up to the first request that fails; so what is
done to the server is known from the requests alone, and the transaction and the connection are left
in any case.
-/

namespace SchemaStructs.Server

open Catalog

/-! ## Requests -/

/-- A query with what it is restricted to. -/
structure Request where
  query : Query
  parameters : Parameters

def Request.event (r : Request) : Event := .query r.query r.parameters

variable {server : Script} {reader : Reader}

/-- The requests that are sent: those up to the first that fails, with it. -/
def sent (server : Script) : List Request → List Request
  | [] => []
  | r :: rest => if (server.failure? r.query).isSome then [r] else r :: sent server rest

/-- The error of the first request that fails. -/
def firstFailure? (server : Script) : List Request → Option ReaderError
  | [] => none
  | r :: rest =>
    match server.failure? r.query with
    | some text => some (.queryFailed r.query (trimmed text))
    | none => firstFailure? server rest

@[simp] theorem sent_nil : sent server [] = [] := rfl

@[simp] theorem firstFailure?_nil : firstFailure? server [] = none := rfl

theorem firstFailure?_append (rs rs' : List Request) :
    firstFailure? server (rs ++ rs') = (firstFailure? server rs).or (firstFailure? server rs') := by
  induction rs with
  | nil => simp
  | cons r rest ih =>
    cases h : server.failure? r.query with
    | none => simp [firstFailure?, h, ih]
    | some text => simp [firstFailure?, h]

theorem sent_append_of_none {rs : List Request} (h : firstFailure? server rs = none)
    (rs' : List Request) : sent server (rs ++ rs') = sent server rs ++ sent server rs' := by
  induction rs with
  | nil => simp
  | cons r rest ih =>
    cases hr : server.failure? r.query with
    | none => simp [sent, hr, ih (by simpa [firstFailure?, hr] using h)]
    | some text => simp [firstFailure?, hr] at h

theorem sent_append_of_some {rs : List Request} {e : ReaderError}
    (h : firstFailure? server rs = some e) (rs' : List Request) :
    sent server (rs ++ rs') = sent server rs := by
  induction rs with
  | nil => cases h
  | cons r rest ih =>
    cases hr : server.failure? r.query with
    | none => simp [sent, hr, ih (by simpa [firstFailure?, hr] using h)]
    | some text => simp [sent, hr]

/-- Without failure everything is sent. -/
theorem sent_eq_self {rs : List Request} (h : firstFailure? server rs = none) :
    sent server rs = rs ∧ ∀ r ∈ rs, server.failure? r.query = none := by
  induction rs with
  | nil => simp
  | cons r rest ih =>
    cases hr : server.failure? r.query with
    | none =>
      obtain ⟨hsent, hnone⟩ := ih (by simpa [firstFailure?, hr] using h)
      refine ⟨by simp [sent, hr, hsent], ?_⟩
      simpa [hr] using hnone
    | some text => simp [firstFailure?, hr] at h

/-- A failure comes from the last request that is sent. -/
theorem exists_of_firstFailure? {rs : List Request} {e : ReaderError}
    (h : firstFailure? server rs = some e) :
    ∃ before r after text, rs = before ++ r :: after ∧ sent server rs = before ++ [r] ∧
      (∀ q ∈ before, server.failure? q.query = none) ∧ server.failure? r.query = some text ∧
      e = .queryFailed r.query (trimmed text) := by
  induction rs with
  | nil => cases h
  | cons r rest ih =>
    cases hr : server.failure? r.query with
    | none =>
      obtain ⟨before, r', after, text, rfl, hsent, hbefore, hfails, he⟩ :=
        ih (by simpa [firstFailure?, hr] using h)
      refine ⟨r :: before, r', after, text, rfl, by simp [sent, hr, hsent], ?_, hfails, he⟩
      simpa [hr] using hbefore
    | some text =>
      refine ⟨[], r, rest, text, rfl, by simp [sent, hr], by simp, hr, ?_⟩
      simpa [firstFailure?, hr] using h.symm

/-! ## Steps that ask -/

/-- On an open connection the step sends the requests until one fails, and gives `a` if none
does. -/
def Asks {α : Type} (server : Script) (step : Step α) (requests : List Request) (a : α) : Prop :=
  ∀ s : Session, s.connected = true → outcome step s =
    ((firstFailure? server requests).elim (.ok a) .error,
      { s with events := s.events ++ (sent server requests).map Request.event })

namespace Asks

variable {α β : Type} {step : Step α} {requests : List Request} {a : α}

theorem pure (a : α) : Asks server (Pure.pure a) [] a := by
  intro s _
  simp

theorem bind {f : α → Step β} {requests' : List Request} {b : β} (h : Asks server step requests a)
    (hf : Asks server (f a) requests' b) : Asks server (step >>= f) (requests ++ requests') b := by
  intro s hs
  have hstep := h s hs
  cases hfailure : firstFailure? server requests with
  | none =>
    rw [hfailure] at hstep
    have hopen : ({ s with events := s.events ++ (sent server requests).map Request.event } :
        Session).connected = true := hs
    rw [outcome_bind_of_ok hstep, hf _ hopen, firstFailure?_append, hfailure,
      sent_append_of_none hfailure, List.map_append, List.append_assoc]
    rfl
  | some e =>
    rw [hfailure] at hstep
    rw [outcome_bind_of_error hstep, firstFailure?_append, hfailure, sent_append_of_some hfailure]
    rfl

end Asks

/-- An open connection is not opened again. -/
theorem outcome_connect_of_connected {s : Session} (hs : s.connected = true) :
    outcome (connect server reader) s = (.ok (), s) := by
  unfold connect
  rw [outcome_bind_of_ok (outcome_get s), if_pos hs, outcome_pure]

theorem asks_fetch {α : Type} (query : Query) (parameters : Parameters) (rows : α) :
    Asks server (fetch server reader query parameters rows) [⟨query, parameters⟩] rows := by
  intro s hs
  unfold fetch
  rw [outcome_bind_of_ok (outcome_connect_of_connected hs), Step.record,
    outcome_bind_of_ok (outcome_modify _ s)]
  cases h : server.failure? query with
  | none => simp [firstFailure?, sent, h, Request.event]
  | some text => simp [firstFailure?, sent, h, Request.event]

theorem Asks.fetch_bind {α β : Type} {query : Query} {parameters : Parameters} {rows : α}
    {f : α → Step β} {rs : List Request} {b : β} (h : Asks server (f rows) rs b) :
    Asks server (fetch server reader query parameters rows >>= f) (⟨query, parameters⟩ :: rs) b :=
  (asks_fetch query parameters rows).bind h

/-- The requests for what belongs to tables, if there are any. -/
def tableRequests (oids : List Oid) : List Request :=
  if oids.isEmpty then []
  else [⟨.columns, .tables oids⟩, ⟨.keys, .tables oids⟩, ⟨.foreignKeys, .tables oids⟩]

/-- The oids of the tables that the server has for a reader. -/
def tableOids (server : Script) (reader : Reader) : List Oid :=
  (server.tablesIn reader.relationKinds reader.schemas).map (·.oid)

/-- All requests of one read, in their order. -/
def requests (server : Script) (reader : Reader) : List Request :=
  [⟨.types, .none⟩, ⟨.labels, .none⟩, ⟨.attributes, .none⟩,
    ⟨.tables, .relations reader.relationKinds reader.schemas⟩] ++
  tableRequests (tableOids server reader) ++ [⟨.serverVersion, .none⟩]

/-- What a server captures for a reader if no query fails. -/
def answers (server : Script) (reader : Reader) : Capture where
  types := .ofRows server.types server.labels server.attributes
  tables := {
    tables := server.tablesIn reader.relationKinds reader.schemas
    columns := server.columnsOf (tableOids server reader)
    keys := server.keysOf (tableOids server reader)
    foreignKeys := server.foreignKeysOf (tableOids server reader) }
  version := server.version
  typeCount := server.types.length

theorem asks_capture (server : Script) (reader : Reader) :
    Asks server (capture server reader) (requests server reader) (answers server reader) := by
  unfold capture
  by_cases hoids : tableOids server reader = []
  · have hanswers : answers server reader = {
        types := .ofRows server.types server.labels server.attributes
        tables := { tables := server.tablesIn reader.relationKinds reader.schemas }
        version := server.version
        typeCount := server.types.length } := by
      simp [answers, hoids, Script.columnsOf, Script.keysOf, Script.foreignKeysOf]
    rw [hanswers, requests, tableRequests, hoids]
    refine .fetch_bind (.fetch_bind (.fetch_bind (.fetch_bind ?_)))
    rw [tableOids] at hoids
    simp only [hoids, List.isEmpty_nil, if_true]
    exact .bind (.pure _) (.fetch_bind (.pure _))
  · rw [requests, tableRequests, if_neg (by simpa using hoids)]
    refine .fetch_bind (.fetch_bind (.fetch_bind (.fetch_bind ?_)))
    rw [tableOids] at hoids
    simp only [List.isEmpty_iff, hoids, if_false]
    refine .fetch_bind (.fetch_bind (.fetch_bind ?_))
    exact .bind (.pure _) (.fetch_bind (.pure _))

/-! ## Steps that end in any case -/

/-- A last step that succeeds keeps the result. -/
theorem outcome_andFinally {α : Type} {step : Step α} {last : Step Unit} {s s' s'' : Session}
    {result : Except ReaderError α} (h : outcome step s = (result, s'))
    (hlast : outcome last s' = (.ok (), s'')) :
    outcome (step.andFinally last) s = (result, s'') := by
  have hrun : outcome (liftM (ExceptT.run step) : Step (Except ReaderError α)) s =
      (.ok result, s') := by
    show (Except.ok (outcome step s).1, (outcome step s).2) = _
    rw [h]
  unfold Step.andFinally
  rw [outcome_bind_of_ok hrun, outcome_bind_of_ok hlast]
  rfl

theorem outcome_close_of_connected {s : Session} (hs : s.connected = true) :
    outcome close s = (.ok (), { s with connected := false, events := s.events ++ [.close] }) := by
  unfold close
  rw [outcome_bind_of_ok (outcome_get s), if_pos hs]
  rfl

theorem outcome_close_of_not_connected {s : Session} (hs : s.connected = false) :
    outcome close s = (.ok (), s) := by
  unfold close
  rw [outcome_bind_of_ok (outcome_get s), if_neg (by simp [hs])]
  rfl

/-- A transaction starts before the requests of its step and is rolled back after them. -/
theorem outcome_inTransaction (reader : Reader) {α : Type} {step : Step α} {requests : List Request}
    {a : α} (h : Asks server step requests a) {s : Session} (hs : s.connected = true) :
    outcome (inTransaction server reader step) s =
      ((firstFailure? server requests).elim (.ok a) .error,
        { s with events := s.events ++ [.session "REPEATABLE READ" true] ++
          (sent server requests).map Request.event ++ [.rollback] }) := by
  unfold inTransaction
  rw [outcome_bind_of_ok (outcome_connect_of_connected hs), Step.record,
    outcome_bind_of_ok (outcome_modify _ s)]
  exact outcome_andFinally (h _ hs) rfl

/-! ## Opening a connection -/

/-- The server can be reached and is not too old, if it tells its version. -/
structure Script.Accepts (server : Script) : Prop where
  reachable : server.connectError = none
  recent : ∀ version, server.versionNumber = some version → ¬ version < minimumVersion

/-- What is logged before a connection is opened. -/
def connecting (masked : String) (seconds : Int) : Record :=
  .info s!"Connecting to {masked} (timeout {seconds}s)"

section Opening

variable {masked : String} {seconds : Int} {s : Session}

theorem outcome_connect_of_unmasked {e : Connection.UrlError}
    (hmasked : Connection.maskPassword reader.url = .error e) (hs : s.connected = false) :
    outcome (connect server reader) s = (.error (.malformedUrl e), s) := by
  unfold connect
  rw [outcome_bind_of_ok (outcome_get s), if_neg (by simp [hs]), hmasked]
  rfl

theorem outcome_connect_of_endless (hmasked : Connection.maskPassword reader.url = .ok masked)
    {e : Config.SecondsError} (hseconds : Config.wholeSeconds reader.timeout = .error e)
    (hs : s.connected = false) :
    outcome (connect server reader) s = (.error (.timeout e), s) := by
  unfold connect
  rw [outcome_bind_of_ok (outcome_get s), if_neg (by simp [hs]), hmasked, hseconds]
  rfl

theorem outcome_connect_of_unreachable (hmasked : Connection.maskPassword reader.url = .ok masked)
    (hseconds : Config.wholeSeconds reader.timeout = .ok seconds) {text : String}
    (hunreachable : server.connectError = some text) (hs : s.connected = false) :
    outcome (connect server reader) s = (.error (.unreachable masked (trimmed text) seconds),
      { connected := false
        events := s.events ++ [.connect reader.url seconds]
        log := s.log ++ [connecting masked seconds] }) := by
  unfold connect
  rw [outcome_bind_of_ok (outcome_get s), if_neg (by simp [hs]), hmasked, hseconds, hunreachable,
    ← hs]
  rfl

theorem outcome_connect_of_tooOld (hmasked : Connection.maskPassword reader.url = .ok masked)
    (hseconds : Config.wholeSeconds reader.timeout = .ok seconds)
    (hreachable : server.connectError = none) {version : Int}
    (hversion : server.versionNumber = some version) (hold : version < minimumVersion)
    (hs : s.connected = false) :
    outcome (connect server reader) s = (.error (.serverTooOld version),
      { connected := false
        events := s.events ++ [.connect reader.url seconds] ++ [.close]
        log := s.log ++ [connecting masked seconds] }) := by
  unfold connect
  rw [outcome_bind_of_ok (outcome_get s), if_neg (by simp [hs]), hmasked, hseconds, hreachable,
    hversion]
  dsimp only
  rw [if_pos hold]
  rfl

theorem outcome_connect_of_accepts (hmasked : Connection.maskPassword reader.url = .ok masked)
    (hseconds : Config.wholeSeconds reader.timeout = .ok seconds) (haccepts : server.Accepts)
    (hs : s.connected = false) :
    outcome (connect server reader) s = (.ok (),
      { connected := true
        events := s.events ++ [.connect reader.url seconds]
        log := s.log ++ [connecting masked seconds] }) := by
  unfold connect
  rw [outcome_bind_of_ok (outcome_get s), if_neg (by simp [hs]), hmasked, hseconds,
    haccepts.reachable]
  cases hversion : server.versionNumber with
  | none => rfl
  | some version =>
    dsimp only
    rw [if_neg (haccepts.recent version hversion)]
    rfl

end Opening

/-! ## A whole read -/

/-- How a read ends, with what it has done to the server. Either it is not let in; or it sends its
requests in one transaction, up to the first that fails. -/
inductive Course (server : Script) (reader : Reader) (seconds : Int) :
    Except ReaderError Snapshot → List Event → Prop
  | unreachable {masked text : String} (hmasked : Connection.maskPassword reader.url = .ok masked)
      (herror : server.connectError = some text) :
      Course server reader seconds (.error (.unreachable masked (trimmed text) seconds))
        [.connect reader.url seconds]
  | tooOld {version : Int} (hreachable : server.connectError = none)
      (hversion : server.versionNumber = some version) (hold : version < minimumVersion) :
      Course server reader seconds (.error (.serverTooOld version))
        [.connect reader.url seconds, .close]
  | stopped {before after : List Request} {r : Request} {text : String} (haccepts : server.Accepts)
      (hrequests : requests server reader = before ++ r :: after)
      (hbefore : ∀ q ∈ before, server.failure? q.query = none)
      (hfails : server.failure? r.query = some text) :
      Course server reader seconds (.error (.queryFailed r.query (trimmed text)))
        ([.connect reader.url seconds, .session "REPEATABLE READ" true] ++
          (before ++ [r]).map Request.event ++ [.rollback, .close])
  | complete (haccepts : server.Accepts)
      (hanswered : ∀ r ∈ requests server reader, server.failure? r.query = none) :
      Course server reader seconds ((answers server reader).snapshot.mapError .resolution)
        ([.connect reader.url seconds, .session "REPEATABLE READ" true] ++
          (requests server reader).map Request.event ++ [.rollback, .close])

/-- With an open connection the requests are sent in a transaction; what they say may still have no
resolution. -/
theorem outcome_readCatalog_of_accepts {masked : String} {seconds : Int}
    (hmasked : Connection.maskPassword reader.url = .ok masked)
    (hseconds : Config.wholeSeconds reader.timeout = .ok seconds) (haccepts : server.Accepts)
    {s : Session} (hs : s.connected = false) :
    ∃ log, outcome (readCatalog server reader) s =
      ((firstFailure? server (requests server reader)).elim
          ((answers server reader).snapshot.mapError .resolution) .error,
        { connected := true
          events := s.events ++ [.connect reader.url seconds] ++ [.session "REPEATABLE READ"
            true] ++ (sent server (requests server reader)).map Request.event ++ [.rollback]
          log }) := by
  have hconnect := outcome_connect_of_accepts hmasked hseconds haccepts hs
  have hcapture := outcome_inTransaction reader (asks_capture server reader) (s := {
    connected := true
    events := s.events ++ [.connect reader.url seconds]
    log := s.log ++ [connecting masked seconds] }) rfl
  unfold readCatalog
  rw [outcome_bind_of_ok hconnect]
  cases hfailure : firstFailure? server (requests server reader) with
  | none =>
    rw [hfailure] at hcapture
    refine ⟨s.log ++ [connecting masked seconds] ++ (answers server reader).log, ?_⟩
    rw [outcome_bind_of_ok hcapture]
    rfl
  | some e =>
    rw [hfailure] at hcapture
    refine ⟨s.log ++ [connecting masked seconds], ?_⟩
    rw [outcome_bind_of_error hcapture]
    rfl

/-- A read takes one of these courses and leaves no connection open. -/
theorem course_readAndClose (server : Script) (reader : Reader) {masked : String} {seconds : Int}
    (hmasked : Connection.maskPassword reader.url = .ok masked)
    (hseconds : Config.wholeSeconds reader.timeout = .ok seconds) {s : Session}
    (hs : s.connected = false) :
    ∃ result events log,
      outcome (readAndClose server reader) s =
        (result, { connected := false, events := s.events ++ events, log }) ∧
      Course server reader seconds result events := by
  cases hreachable : server.connectError with
  | some text =>
    have hconnect := outcome_connect_of_unreachable hmasked hseconds hreachable hs
    refine ⟨_, _, s.log ++ [connecting masked seconds], ?_, .unreachable hmasked hreachable⟩
    exact outcome_andFinally (outcome_bind_of_error hconnect) (outcome_close_of_not_connected rfl)
  | none =>
    by_cases hrecent : ∀ version, server.versionNumber = some version → ¬ version < minimumVersion
    · have haccepts : server.Accepts := ⟨hreachable, hrecent⟩
      obtain ⟨log, hread⟩ := outcome_readCatalog_of_accepts hmasked hseconds haccepts hs
      have hclosed := outcome_andFinally hread (outcome_close_of_connected rfl)
      cases hfailure : firstFailure? server (requests server reader) with
      | none =>
        obtain ⟨hsent, hanswered⟩ := sent_eq_self hfailure
        rw [hfailure, hsent] at hclosed
        refine ⟨_, _, log, ?_, .complete haccepts hanswered⟩
        unfold readAndClose
        rw [hclosed]
        simp
      | some e =>
        obtain ⟨before, r, after, text, hrequests, hsent, hbefore, hfails, rfl⟩ :=
          exists_of_firstFailure? hfailure
        rw [hfailure, hsent] at hclosed
        refine ⟨_, _, log, ?_, .stopped haccepts hrequests hbefore hfails⟩
        unfold readAndClose
        rw [hclosed]
        simp
    · obtain ⟨version, hversion, hold⟩ : ∃ version, server.versionNumber = some version ∧
          version < minimumVersion := by simpa using hrecent
      have hconnect := outcome_connect_of_tooOld hmasked hseconds hreachable hversion hold hs
      refine ⟨_, _, s.log ++ [connecting masked seconds], ?_, .tooOld hreachable hversion hold⟩
      rw [List.append_assoc] at hconnect
      exact outcome_andFinally (outcome_bind_of_error hconnect) (outcome_close_of_not_connected rfl)

end SchemaStructs.Server
