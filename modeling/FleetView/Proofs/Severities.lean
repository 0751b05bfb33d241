/-
This file follows the status of a check from the reply that states it to the severity of
the event. Every integer stands for a severity, but only integers of 32 bits are read. A
reply that would be read with zero for every status is read as it is exactly when all its
statuses are such integers, and then its events are the same but for their severities.
Where one status is out of that range the poll fails, and with it all that the datacenter
has reported.
-/

import FleetView.Proofs.Arrivals
import FleetView.Proofs.Losses
import FleetView.Proofs.Replacing
import FleetView.Proofs.Summaries

namespace FleetView

/-- The severity that a status stands for. -/
inductive Severity.Means : Int → Severity → Prop
  | ok : Means 0 .ok
  | warning : Means 1 .warning
  | critical : Means 2 .critical
  | unknown {status : Int} (beyond : status ∉ [0, 1, 2]) : Means status .unknown

theorem Severity.means_ofStatus (status : Int) : Means status (ofStatus status) := by
  unfold ofStatus
  split_ifs with zero one two
  · exact zero ▸ .ok
  · exact one ▸ .warning
  · exact two ▸ .critical
  · exact .unknown (by simp [zero, one, two])

/-! ### Statuses in documents -/

namespace Document

/-- Changes the items, where the document is an array. -/
def atItems (change : Document → Document) : Document → Document
  | .array items ending => .array (items.map change) ending
  | other => other

/-- The items, where the document is an array. -/
def items : Document → List Document
  | .array items _ => items
  | _ => []

/-- The result of a check with zero for its status. -/
def calmCheck (check : Document) : Document :=
  check.atMember "status" fun _ => .number (.integer 0)

/-- An event with zero for the status of its check. -/
def calmEvent (event : Document) : Document := event.atMember "check" calmCheck

/-- What an event has for the status of its check. -/
def status? (event : Document) : Option Document :=
  (event.member? "check").bind (·.member? "status")

/-- The status of an event: an integer of 32 bits, or zero where none is stated. -/
inductive Rated (event : Document) : Int → Prop
  | stated {status : Int} (there : event.status? = some (.number (.integer status)))
      (low : -2 ^ 31 ≤ status) (high : status < 2 ^ 31) : Rated event status
  | silent (missing : event.status? = none) : Rated event 0

/-- Every status that is stated in a list of events is an integer of 32 bits. -/
def WordStatuses (reply : Document) : Prop :=
  ∀ event ∈ reply.items, ∀ content, event.status? = some content →
    ∃ status : Int, content = .number (.integer status) ∧ -2 ^ 31 ≤ status ∧ status < 2 ^ 31

end Document

theorem Decoder.i32_eq_ok_iff {source : Source} {content : Document} {value : Int} :
    i32 source content = .ok value ↔
      content = .number (.integer value) ∧ -2 ^ 31 ≤ value ∧ value < 2 ^ 31 := by
  have bounds : (Word.count 31 : Int) = 2 ^ 31 := by decide
  constructor
  · intro decoded
    have within := bounds_of_integer_eq_ok decoded
    rw [i32, integer.eq_def] at decoded
    split at decoded
    · split at decoded
      · exact ⟨by rw [Except.ok.inj decoded], by omega, by omega⟩
      · cases decoded
    · exact absurd decoded (mismatch_ne_ok _ _ _)
  · rintro ⟨rfl, low, high⟩
    exact if_pos ⟨by omega, by omega⟩

namespace Report

/-! ### Statuses in reports -/

/-- The result of a check gets its status from the member of that name. -/
theorem EventCheck.exists_record :
    ∃ record : Record (Bag → EventCheck), EventCheck.decoder = record.opened "RawEventCheck" ∧
      record.Puts "status" ⟨some 0, some 0⟩ .i32 fun status check => { check with status } := by
  refine ⟨_, rfl, by decide, fun content => ?_, fun find other build result same fine => ?_⟩
  · simp [Record.required, Record.defaulted, Record.field, map_eq_ok_iff, mapError_eq_ok_iff]
  · simp (disch := decide) only [Record.required, Record.defaulted,
      Record.fromMembers_field_eq_ok_iff, Record.fromMembers_of_eq_ok_iff, exists_eq_left',
      Record.member_congr same] at fine ⊢
    obtain ⟨_, ⟨_, ⟨_, ⟨name, nameRead, rfl⟩, _, -, rfl⟩, output, outputRead, rfl⟩, subscribers,
      subscribersRead, rfl⟩ := fine
    simp only [nameRead, outputRead, subscribersRead, Except.ok.injEq, exists_eq_left']
    simp [eq_comm]

/-- An event gets the result of its check from the member of that name. -/
theorem Event.exists_record :
    ∃ record : Record (Bag → Event), Event.decoder = record.opened "RawEvent" ∧
      record.Puts "check" ⟨none, none⟩ EventCheck.decoder
        fun check event => { event with check } := by
  refine ⟨_, rfl, by decide, fun content => ?_, fun find other build result same fine => ?_⟩
  · simp [Record.required, Record.defaulted, Record.field, map_eq_ok_iff, mapError_eq_ok_iff]
  · simp (disch := decide) only [Record.required, Record.defaulted,
      Record.fromMembers_field_eq_ok_iff, Record.fromMembers_of_eq_ok_iff, exists_eq_left',
      Record.member_congr same] at fine ⊢
    obtain ⟨_, ⟨_, ⟨_, ⟨_, ⟨_, ⟨_, ⟨id, idRead, rfl⟩, client, clientRead, rfl⟩, _, -, rfl⟩,
      occurrences, occurrencesRead, rfl⟩, action, actionRead, rfl⟩, timestamp, timestampRead,
      rfl⟩, silenced, silencedRead, rfl⟩ := fine
    simp only [idRead, clientRead, occurrencesRead, actionRead, timestampRead, silencedRead,
      Except.ok.injEq, exists_eq_left']
    simp [eq_comm]

/-- The report of an event with another status. -/
def Event.rated (status : Int) (report : Event) : Event :=
  { report with check := { report.check with status } }

theorem rated_iff {event check : Document} (there : event.member? "check" = some check)
    {status : Int} :
    event.Rated status ↔ check.Holds "status" ⟨some 0, some 0⟩ .i32 status := by
  have below : event.status? = check.member? "status" := by
    rw [Document.status?, there]
    rfl
  constructor
  · intro rated
    cases rated with
    | stated found low high =>
      exact Or.inl ⟨_, below.symm.trans found, Decoder.i32_eq_ok_iff.mpr ⟨rfl, low, high⟩⟩
    | silent missing => exact Or.inr ⟨below.symm.trans missing, rfl⟩
  · rintro (⟨content, found, decoded⟩ | ⟨missing, zero⟩)
    · obtain ⟨rfl, low, high⟩ := Decoder.i32_eq_ok_iff.mp decoded
      exact .stated (below.trans found) low high
    · rw [← Option.some.inj zero]
      exact .silent (below.trans missing)

/-- The check of an event that is read with zero for the status is read with zero for it. -/
theorem Event.exists_check {event : Document} {calm : Event}
    (fine : Event.decoder .text event.calmEvent = .ok calm) :
    ∃ check, event.member? "check" = some check ∧
      EventCheck.decoder .text check.calmCheck = .ok calm.check := by
  obtain ⟨record, same, puts⟩ := Event.exists_record
  rw [same] at fine
  obtain ⟨held, own, built⟩ := puts.holds_of_opened_eq_ok fine
  have field : calm.check = held := congrArg Event.check built
  rcases own with ⟨inner, there, decoded⟩ | ⟨-, clash⟩
  · rw [Document.calmEvent, Document.member?_atMember] at there
    obtain ⟨check, found, rfl⟩ := Option.map_eq_some_iff.mp there
    exact ⟨check, found, field ▸ decoded⟩
  · cases clash

/-- An event that is read with zero for the status has zero for it. -/
theorem Event.status_of_calm {event : Document} {calm : Event}
    (fine : Event.decoder .text event.calmEvent = .ok calm) : calm.check.status = 0 := by
  obtain ⟨check, -, checkFine⟩ := Event.exists_check fine
  obtain ⟨record, same, puts⟩ := EventCheck.exists_record
  rw [same] at checkFine
  obtain ⟨status, own, built⟩ := puts.holds_of_opened_eq_ok checkFine
  have field : calm.check.status = status := congrArg EventCheck.status built
  rw [field]
  rcases own with ⟨inner, there, decoded⟩ | ⟨-, zero⟩
  · rw [Document.calmCheck, Document.member?_atMember] at there
    obtain ⟨_, -, rfl⟩ := Option.map_eq_some_iff.mp there
    obtain ⟨stated, -⟩ := Decoder.i32_eq_ok_iff.mp decoded
    cases stated
    rfl
  · exact (Option.some.inj zero).symm

/-- An event that is read with zero for the status of its check is read as it is exactly when it is
rated, and then with that status and otherwise the same. -/
theorem Event.decoder_eq_ok_iff {event : Document} {calm report : Event}
    (fine : Event.decoder .text event.calmEvent = .ok calm) :
    Event.decoder .text event = .ok report ↔
      event.Rated report.check.status ∧ report.rated 0 = calm := by
  have zero := Event.status_of_calm fine
  obtain ⟨check, there, checkFine⟩ := Event.exists_check fine
  obtain ⟨record, same, puts⟩ := Event.exists_record
  obtain ⟨checkRecord, checkSame, checkPuts⟩ := EventCheck.exists_record
  have alone : ∀ held, event.Holds "check" ⟨none, none⟩ EventCheck.decoder held ↔
      ∃ status, event.Rated status ∧ held = { calm.check with status } := by
    intro held
    have own : event.Holds "check" ⟨none, none⟩ EventCheck.decoder held ↔
        EventCheck.decoder .text check = .ok held := by
      simp [Document.Holds, there]
    simp only [own, rated_iff there]
    rw [checkSame] at checkFine ⊢
    exact checkPuts.opened_eq_ok_iff checkFine
  rw [same] at fine ⊢
  rw [puts.opened_eq_ok_iff fine]
  simp only [alone]
  constructor
  · rintro ⟨_, ⟨status, rated, rfl⟩, rfl⟩
    refine ⟨rated, ?_⟩
    show calm.rated 0 = calm
    rw [← zero]
    rfl
  · rintro ⟨rated, rfl⟩
    exact ⟨_, ⟨report.check.status, rated, rfl⟩, rfl⟩

/-- Where events are read with zero for every status, each of them is. -/
theorem Event.items_of_calm {reply : Document} {calm : List Event}
    (fine : (Decoder.list Event.decoder) .text (reply.atItems Document.calmEvent) = .ok calm) :
    ∃ items ending, reply = .array items ending ∧ ending.inList = none ∧
      List.Forall₂ (fun event report => Event.decoder .text event.calmEvent = .ok report) items
        calm := by
  obtain ⟨_, ending, same, closed, each⟩ := Decoder.list_eq_ok_iff.mp fine
  cases reply with
  | array items _ =>
    cases same
    exact ⟨items, ending, rfl, closed, List.forall₂_map_left_iff.mp each⟩
  | _ => cases same

/-- Events that are read with zero for every status are read as they are exactly when all of them
are rated, and then with these statuses and otherwise the same. -/
theorem Event.list_eq_ok_iff {reply : Document} {calm reports : List Event}
    (fine : (Decoder.list Event.decoder) .text (reply.atItems Document.calmEvent) = .ok calm) :
    (Decoder.list Event.decoder) .text reply = .ok reports ↔
      List.Forall₂ (fun event report => event.Rated report.check.status) reply.items reports ∧
        reports.map (·.rated 0) = calm := by
  obtain ⟨items, ending, rfl, closed, each⟩ := Event.items_of_calm fine
  have together : ∀ reports,
      List.Forall₂ (fun event report => Event.decoder .text event = .ok report) items reports ↔
        List.Forall₂ (fun event report => event.Rated report.check.status) items reports ∧
          reports.map (·.rated 0) = calm := by
    clear fine
    induction each with
    | nil => simp
    | cons first _ inductionHypothesis =>
      simp only [List.forall₂_cons_left_iff, inductionHypothesis, Event.decoder_eq_ok_iff first]
      intro reports
      constructor
      · rintro ⟨report, others, ⟨rated, same⟩, ⟨all, rest⟩, rfl⟩
        exact ⟨⟨report, others, rated, all, rfl⟩, by rw [List.map_cons, same, rest]⟩
      · rintro ⟨⟨report, others, rated, all, rfl⟩, same⟩
        rw [List.map_cons, List.cons.injEq] at same
        exact ⟨report, others, ⟨rated, same.1⟩, ⟨all, same.2⟩, rfl⟩
  refine (Decoder.list_eq_ok_iff.trans ?_).trans (together reports)
  constructor
  · rintro ⟨_, _, ⟨⟩, -, all⟩
    exact all
  · exact fun all => ⟨items, ending, rfl, closed, all⟩

/-- Events that are read with zero for every status are read as they are exactly when every status
that is stated is an integer of 32 bits. -/
theorem Event.exists_list_iff {reply : Document} {calm : List Event}
    (fine : (Decoder.list Event.decoder) .text (reply.atItems Document.calmEvent) = .ok calm) :
    (∃ reports, (Decoder.list Event.decoder) .text reply = .ok reports) ↔ reply.WordStatuses := by
  constructor
  · rintro ⟨reports, read⟩ event listed content stated
    obtain ⟨report, -, rated⟩ := exists_left_of_forall₂ ((Event.list_eq_ok_iff fine).mp read).1.flip
      listed
    generalize report.check.status = status at rated
    cases rated with
    | stated there low high => exact ⟨_, Option.some.inj (stated.symm.trans there), low, high⟩
    | silent missing => cases stated.symm.trans missing
  · intro words
    obtain ⟨items, ending, rfl, closed, each⟩ := Event.items_of_calm fine
    have single : ∀ event ∈ items, ∃ report, Event.decoder .text event = .ok report := by
      intro event listed
      obtain ⟨calm, -, calmRead⟩ := exists_left_of_forall₂ each.flip listed
      have rated : ∃ status, event.Rated status := by
        cases stated : event.status? with
        | none => exact ⟨0, .silent stated⟩
        | some content =>
          obtain ⟨status, rfl, low, high⟩ := words event listed content stated
          exact ⟨status, .stated stated low high⟩
      obtain ⟨status, rated⟩ := rated
      refine ⟨calm.rated status, (Event.decoder_eq_ok_iff calmRead).mpr ⟨rated, ?_⟩⟩
      show calm.rated 0 = calm
      rw [← Event.status_of_calm calmRead]
      rfl
    obtain ⟨reports, read⟩ := exists_mapM_eq_ok single
    exact ⟨reports, Decoder.list_eq_ok_iff.mpr
      ⟨items, ending, rfl, closed, mapM_eq_ok_iff.mp read⟩⟩

end Report

/-! ### Replies -/

namespace Connection

/-- Two networks answer alike, but what one of them replies for the events is read as the reply of
the other with zero for every status. -/
structure Calms (connection : Connection) (network calm : Network) (reply : Document) : Prop where
  others : ∀ endpoint, endpoint ≠ .events → ∀ request,
    connection.asking endpoint = .ok request → network request = calm request
  events : ∀ request, connection.asking .events = .ok request → ∃ status body calmBody,
    network request = .reply status body ∧ calm request = .reply status calmBody ∧
    (Document.read (Text.Utf8.decodeLossy body)).content = reply ∧
    (Document.read (Text.Utf8.decodeLossy calmBody)).content = reply.atItems Document.calmEvent ∧
    (Document.read (Text.Utf8.decodeLossy body)).trailing =
      (Document.read (Text.Utf8.decodeLossy calmBody)).trailing

variable {connection : Connection} {network calm : Network} {reply : Document}

theorem Reads.unique {endpoint : Endpoint} {one other : List endpoint.Item}
    (reads : connection.Reads network endpoint one)
    (again : connection.Reads network endpoint other) : one = other := by
  cases (read_of_reads reads).symm.trans (read_of_reads again)
  rfl

namespace Calms

theorem reads (calms : connection.Calms network calm reply) {endpoint : Endpoint}
    (other : endpoint ≠ .events) {list : List endpoint.Item}
    (reads : connection.Reads calm endpoint list) : connection.Reads network endpoint list := by
  obtain ⟨request, status, body, made, replied, rest⟩ := reads
  exact ⟨request, status, body, made, (calms.others endpoint other request made).trans replied,
    rest⟩

/-- Where the events are read with zero for every status, their reply comes in full and with
success, and what it is read as decides. -/
theorem exists_reply (calms : connection.Calms network calm reply) {list : List Report.Event}
    (reads : connection.Reads calm .events list) :
    (Decoder.list Report.Event.decoder) .text (reply.atItems Document.calmEvent) = .ok list ∧
      ∃ request status body, connection.asking .events = .ok request ∧
        network request = .reply status body ∧ (200 ≤ status ∧ status ≤ 299) ∧
        ∀ events, Endpoint.events.decoder.list.fromText (Text.Utf8.decodeLossy body) = .ok events ↔
          (Decoder.list Report.Event.decoder) .text reply = .ok events := by
  obtain ⟨request, status, calmBody, made, replied, least, most, read⟩ := reads
  obtain ⟨_, body, _, answered, calmAnswered, content, calmContent, trailing⟩ :=
    calms.events request made
  cases replied.symm.trans calmAnswered
  obtain ⟨calmRead, alone⟩ := Decoder.fromText_eq_ok_iff.mp read
  rw [calmContent] at calmRead
  refine ⟨calmRead, request, status, body, made, answered, ⟨least, most⟩, fun events => ?_⟩
  rw [Decoder.fromText_eq_ok_iff, content, trailing, and_iff_left alone]
  rfl

/-- The events are read exactly as those that are rated by the reply and otherwise the same. -/
theorem reads_events_iff (calms : connection.Calms network calm reply)
    {list events : List Report.Event} (reads : connection.Reads calm .events list) :
    connection.Reads network .events events ↔
      List.Forall₂ (fun event report => event.Rated report.check.status) reply.items events ∧
        events.map (·.rated 0) = list := by
  obtain ⟨calmRead, request, status, body, made, replied, good, same⟩ := calms.exists_reply reads
  rw [← Report.Event.list_eq_ok_iff calmRead, ← same]
  constructor
  · rintro ⟨_, _, _, again, answered, -, -, read⟩
    cases made.symm.trans again
    cases replied.symm.trans answered
    exact read
  · exact fun read => ⟨request, status, body, made, replied, good.1, good.2, read⟩

/-- What a network delivers are events that are rated by the reply and otherwise the same, and
everything else the same. -/
theorem delivers_iff (calms : connection.Calms network calm reply) {calmFetched fetched : Fetched}
    (delivers : connection.Delivers calm calmFetched) :
    connection.Delivers network fetched ↔
      List.Forall₂ (fun event report => event.Rated report.check.status) reply.items
          fetched.events ∧
        { fetched with events := fetched.events.map (·.rated 0) } = calmFetched := by
  have calmReads := Connection.delivers_iff.mp delivers
  rw [Connection.delivers_iff]
  constructor
  · intro reads
    obtain ⟨rated, same⟩ := (calms.reads_events_iff (calmReads .events)).mp (reads .events)
    have others : ∀ endpoint : Endpoint, endpoint ≠ .events →
        endpoint.items fetched = endpoint.items calmFetched := fun endpoint other =>
      (reads endpoint).unique (calms.reads other (calmReads endpoint))
    refine ⟨rated, ?_⟩
    obtain ⟨checks, clients, events, aggregates, stashes, silences⟩ := calmFetched
    rw [Fetched.mk.injEq]
    exact ⟨others .checks nofun, others .clients nofun, same, others .aggregates nofun,
      others .stashes nofun, others .silenced nofun⟩
  · rintro ⟨rated, rfl⟩ endpoint
    by_cases about : endpoint = .events
    · subst about
      exact (calms.reads_events_iff (calmReads .events)).mpr ⟨rated, rfl⟩
    · have others := calms.reads about (calmReads endpoint)
      cases endpoint with
      | events => exact absurd rfl about
      | _ => exact others

/-- There is something to deliver exactly where every status that is stated is an integer of 32
bits. -/
theorem exists_delivers_iff (calms : connection.Calms network calm reply) {calmFetched : Fetched}
    (delivers : connection.Delivers calm calmFetched) :
    (∃ fetched, connection.Delivers network fetched) ↔ reply.WordStatuses := by
  obtain ⟨calmRead, -⟩ := calms.exists_reply (Connection.delivers_iff.mp delivers .events)
  rw [← Report.Event.exists_list_iff calmRead]
  simp only [calms.delivers_iff delivers, Report.Event.list_eq_ok_iff calmRead]
  constructor
  · rintro ⟨fetched, rated, same⟩
    exact ⟨fetched.events, rated, congrArg Fetched.events same⟩
  · rintro ⟨events, rated, same⟩
    refine ⟨{ calmFetched with events }, rated, ?_⟩
    show { calmFetched with events := events.map (·.rated 0) } = calmFetched
    rw [same]
    rfl

end Calms

end Connection

/-! ### Polls -/

/-- A slice whose events are rated by a reply, beside one in which every status is zero. -/
structure Slice.Rates (slice calm : Slice) (datacenter : String) (reply : Document)
    (reports : List Report.Event) : Prop where
  reachable : slice.status.isReachable = true
  status : slice.status = calm.status
  /-- Each reported event has the status that the reply states for it. -/
  stated : List.Forall₂ (fun event report => event.Rated report.check.status) reply.items reports
  /-- The events are the reported ones, as ever without what repeats an earlier key. -/
  kept : slice.data.events = withoutRepeats (fun event => Event.keyOf event.client event.check)
    (reports.map (·.tagged datacenter))
  severe : ∀ report ∈ reports,
    Severity.Means report.check.status (report.tagged datacenter).severity
  /-- But for the severities everything is the same. -/
  same : { slice.data with
    events := slice.data.events.map fun event => { event with severity := .ok } } = calm.data

/-- What a poll leaves where the statuses of the events are replied as they are, beside what it
would leave with zero for every status. -/
structure Snapshot.Rates (snapshot calm : Snapshot) (datacenter : String) (reply : Document)
    (now : Instant) (carried : Collections) : Prop where
  reachable : (∃ slice, snapshot.slice? datacenter = some slice ∧
    slice.status.isReachable = true) ↔ reply.WordStatuses
  rated : reply.WordStatuses → ∃ slice calmSlice reports,
    snapshot.slice? datacenter = some slice ∧ calm.slice? datacenter = some calmSlice ∧
      slice.Rates calmSlice datacenter reply reports
  lost : ¬ reply.WordStatuses → ∃ reason,
    snapshot.slice? datacenter = some ⟨Status.unreachable datacenter reason now, carried⟩
  counted : ∀ severity count, (severity, count) ∈ snapshot.metrics.eventsBySeverity ↔
    (snapshot.list .event).countP (·.isOfSeverity severity) = count ∧ count ≠ 0

/-- The data of a datacenter are the same but for the severities where the reports are the same but
for the statuses. -/
theorem Collections.ofFetched_calm (datacenter : String) (fetched : Fetched) :
    { ofFetched datacenter fetched with
        events := (ofFetched datacenter fetched).events.map
          fun event => { event with severity := .ok } } =
      ofFetched datacenter { fetched with events := fetched.events.map (·.rated 0) } := by
  have events :
      (ofFetched datacenter fetched).events.map (fun event => { event with severity := .ok }) =
      (ofFetched datacenter { fetched with events := fetched.events.map (·.rated 0) }).events := by
    show (keepFirst _ [] (fetched.events.map _)).map _ =
      keepFirst _ [] ((fetched.events.map _).map _)
    rw [keepFirst_map, List.map_map, List.map_map, keepFirst_map]
    rfl
  exact congrArg (fun events => { ofFetched datacenter fetched with events }) events

namespace Dashboard

variable {setup : Setup} {dashboard : Dashboard}

/-- One poll of a datacenter whose reply for the events would be read if every status were zero.
With the statuses as they are it succeeds exactly when each one is an integer of 32 bits, and then
every event has the severity of its status and is otherwise the same; with any other status the poll
fails and nothing of it is shown. The counts go by these severities. -/
theorem severities_of_statuses (reached : Reachable setup dashboard) {datacenter : Datacenter}
    (registered : datacenter ∈ setup.registry.datacenters) {networks calm : Networks}
    {reply : Document}
    (calms : (datacenter.backend setup.policy).connection.Calms (networks datacenter.name)
      (calm datacenter.name) reply) {calmFetched : Fetched}
    (accepted : (datacenter.backend setup.policy).connection.Delivers (calm datacenter.name)
      calmFetched) (now : Instant) :
    (dashboard.pollOnce networks now).snapshot.Rates (dashboard.pollOnce calm now).snapshot
      datacenter.name reply now
      (((if setup.policy.retainStaleData then dashboard.snapshot.slice? datacenter.name
        else none).map (·.data)).getD Collections.empty) := by
  have rated : reply.WordStatuses → ∃ slice calmSlice reports,
      (dashboard.pollOnce networks now).snapshot.slice? datacenter.name = some slice ∧
        (dashboard.pollOnce calm now).snapshot.slice? datacenter.name = some calmSlice ∧
          slice.Rates calmSlice datacenter.name reply reports := by
    intro words
    obtain ⟨fetched, delivers⟩ := (calms.exists_delivers_iff accepted).mpr words
    obtain ⟨stated, rfl⟩ := (calms.delivers_iff accepted).mp delivers
    refine ⟨_, _, fetched.events, reached.slice?_pollOnce_of_delivers registered delivers now,
      reached.slice?_pollOnce_of_delivers registered accepted now, rfl, rfl, stated,
      (Collections.ofFetched_thinned _ _).events, fun report _ => Severity.means_ofStatus _,
      Collections.ofFetched_calm _ _⟩
  have lost : ¬ reply.WordStatuses → ∃ reason,
      (dashboard.pollOnce networks now).snapshot.slice? datacenter.name =
        some ⟨Status.unreachable datacenter.name reason now,
          ((if setup.policy.retainStaleData then dashboard.snapshot.slice? datacenter.name
            else none).map (·.data)).getD Collections.empty⟩ := by
    intro strange
    cases polled : (datacenter.backend setup.policy).poll (networks datacenter.name) with
    | ok fetched =>
      exact absurd ((calms.exists_delivers_iff accepted).mp
        ⟨fetched, Backend.poll_eq_ok_iff.mp polled⟩) strange
    | error reason => exact ⟨reason, reached.slice?_pollOnce_of_error registered polled now⟩
  refine ⟨⟨?_, fun words => ?_⟩, rated, lost, fun _ _ => Snapshot.mem_eventsBySeverity_iff _⟩
  · rintro ⟨slice, there, reachable⟩
    by_contra strange
    obtain ⟨reason, failed⟩ := lost strange
    rw [Option.some.inj (there.symm.trans failed)] at reachable
    cases reachable
  · obtain ⟨slice, _, _, there, -, rates⟩ := rated words
    exact ⟨slice, there, rates.reachable⟩

end Dashboard

namespace Sample

/-- The event of a check on a client, with a status. -/
def statedEvent (check : String) (status : Int) : Json :=
  .object
    [("client", .object [("name", .string "web")]),
     ("check", .object [("name", .string check), ("status", .int status)])]

/-- The report of the events of two checks, with a status each. -/
def statedEvents (cpu disk : Int) : Json :=
  .array [statedEvent "cpu" cpu, statedEvent "disk" disk]

/-- Networks in which that is what is replied for the events. -/
def stating (cpu disk : Int) : Networks := reporting "events" (statedEvents cpu disk).compact

theorem legible_statedEvents {cpu disk : Int} (cpuWhole : (Number.integer cpu).Whole)
    (diskWhole : (Number.integer disk).Whole) :
    (Document.ofJson (statedEvents cpu disk)).Legible Number.Whole JsonText.depthLimit := by
  have depth : (Document.ofJson (statedEvents cpu disk)).depth = 3 := rfl
  have numbers : (Document.ofJson (statedEvents cpu disk)).parts.filterMap Document.number? =
      [.integer cpu, .integer disk] := rfl
  refine ⟨depth ▸ by decide, Document.whole_iff.mpr ?_⟩
  rw [numbers]
  exact List.forall_mem_cons.mpr ⟨cpuWhole, List.forall_mem_singleton.mpr diskWhole⟩

theorem calms_stating {cpu disk : Int} (cpuWhole : (Number.integer cpu).Whole)
    (diskWhole : (Number.integer disk).Whole) :
    (east.backend setup.policy).connection.Calms (stating cpu disk "east") (stating 0 0 "east")
      (Document.ofJson (statedEvents cpu disk)) := by
  have path : ∀ endpoint request,
      (east.backend setup.policy).connection.asking endpoint = .ok request →
        request.url.path = .segments [endpoint.collection] := by
    intro endpoint request asked
    have known : ((east.backend setup.policy).connection.asking endpoint).toOption.map
        (·.url.path) = some (.segments [endpoint.collection]) := by
      cases endpoint <;> decide +kernel
    rw [asked] at known
    exact Option.some.inj known
  constructor
  case others =>
    intro endpoint other request asked
    have elsewhere : request.url.path ≠ .segments ["events"] := by
      rw [path endpoint request asked]
      cases endpoint <;> first | exact absurd rfl other | decide
    simp only [stating, reporting, if_neg elsewhere]
  case events =>
    intro request asked
    have answered : ∀ cpu disk, stating cpu disk "east" request =
        .reply 200 (Text.Utf8.encode (statedEvents cpu disk).compact) := fun cpu disk => by
      simp only [stating, reporting, path _ request asked, Endpoint.collection, if_true]
    have zero : (Number.integer 0).Whole := by decide
    refine ⟨200, _, _, answered cpu disk, answered 0 0, ?_⟩
    rw [Text.Utf8.decodeLossy_encode, Text.Utf8.decodeLossy_encode,
      Document.read_compact (legible_statedEvents cpuWhole diskWhole),
      Document.read_compact (legible_statedEvents zero zero)]
    exact ⟨rfl, rfl, rfl⟩

theorem status?_statedEvent (check : String) (status : Int) :
    (Document.ofJson (statedEvent check status)).status? = some (.number (.integer status)) := rfl

theorem wordStatuses_statedEvents_iff {cpu disk : Int} :
    (Document.ofJson (statedEvents cpu disk)).WordStatuses ↔
      ∀ status ∈ [cpu, disk], -2 ^ 31 ≤ status ∧ status < 2 ^ 31 := by
  have items : (Document.ofJson (statedEvents cpu disk)).items =
      [statedEvent "cpu" cpu, statedEvent "disk" disk].map Document.ofJson := rfl
  simp [Document.WordStatuses, items, status?_statedEvent]

/-- What a poll finds where both statuses are zero. -/
def calmFetched : Fetched :=
  ⟨[], [], ["cpu", "disk"].map fun check =>
    ⟨none, ⟨"web", none, [], none, none, []⟩, ⟨check, 0, none, [], []⟩, 0, none, none, false, []⟩,
    [], [], []⟩

theorem delivers_calm :
    (east.backend setup.policy).connection.Delivers (stating 0 0 east.name) calmFetched :=
  Backend.poll_eq_ok_iff.mp (eq_ok_of_toOption_eq_some (by decide +kernel))

end Sample

namespace Dashboard

/-- A critical event, and one of a status that has no name. -/
theorem severities_of_statuses_stated :
    Reachable Sample.setup Sample.fresh ∧ Sample.east ∈ Sample.setup.registry.datacenters ∧
      (Sample.east.backend Sample.setup.policy).connection.Calms (Sample.stating 2 (-7) "east")
        (Sample.stating 0 0 "east") (Document.ofJson (Sample.statedEvents 2 (-7))) ∧
      (Sample.east.backend Sample.setup.policy).connection.Delivers (Sample.stating 0 0 "east")
        Sample.calmFetched ∧
      (∃ slice, (Sample.fresh.pollOnce (Sample.stating 2 (-7)) ⟨1, 0⟩).snapshot.slice? "east" =
          some slice ∧ slice.status.isReachable = true) ∧
      ∀ severity ∈ [Severity.critical, Severity.unknown], (severity, 1) ∈
        (Sample.fresh.pollOnce (Sample.stating 2 (-7))
          ⟨1, 0⟩).snapshot.metrics.eventsBySeverity := by
  have registered : Sample.east ∈ Sample.setup.registry.datacenters := List.mem_singleton_self _
  have calms := Sample.calms_stating (by decide : (Number.integer 2).Whole)
    (by decide : (Number.integer (-7)).Whole)
  have rates := severities_of_statuses Sample.reachable_fresh registered calms
    Sample.delivers_calm ⟨1, 0⟩
  have words := Sample.wordStatuses_statedEvents_iff.mpr
    (by decide : ∀ status ∈ [2, -7], -2 ^ 31 ≤ status ∧ status < (2 : Int) ^ 31)
  refine ⟨Sample.reachable_fresh, registered, calms, Sample.delivers_calm,
    rates.reachable.mpr words,
    fun severity listed => (rates.counted severity 1).mpr ⟨?_, by decide⟩⟩
  revert severity
  decide +kernel

/-- With the first integer that is beyond 32 bits nothing of the reply is shown, although it would
be with zero in its place. -/
theorem status_beyond_word_lost :
    Reachable Sample.setup Sample.fresh ∧ Sample.east ∈ Sample.setup.registry.datacenters ∧
      (Sample.east.backend Sample.setup.policy).connection.Calms
        (Sample.stating 2147483648 0 "east") (Sample.stating 0 0 "east")
        (Document.ofJson (Sample.statedEvents 2147483648 0)) ∧
      (Sample.east.backend Sample.setup.policy).connection.Delivers (Sample.stating 0 0 "east")
        Sample.calmFetched ∧
      (∀ fetched, ¬ (Sample.east.backend Sample.setup.policy).connection.Delivers
        (Sample.stating 2147483648 0 "east") fetched) ∧
      ∃ slice, (Sample.fresh.pollOnce (Sample.stating 2147483648 0) ⟨1, 0⟩).snapshot.slice? "east" =
          some slice ∧
        slice.status.isReachable = false ∧ slice.data.events = [] := by
  have registered : Sample.east ∈ Sample.setup.registry.datacenters := List.mem_singleton_self _
  have calms := Sample.calms_stating (by decide : (Number.integer 2147483648).Whole)
    (by decide : (Number.integer 0).Whole)
  have strange : ¬ (Document.ofJson (Sample.statedEvents 2147483648 0)).WordStatuses := by
    rw [Sample.wordStatuses_statedEvents_iff]
    decide
  have lost : ∀ fetched, ¬ (Sample.east.backend Sample.setup.policy).connection.Delivers
      (Sample.stating 2147483648 0 "east") fetched := fun fetched delivers =>
    strange ((calms.exists_delivers_iff Sample.delivers_calm).mp ⟨fetched, delivers⟩)
  refine ⟨Sample.reachable_fresh, registered, calms, Sample.delivers_calm, lost, ?_⟩
  cases polled : (Sample.east.backend Sample.setup.policy).poll
      (Sample.stating 2147483648 0 Sample.east.name) with
  | ok fetched => exact absurd (Backend.poll_eq_ok_iff.mp polled) (lost fetched)
  | error reason =>
    exact ⟨_, Sample.reachable_fresh.slice?_pollOnce_of_error registered polled ⟨1, 0⟩, rfl, rfl⟩

end Dashboard

end FleetView
