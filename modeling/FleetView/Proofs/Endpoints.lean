/-
This file looks at the six calls of a poll one by one. Each is made to an endpoint of
its own, and what becomes of it is told by the answer that its request meets: the list
of the endpoint is read, or there is an error, or the reply never comes. A reply that never
comes is given up, by the connection or by the poll, and the connection makes an error of it.
The poll is told by the six together. It hears nothing where it has to give one of them up
itself, whatever the others have come to; otherwise it brings all six lists, or the error of
the first endpoint, in the order of asking, that has one.
-/

import FleetView.Proofs.Outcomes
import FleetView.Proofs.Policies

namespace FleetView

/-- One of the collections that a poll asks for. -/
inductive Endpoint where
  | checks
  | clients
  | events
  | aggregates
  | stashes
  | silenced
  deriving DecidableEq

namespace Endpoint

/-- Every endpoint, in the order in which they are asked. -/
def all : List Endpoint := [.checks, .clients, .events, .aggregates, .stashes, .silenced]

/-- The name of the collection. -/
def collection : Endpoint → String
  | .checks => "checks"
  | .clients => "clients"
  | .events => "events"
  | .aggregates => "aggregates"
  | .stashes => "stashes"
  | .silenced => "silenced"

/-- What the endpoint lists. -/
@[reducible] def Item : Endpoint → Type
  | .checks => Report.Check
  | .clients => Report.Client
  | .events => Report.Event
  | .aggregates => Report.Aggregate
  | .stashes => Report.Stash
  | .silenced => Report.Silence

/-- How an item of the endpoint is read. -/
def decoder : (endpoint : Endpoint) → Decoder endpoint.Item
  | .checks => Report.Check.decoder
  | .clients => Report.Client.decoder
  | .events => Report.Event.decoder
  | .aggregates => Report.Aggregate.decoder
  | .stashes => Report.Stash.decoder
  | .silenced => Report.Silence.decoder

/-- The list of the endpoint among the six lists of a poll. -/
def items (fetched : Fetched) : (endpoint : Endpoint) → List endpoint.Item
  | .checks => fetched.checks
  | .clients => fetched.clients
  | .events => fetched.events
  | .aggregates => fetched.aggregates
  | .stashes => fetched.stashes
  | .silenced => fetched.silences

theorem mem_all (endpoint : Endpoint) : endpoint ∈ all := by
  cases endpoint <;> decide

/-- The endpoints that are asked before another one. -/
def earlier (endpoint : Endpoint) : List Endpoint := all.takeWhile (· ≠ endpoint)

/-- The six lists, or the error of the first endpoint, in the order of asking, that has one. -/
def collect (results : (endpoint : Endpoint) → Except ApiError (List endpoint.Item)) :
    Except ApiError Fetched := do
  return ⟨← results .checks, ← results .clients, ← results .events, ← results .aggregates,
    ← results .stashes, ← results .silenced⟩

/-- The error of an endpoint counts where all that are asked before it are fine, whatever those
behind it have come to. -/
theorem collect_eq_error
    {results : (endpoint : Endpoint) → Except ApiError (List endpoint.Item)}
    {endpoint : Endpoint} {error : ApiError}
    (fine : ∀ before ∈ endpoint.earlier, ∃ list, results before = .ok list)
    (failed : results endpoint = .error error) : collect results = .error error := by
  choose list fine using fine
  cases endpoint <;> simp [collect, failed, fine, earlier, all] <;> rfl

theorem earlier_length_lt {before endpoint : Endpoint} (member : before ∈ endpoint.earlier) :
    before.earlier.length < endpoint.earlier.length := by
  revert member
  cases before <;> cases endpoint <;> decide

theorem earlier_or_eq_or_earlier (one other : Endpoint) :
    one ∈ other.earlier ∨ one = other ∨ other ∈ one.earlier := by
  cases one <;> cases other <;> decide

/-- What holds of an endpoint as soon as it holds of those before it holds of every endpoint. -/
theorem forall_of_earlier {property : Endpoint → Prop}
    (next : ∀ endpoint, (∀ before ∈ endpoint.earlier, property before) → property endpoint)
    (endpoint : Endpoint) : property endpoint := by
  induction place : endpoint.earlier.length using Nat.strong_induction_on generalizing endpoint with
  | _ _ inductionHypothesis =>
    subst place
    exact next endpoint fun before member =>
      inductionHypothesis _ (earlier_length_lt member) before rfl

/-- Lists that each endpoint may bring make up what a poll may bring. -/
theorem exists_fetched {property : (endpoint : Endpoint) → List endpoint.Item → Prop}
    (each : ∀ endpoint, ∃ list, property endpoint list) :
    ∃ fetched, ∀ endpoint, property endpoint (endpoint.items fetched) := by
  choose lists holds using each
  refine ⟨⟨lists .checks, lists .clients, lists .events, lists .aggregates, lists .stashes,
    lists .silenced⟩, fun endpoint => ?_⟩
  cases endpoint <;> exact holds _

end Endpoint

/-! ### One call -/

namespace Heard

theorem both_none {α β : Type} (first : Heard (α → β)) : first.both (none : Heard α) = none := by
  rcases first with _ | _ | _ <;> rfl

end Heard

namespace Connection

/-- The request to an endpoint, or why there is none. -/
def asking (connection : Connection) (endpoint : Endpoint) : Except ApiError Request :=
  connection.request .get [endpoint.collection] none

/-- The call to an endpoint. -/
def read (connection : Connection) (network : Network) (endpoint : Endpoint) :
    Outcome (List endpoint.Item) :=
  connection.list network endpoint.collection endpoint.decoder

/-- What a caller who waits for some time hears of the call to an endpoint. -/
def hears (connection : Connection) (network : Network) (patience : Duration)
    (endpoint : Endpoint) : Heard (List endpoint.Item) :=
  (connection.read network endpoint).heard connection.limit patience

variable (connection : Connection) (network : Network) (endpoint : Endpoint)

/-- No two endpoints are asked by the same request. -/
theorem endpoint_eq_of_asking {connection : Connection} {one other : Endpoint} {request : Request}
    (asked : connection.asking one = .ok request)
    (again : connection.asking other = .ok request) : one = other := by
  have verbatim : ∀ endpoint : Endpoint, Url.Verbatim endpoint.collection := by
    intro endpoint
    cases endpoint <;> decide +kernel
  obtain ⟨-, -, url, down, path⟩ := of_request_eq_ok asked
  obtain ⟨-, -, otherUrl, otherDown, otherPath⟩ := of_request_eq_ok again
  obtain ⟨front, ends⟩ := @Url.path_of_descend_eq_ok _ _ [] _ (verbatim one) down
  obtain ⟨otherFront, otherEnds⟩ :=
    @Url.path_of_descend_eq_ok _ _ [] _ (verbatim other) otherDown
  rw [path, ends, otherEnds] at otherPath
  have same := (List.append_inj' (UrlPath.segments.inj otherPath) rfl).2
  revert same
  cases one <;> cases other <;> decide

/-- The six replies can be anything: whatever they are to be, some network answers so. -/
theorem exists_network (connection : Connection) (assigned : Endpoint → Answer) :
    ∃ network : Network, ∀ endpoint request,
      connection.asking endpoint = .ok request → network request = assigned endpoint := by
  classical
  refine ⟨fun request =>
    if asked : ∃ endpoint, connection.asking endpoint = .ok request then assigned asked.choose
    else .closed, fun endpoint request made => ?_⟩
  have asked : ∃ endpoint, connection.asking endpoint = .ok request := ⟨endpoint, made⟩
  exact (dif_pos asked).trans (congrArg assigned (endpoint_eq_of_asking asked.choose_spec made))

/-- The reply of an endpoint is there in full, with success, and can be read as a list of what
the endpoint lists. -/
def Reads (list : List endpoint.Item) : Prop :=
  ∃ request status body, connection.asking endpoint = .ok request ∧
    network request = .reply status body ∧ 200 ≤ status ∧ status ≤ 299 ∧
    endpoint.decoder.list.fromText (Text.Utf8.decodeLossy body) = .ok list

/-- The reply of an endpoint never comes, or never in full, with a word on which of two equally
long limits is noticed first. -/
def Hangs (ahead : Bool) : Prop :=
  ∃ request, connection.asking endpoint = .ok request ∧
    (network request = .silence ahead ∨ ∃ status body, network request = .stalled status body ahead)

/-- Why an endpoint brings no list although its call comes to an end. -/
inductive Fails : ApiError → Prop
  /-- There is no request to it. -/
  | unmade {error : ApiError} (unmade : connection.asking endpoint = .error error) : Fails error
  /-- The connection ends before the reply. -/
  | closed {request : Request} (made : connection.asking endpoint = .ok request)
      (closed : network request = .closed) : Fails (.noConnection request.url.text)
  /-- The connection ends within the reply. -/
  | cut {request : Request} {status : Nat} {body : List UInt8}
      (made : connection.asking endpoint = .ok request)
      (cut : network request = .cut status body) : Fails .brokenBody
  /-- The status of the reply is not one of success. -/
  | refused {request : Request} {status : Nat} {body : List UInt8}
      (made : connection.asking endpoint = .ok request)
      (replied : network request = .reply status body) (bad : ¬ (200 ≤ status ∧ status ≤ 299)) :
      Fails (.http status (Answer.wording status body))
  /-- The body of the reply is not such a list. -/
  | unreadable {request : Request} {status : Nat} {body : List UInt8} {fault : Fault}
      (made : connection.asking endpoint = .ok request)
      (replied : network request = .reply status body) (good : 200 ≤ status ∧ status ≤ 299)
      (strange : endpoint.decoder.list.fromText (Text.Utf8.decodeLossy body) = .error fault) :
      Fails (.unreadable fault.message (Text.Utf8.decodeLossy body))

variable (patience limit : Duration)

/-- The reply of an endpoint never comes, and the connection gives the request up after its limit,
before the caller does. -/
def Lapses : Prop :=
  connection.limit = some limit ∧
    ∃ ahead, connection.Hangs network endpoint ahead ∧ limit.precedes patience ahead = true

/-- The reply of an endpoint never comes, and the caller gives it up before the connection does. -/
def Outlasts : Prop :=
  (∃ ahead, connection.Hangs network endpoint ahead) ∧
    ∀ limit, ¬ connection.Lapses network endpoint patience limit

/-- The caller hears of every call, all endpoints that are asked before this one can be read, and
this one cannot, be it that it fails or that the connection gives it up. Nothing is said about
those behind it. -/
structure FirstStops (error : ApiError) : Prop where
  heard : ∀ other, ¬ connection.Outlasts network other patience
  fine : ∀ before ∈ endpoint.earlier, ∃ list, connection.Reads network before list
  stops : connection.Fails network endpoint error ∨
    ∃ limit, connection.Lapses network endpoint patience limit ∧
      error = .timeout limit.wholeSeconds

variable {connection network endpoint patience limit}

theorem read_of_asking {request : Request} (made : connection.asking endpoint = .ok request) :
    connection.read network endpoint = (request.send network).bind fun text =>
      (endpoint.decoder.list.fromText text).mapError fun fault =>
        .unreadable fault.message text := by
  unfold asking at made
  unfold read list call
  rw [made]

theorem read_of_reads {list : List endpoint.Item} (reads : connection.Reads network endpoint list) :
    connection.read network endpoint = .ended (.ok list) := by
  obtain ⟨request, status, body, made, replied, least, most, read⟩ := reads
  have success : HttpStatus.isSuccess status = true := by
    simp [HttpStatus.isSuccess, least, most]
  rw [read_of_asking made, Request.send, replied]
  simp only [if_pos success, Outcome.bind, Except.bind, read]
  rfl

theorem read_of_hangs {ahead : Bool} (hangs : connection.Hangs network endpoint ahead) :
    connection.read network endpoint = .waits ahead := by
  obtain ⟨request, made, silent | ⟨status, body, stalled⟩⟩ := hangs
  · rw [read_of_asking made, Request.send, silent]
    rfl
  · rw [read_of_asking made, Request.send, stalled]
    rfl

theorem read_of_fails {error : ApiError} (fails : connection.Fails network endpoint error) :
    connection.read network endpoint = .ended (.error error) := by
  cases fails with
  | unmade unmade =>
    unfold asking at unmade
    unfold read list call
    rw [unmade]
    rfl
  | closed made closed =>
    rw [read_of_asking made, Request.send, closed]
    rfl
  | cut made cut =>
    rw [read_of_asking made, Request.send, cut]
    rfl
  | @refused request status body made replied bad =>
    have failure : ¬ HttpStatus.isSuccess status = true := by
      simpa [HttpStatus.isSuccess] using bad
    rw [read_of_asking made, Request.send, replied]
    simp only [if_neg failure]
    rfl
  | @unreadable request status body fault made replied good strange =>
    have success : HttpStatus.isSuccess status = true := by
      simp [HttpStatus.isSuccess, good]
    rw [read_of_asking made, Request.send, replied]
    simp only [if_pos success, Outcome.bind, Except.bind, strange]
    rfl

variable (connection network endpoint patience)

/-- One of the three becomes of each call. -/
theorem reads_or_hangs_or_fails :
    (∃ list, connection.Reads network endpoint list) ∨
      (∃ ahead, connection.Hangs network endpoint ahead) ∨
      ∃ error, connection.Fails network endpoint error := by
  cases made : connection.asking endpoint with
  | error error => exact Or.inr (Or.inr ⟨error, .unmade made⟩)
  | ok request =>
    cases met : network request with
    | silence ahead => exact Or.inr (Or.inl ⟨ahead, request, made, Or.inl met⟩)
    | stalled status body ahead =>
      exact Or.inr (Or.inl ⟨ahead, request, made, Or.inr ⟨status, body, met⟩⟩)
    | closed => exact Or.inr (Or.inr ⟨_, .closed made met⟩)
    | cut status body => exact Or.inr (Or.inr ⟨_, .cut made met⟩)
    | reply status body =>
      by_cases good : 200 ≤ status ∧ status ≤ 299
      · cases read : endpoint.decoder.list.fromText (Text.Utf8.decodeLossy body) with
        | error fault => exact Or.inr (Or.inr ⟨_, .unreadable made met good read⟩)
        | ok list => exact Or.inl ⟨list, request, status, body, made, met, good.1, good.2, read⟩
      · exact Or.inr (Or.inr ⟨_, .refused made met good⟩)

/-- One of the four is heard of each call, or not. -/
theorem reads_or_outlasts_or_stops :
    (∃ list, connection.Reads network endpoint list) ∨
      connection.Outlasts network endpoint patience ∨
      ∃ error, connection.Fails network endpoint error ∨
        ∃ limit, connection.Lapses network endpoint patience limit ∧
          error = .timeout limit.wholeSeconds := by
  rcases connection.reads_or_hangs_or_fails network endpoint with reads | hangs | ⟨error, fails⟩
  · exact Or.inl reads
  · by_cases lapses : ∃ limit, connection.Lapses network endpoint patience limit
    · obtain ⟨limit, lapses⟩ := lapses
      exact Or.inr (Or.inr ⟨_, Or.inr ⟨limit, lapses, rfl⟩⟩)
    · exact Or.inr (Or.inl ⟨hangs, not_exists.mp lapses⟩)
  · exact Or.inr (Or.inr ⟨error, Or.inl fails⟩)

variable {connection network endpoint patience}

theorem read_eq_ok_iff {list : List endpoint.Item} :
    connection.read network endpoint = .ended (.ok list) ↔
      connection.Reads network endpoint list := by
  refine ⟨fun read => ?_, read_of_reads⟩
  rcases connection.reads_or_hangs_or_fails network endpoint with
    ⟨other, reads⟩ | ⟨ahead, hangs⟩ | ⟨error, fails⟩
  · cases (read_of_reads reads).symm.trans read
    exact reads
  · cases (read_of_hangs hangs).symm.trans read
  · cases (read_of_fails fails).symm.trans read

/-! ### What is heard of one call -/

theorem hears_of_reads {list : List endpoint.Item}
    (reads : connection.Reads network endpoint list) :
    connection.hears network patience endpoint = some (.ok list) := by
  rw [hears, read_of_reads reads]
  rfl

theorem hears_of_fails {error : ApiError} (fails : connection.Fails network endpoint error) :
    connection.hears network patience endpoint = some (.error error) := by
  rw [hears, read_of_fails fails]
  rfl

theorem hears_of_lapses (lapses : connection.Lapses network endpoint patience limit) :
    connection.hears network patience endpoint = some (.error (.timeout limit.wholeSeconds)) := by
  obtain ⟨limited, ahead, hangs, first⟩ := lapses
  rw [hears, read_of_hangs hangs, limited]
  exact Outcome.heard_of_precedes first

theorem hears_of_outlasts (outlasts : connection.Outlasts network endpoint patience) :
    connection.hears network patience endpoint = none := by
  obtain ⟨⟨ahead, hangs⟩, unlapsed⟩ := outlasts
  rw [hears, read_of_hangs hangs]
  cases limited : connection.limit with
  | none => rfl
  | some limit =>
    exact Outcome.heard_of_not_precedes fun first => unlapsed limit ⟨limited, ahead, hangs, first⟩

theorem hears_of_stops {error : ApiError}
    (stops : connection.Fails network endpoint error ∨
      ∃ limit, connection.Lapses network endpoint patience limit ∧
        error = .timeout limit.wholeSeconds) :
    connection.hears network patience endpoint = some (.error error) := by
  rcases stops with fails | ⟨limit, lapses, rfl⟩
  · exact hears_of_fails fails
  · exact hears_of_lapses lapses

theorem hears_eq_none_iff :
    connection.hears network patience endpoint = none ↔
      connection.Outlasts network endpoint patience := by
  refine ⟨fun unheard => ?_, hears_of_outlasts⟩
  rcases connection.reads_or_outlasts_or_stops network endpoint patience with
    ⟨list, reads⟩ | outlasts | ⟨error, stops⟩
  · cases (hears_of_reads reads).symm.trans unheard
  · exact outlasts
  · cases (hears_of_stops stops).symm.trans unheard

/-! ### Six calls -/

/-- A network delivers six lists exactly when each endpoint brings its own. -/
theorem delivers_iff {fetched : Fetched} :
    connection.Delivers network fetched ↔
      ∀ endpoint, connection.Reads network endpoint (endpoint.items fetched) := by
  constructor
  · intro delivers endpoint
    cases endpoint with
    | checks => exact read_eq_ok_iff.mp delivers.checks
    | clients => exact read_eq_ok_iff.mp delivers.clients
    | events => exact read_eq_ok_iff.mp delivers.events
    | aggregates => exact read_eq_ok_iff.mp delivers.aggregates
    | stashes => exact read_eq_ok_iff.mp delivers.stashes
    | silenced => exact read_eq_ok_iff.mp delivers.silences
  · intro reads
    exact ⟨read_of_reads (reads .checks), read_of_reads (reads .clients),
      read_of_reads (reads .events), read_of_reads (reads .aggregates),
      read_of_reads (reads .stashes), read_of_reads (reads .silenced)⟩

/-- Six replies can all be read, or one outlasts the caller, or there is a first endpoint that
stops short of its list. -/
theorem reads_or_outlasts_or_firstStops (connection : Connection) (network : Network)
    (patience : Duration) :
    (∃ fetched : Fetched,
      ∀ endpoint, connection.Reads network endpoint (endpoint.items fetched)) ∨
    (∃ endpoint, connection.Outlasts network endpoint patience) ∨
    ∃ endpoint error, connection.FirstStops network endpoint patience error := by
  by_cases outlasts : ∃ endpoint, connection.Outlasts network endpoint patience
  · exact Or.inr (Or.inl outlasts)
  · have heard : ∀ endpoint, ¬ connection.Outlasts network endpoint patience :=
      not_exists.mp outlasts
    by_cases stops : ∃ endpoint error, connection.FirstStops network endpoint patience error
    · exact Or.inr (Or.inr stops)
    · -- Without a first stop each endpoint behind fine ones is fine, so all are.
      have fine : ∀ endpoint, ∃ list, connection.Reads network endpoint list := by
        refine Endpoint.forall_of_earlier fun endpoint fine => ?_
        rcases connection.reads_or_outlasts_or_stops network endpoint patience with
          reads | waiting | ⟨error, short⟩
        · exact reads
        · exact absurd waiting (heard endpoint)
        · exact absurd ⟨endpoint, error, heard, fine, short⟩ stops
      exact Or.inl (Endpoint.exists_fetched fine)

/-- Where one call is not heard of, nothing is heard of the six together. -/
theorem fetch_eq_none (unheard : connection.hears network patience endpoint = none) :
    connection.fetch network patience = none := by
  unfold fetch hear
  cases endpoint <;> simp only [hears, read, Endpoint.collection, Endpoint.decoder] at unheard <;>
    simp only [unheard, Heard.both_none] <;> rfl

/-- Where all six are heard of, their results are collected. -/
theorem fetch_eq_some
    {results : (endpoint : Endpoint) → Except ApiError (List endpoint.Item)}
    (heard : ∀ endpoint,
      connection.hears network patience endpoint = some (results endpoint)) :
    connection.fetch network patience = some (Endpoint.collect results) := by
  have checks : connection.hear network patience "checks" Report.Check.decoder = _ :=
    heard .checks
  have clients : connection.hear network patience "clients" Report.Client.decoder = _ :=
    heard .clients
  have events : connection.hear network patience "events" Report.Event.decoder = _ :=
    heard .events
  have aggregates : connection.hear network patience "aggregates" Report.Aggregate.decoder = _ :=
    heard .aggregates
  have stashes : connection.hear network patience "stashes" Report.Stash.decoder = _ :=
    heard .stashes
  have silences : connection.hear network patience "silenced" Report.Silence.decoder = _ :=
    heard .silenced
  unfold fetch
  rw [checks, clients, events, aggregates, stashes, silences, Endpoint.collect]
  cases results .checks <;> cases results .clients <;> cases results .events <;>
    cases results .aggregates <;> cases results .stashes <;> cases results .silenced <;> rfl

end Connection

end FleetView
