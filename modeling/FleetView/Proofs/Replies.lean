/-
This file says what a poll of one datacenter depends on. The poll looks at the
answers to the six requests that it makes and at nothing else, and it brings
something exactly when each of the six answers can be read as the list it was
asked for. Each list then comes from its own answer alone.
-/

import Mathlib
import FleetView.Dashboard.Poll
import FleetView.Proofs.Traversal

namespace FleetView

/-! ### The answers that are looked at -/

theorem Request.send_congr {first second : Network} {request : Request}
    (same : first request = second request) : request.send first = request.send second := by
  unfold send
  rw [same]

namespace Connection

/-- A call depends on the answer to its own request only. -/
theorem call_congr (connection : Connection) {first second : Network} (method : Method)
    (segments : List String) (body : Option Json)
    (same : ∀ request, connection.request method segments body = .ok request →
      first request = second request) :
    connection.call first method segments body = connection.call second method segments body := by
  unfold call
  cases made : connection.request method segments body with
  | error error => rfl
  | ok request => exact Request.send_congr (same request made)

theorem mem_fetchRequests {connection : Connection} {collection : String} {request : Request}
    (asked : collection ∈ collections)
    (made : connection.request .get [collection] none = .ok request) :
    request ∈ connection.fetchRequests := by
  refine List.mem_filterMap.mpr ⟨collection, asked, ?_⟩
  rw [made]
  rfl

theorem list_congr {α : Type} (connection : Connection) {first second : Network}
    {collection : String} (decoder : Decoder α) (asked : collection ∈ collections)
    (same : ∀ request ∈ connection.fetchRequests, first request = second request) :
    connection.list first collection decoder = connection.list second collection decoder := by
  unfold list
  rw [call_congr connection .get [collection] none fun request made =>
    same request (mem_fetchRequests asked made)]

theorem fetch_congr (connection : Connection) {first second : Network} (patience : Duration)
    (same : ∀ request ∈ connection.fetchRequests, first request = second request) :
    connection.fetch first patience = connection.fetch second patience := by
  unfold fetch hear
  rw [list_congr connection Report.Check.decoder (by decide) same,
    list_congr connection Report.Client.decoder (by decide) same,
    list_congr connection Report.Event.decoder (by decide) same,
    list_congr connection Report.Aggregate.decoder (by decide) same,
    list_congr connection Report.Stash.decoder (by decide) same,
    list_congr connection Report.Silence.decoder (by decide) same]

end Connection

/-- A poll depends on the answers to its own requests only. -/
theorem Backend.poll_congr (backend : Backend) {first second : Network}
    (same : ∀ request ∈ backend.connection.fetchRequests, first request = second request) :
    backend.poll first = backend.poll second := by
  unfold poll
  rw [Connection.fetch_congr backend.connection backend.pollTimeout same]

/-! ### Six lists or nothing -/

/-- Two calls at the same time succeed exactly when both do. -/
theorem Heard.both_eq_ok_iff {α β : Type} {first : Heard (α → β)} {second : Heard α}
    {result : β} :
    first.both second = some (.ok result) ↔
      ∃ make, first = some (.ok make) ∧
        ∃ value, second = some (.ok value) ∧ make value = result := by
  constructor
  · intro succeeded
    unfold both at succeeded
    split at succeeded
    · cases succeeded
    · cases succeeded
    · cases succeeded
    · cases succeeded
    · rename_i make value
      cases succeeded
      exact ⟨make, rfl, value, rfl, rfl⟩
  · rintro ⟨make, rfl, value, rfl, rfl⟩
    rfl

/-- A caller hears of success exactly where a call ends with it: no limit makes up for an answer. -/
theorem Outcome.heard_eq_ok_iff {α : Type} {outcome : Outcome α} {limit : Option Duration}
    {patience : Duration} {result : α} :
    outcome.heard limit patience = some (.ok result) ↔ outcome = .ended (.ok result) := by
  cases outcome with
  | ended found =>
    constructor
    · intro succeeded
      rw [Option.some.inj succeeded]
    · rintro ⟨⟩
      rfl
  | waits ahead =>
    refine iff_of_false (fun succeeded => ?_) nofun
    cases limit with
    | none => cases succeeded
    | some limit =>
      by_cases first : limit.precedes patience ahead = true
      · rw [heard_of_precedes first] at succeeded
        cases succeeded
      · rw [heard_of_not_precedes first] at succeeded
        cases succeeded

/-- What a network answers to the six requests over a connection can be read as six lists, each
from the answer to its own request. -/
structure Connection.Delivers (connection : Connection) (network : Network)
    (fetched : Fetched) : Prop where
  checks : connection.list network "checks" Report.Check.decoder = .ended (.ok fetched.checks)
  clients : connection.list network "clients" Report.Client.decoder = .ended (.ok fetched.clients)
  events : connection.list network "events" Report.Event.decoder = .ended (.ok fetched.events)
  aggregates :
    connection.list network "aggregates" Report.Aggregate.decoder = .ended (.ok fetched.aggregates)
  stashes : connection.list network "stashes" Report.Stash.decoder = .ended (.ok fetched.stashes)
  silences :
    connection.list network "silenced" Report.Silence.decoder = .ended (.ok fetched.silences)

theorem Connection.fetch_eq_ok_iff {connection : Connection} {network : Network}
    {patience : Duration} {fetched : Fetched} :
    connection.fetch network patience = some (.ok fetched) ↔
      connection.Delivers network fetched := by
  constructor
  · intro succeeded
    obtain ⟨_, five, silences, silencesRead, made⟩ := Heard.both_eq_ok_iff.mp succeeded
    obtain ⟨_, four, stashes, stashesRead, rfl⟩ := Heard.both_eq_ok_iff.mp five
    obtain ⟨_, three, aggregates, aggregatesRead, rfl⟩ := Heard.both_eq_ok_iff.mp four
    obtain ⟨_, two, events, eventsRead, rfl⟩ := Heard.both_eq_ok_iff.mp three
    obtain ⟨_, one, clients, clientsRead, rfl⟩ := Heard.both_eq_ok_iff.mp two
    obtain ⟨_, none, checks, checksRead, rfl⟩ := Heard.both_eq_ok_iff.mp one
    cases none
    rw [← made]
    exact ⟨Outcome.heard_eq_ok_iff.mp checksRead, Outcome.heard_eq_ok_iff.mp clientsRead,
      Outcome.heard_eq_ok_iff.mp eventsRead, Outcome.heard_eq_ok_iff.mp aggregatesRead,
      Outcome.heard_eq_ok_iff.mp stashesRead, Outcome.heard_eq_ok_iff.mp silencesRead⟩
  · intro delivers
    unfold fetch hear
    rw [delivers.checks, delivers.clients, delivers.events, delivers.aggregates,
      delivers.stashes, delivers.silences]
    rfl

/-- A poll brings six lists exactly when the network delivers them. -/
theorem Backend.poll_eq_ok_iff {backend : Backend} {network : Network} {fetched : Fetched} :
    backend.poll network = .ok fetched ↔ backend.connection.Delivers network fetched := by
  rw [← @Connection.fetch_eq_ok_iff _ _ backend.pollTimeout]
  unfold poll
  constructor
  · intro brought
    split at brought
    · rename_i found fetchedAll
      rw [fetchedAll, Except.ok.inj brought]
    · cases brought
    · cases brought
  · intro fetchedAll
    rw [fetchedAll]

end FleetView
