/-
This file proves that one poll of a datacenter is all or nothing. Its six calls are made
together and may end in any order; what is known of them meanwhile is a progress, which
each call that ends takes one step further. No result is there while a call is open, and a
progress that cannot go on has one result whatever order has led to it. So the slice of the
datacenter is decided by the six replies alone: it is built from all of them, each collection
from its own, or it keeps none of them and says which of their failures counts.
-/

import FleetView.Proofs.Timeouts
import FleetView.Proofs.Wellformed

namespace FleetView

/-! ### Calls that end one after the other -/

/-- How far the calls of a poll have come: the results of those that have ended. -/
abbrev Progress := (endpoint : Endpoint) → Option (Except ApiError (List endpoint.Item))

namespace Progress

/-- All calls are open. -/
def begun : Progress := fun _ => none

/-- What the calls have come to together, once none of them is open any more. -/
def result? (progress : Progress) : Option (Except ApiError Fetched) := do
  let checks ← progress .checks
  let clients ← progress .clients
  let events ← progress .events
  let aggregates ← progress .aggregates
  let stashes ← progress .stashes
  let silences ← progress .silenced
  return Endpoint.collect fun
    | .checks => checks
    | .clients => clients
    | .events => events
    | .aggregates => aggregates
    | .stashes => stashes
    | .silenced => silences

/-- One of the open calls ends, with what is heard of it in time. -/
inductive Step (connection : Connection) (network : Network) (patience : Duration) :
    Progress → Progress → Prop
  | hear {progress : Progress} {endpoint : Endpoint}
      {result : Except ApiError (List endpoint.Item)} (still : progress endpoint = none)
      (heard : connection.hears network patience endpoint = some result) :
      Step connection network patience progress
        (Function.update progress endpoint (some result))

variable (connection : Connection) (network : Network) (patience : Duration)

/-- The calls can have come so far, in one order or another. -/
def Reached : Progress → Prop := Relation.ReflTransGen (Step connection network patience) begun

/-- No call is going to end any more, unless it is given up. -/
def Final (progress : Progress) : Prop :=
  ∀ next, ¬ Step connection network patience progress next

variable {connection network patience} {progress next : Progress}

/-- While a call is open there is no result. -/
theorem result?_eq_none {endpoint : Endpoint} (still : progress endpoint = none) :
    progress.result? = none := by
  cases endpoint <;> simp [result?, still]

theorem result?_eq_some {results : (endpoint : Endpoint) → Except ApiError (List endpoint.Item)}
    (heard : ∀ endpoint, progress endpoint = some (results endpoint)) :
    progress.result? = some (Endpoint.collect results) := by
  simp only [result?, heard]
  rfl

/-- A call that ends is known by what is heard of it, and the others as before. -/
theorem Step.heard (step : Step connection network patience progress next) {endpoint : Endpoint}
    {result : Except ApiError (List endpoint.Item)} (known : next endpoint = some result) :
    progress endpoint = some result ∨
      connection.hears network patience endpoint = some result := by
  cases step with
  | @hear ending result still heard =>
    by_cases same : endpoint = ending
    · subst same
      rw [Function.update_self] at known
      rw [← Option.some.inj known]
      exact Or.inr heard
    · rw [Function.update_of_ne same] at known
      exact Or.inl known

/-- However far the calls have come, each one that has ended is known by what is heard of it. -/
theorem Reached.heard (reached : Reached connection network patience progress)
    {endpoint : Endpoint} {result : Except ApiError (List endpoint.Item)}
    (known : progress endpoint = some result) :
    connection.hears network patience endpoint = some result := by
  induction reached with
  | refl => cases known
  | tail _ step inductionHypothesis => exact (step.heard known).elim inductionHypothesis id

/-- A call that is open in the end is not heard of. -/
theorem Final.unheard (final : Final connection network patience progress) {endpoint : Endpoint}
    (still : progress endpoint = none) :
    connection.hears network patience endpoint = none :=
  Option.eq_none_iff_forall_ne_some.mpr fun _ heard => final _ (.hear still heard)

/-- In the end the calls have come to what the six together have come to: nothing while one of them
is open, their collected results otherwise. The order in which they ended has left no trace. -/
theorem result?_eq_fetch (reached : Reached connection network patience progress)
    (final : Final connection network patience progress) :
    progress.result? = connection.fetch network patience := by
  by_cases still : ∃ endpoint, progress endpoint = none
  · obtain ⟨endpoint, still⟩ := still
    rw [result?_eq_none still, Connection.fetch_eq_none (final.unheard still)]
  · have known : ∀ endpoint, ∃ result, progress endpoint = some result := fun endpoint =>
      Option.ne_none_iff_exists'.mp fun none => still ⟨endpoint, none⟩
    choose results known using known
    rw [result?_eq_some known,
      Connection.fetch_eq_some fun endpoint => reached.heard (known endpoint)]

/-- The calls that may still end can end one after the other. -/
theorem exists_final_of_waiting (endpoints : List Endpoint)
    (waiting : ∀ endpoint, progress endpoint = none →
      endpoint ∈ endpoints ∨ connection.hears network patience endpoint = none) :
    ∃ last, Relation.ReflTransGen (Step connection network patience) progress last ∧
      Final connection network patience last := by
  induction endpoints generalizing progress with
  | nil =>
    refine ⟨progress, .refl, fun next step => ?_⟩
    cases step with
    | @hear endpoint result still heard =>
      cases ((waiting endpoint still).resolve_left List.not_mem_nil).symm.trans heard
  | cons endpoint rest inductionHypothesis =>
    by_cases going : ∃ result, progress endpoint = none ∧
        connection.hears network patience endpoint = some result
    · obtain ⟨result, still, heard⟩ := going
      have others : ∀ other, Function.update progress endpoint (some result) other = none →
          other ∈ rest ∨ connection.hears network patience other = none := by
        intro other unknown
        have differs : other ≠ endpoint := by
          rintro rfl
          rw [Function.update_self] at unknown
          cases unknown
        rw [Function.update_of_ne differs] at unknown
        exact (waiting other unknown).imp_left (List.mem_of_ne_of_mem differs)
      obtain ⟨last, later, final⟩ := inductionHypothesis others
      exact ⟨last, .head (.hear still heard) later, final⟩
    · refine inductionHypothesis fun other still => ?_
      rcases waiting other still with member | unheard
      · rcases List.mem_cons.mp member with rfl | behind
        · exact Or.inr (Option.eq_none_iff_forall_ne_some.mpr fun result heard =>
            going ⟨result, still, heard⟩)
        · exact Or.inl behind
      · exact Or.inr unheard

/-- From wherever the calls have come, they can come to an end. -/
theorem exists_final (connection : Connection) (network : Network) (patience : Duration)
    (progress : Progress) :
    ∃ last, Relation.ReflTransGen (Step connection network patience) progress last ∧
      Final connection network patience last :=
  exists_final_of_waiting Endpoint.all fun endpoint _ => Or.inl endpoint.mem_all

end Progress

/-! ### The poll of one datacenter -/

namespace Backend

/-- What a poll comes to whose calls come no further than this. -/
def verdict (backend : Backend) (progress : Progress) : Except String Fetched :=
  match progress.result? with
  | some (.ok fetched) => .ok fetched
  | some (.error error) => .error error.message
  | none => .error ("poll timed out after " ++ backend.pollTimeout.text ++ "s")

variable {backend : Backend} {network : Network}

/-- In whatever order the calls end, the poll comes to the same. -/
theorem verdict_eq_poll {progress : Progress}
    (reached : Progress.Reached backend.connection network backend.pollTimeout progress)
    (final : Progress.Final backend.connection network backend.pollTimeout progress) :
    backend.verdict progress = backend.poll network := by
  rw [verdict, poll, Progress.result?_eq_fetch reached final]
  rcases backend.connection.fetch network backend.pollTimeout with _ | _ | _ <;> rfl

/-- A reply that outlasts the poll makes it time out, whatever the others are. -/
theorem poll_of_outlasts {endpoint : Endpoint}
    (outlasts : backend.connection.Outlasts network endpoint backend.pollTimeout) :
    backend.poll network =
      .error ("poll timed out after " ++ backend.pollTimeout.text ++ "s") := by
  rw [poll, Connection.fetch_eq_none (Connection.hears_of_outlasts outlasts)]

/-- Where no reply outlasts the poll, the first stop counts, and those behind it do not. -/
theorem poll_of_firstStops {endpoint : Endpoint} {error : ApiError}
    (first : backend.connection.FirstStops network endpoint backend.pollTimeout error) :
    backend.poll network = .error error.message := by
  have heard : ∀ other, ∃ result,
      backend.connection.hears network backend.pollTimeout other = some result := fun other =>
    Option.ne_none_iff_exists'.mp fun unheard =>
      first.heard other (Connection.hears_eq_none_iff.mp unheard)
  choose results heard using heard
  have stopped : results endpoint = .error error :=
    Option.some.inj ((heard endpoint).symm.trans (Connection.hears_of_stops first.stops))
  rw [poll, Connection.fetch_eq_some heard, Endpoint.collect_eq_error ?_ stopped]
  intro before member
  obtain ⟨list, reads⟩ := first.fine before member
  exact ⟨list, Option.some.inj ((heard before).symm.trans (Connection.hears_of_reads reads))⟩

end Backend

/-! ### All or nothing -/

/-- A slice as one poll leaves it, told by the six replies. `carried` is what the datacenter shows
where the poll brings nothing. -/
structure Slice.AllOrNothing (slice : Slice) (backend : Backend) (network : Network)
    (now : Instant) (carried : Collections) : Prop where
  /-- The poll succeeds exactly when all six replies can be read. -/
  succeeds : slice.status.isReachable = true ↔
    ∀ endpoint, ∃ list, backend.connection.Reads network endpoint list
  /-- Then each collection comes from the reply of its own endpoint, and the subscriptions from the
  clients and the checks. -/
  built : ∀ fetched : Fetched,
    (∀ endpoint, backend.connection.Reads network endpoint (endpoint.items fetched)) →
      slice.status = ⟨backend.name, .reachable, none, some now, false⟩ ∧
      slice.data.Thinned backend.name fetched ∧
      slice.data.subscriptions =
        Subscription.gather backend.name slice.data.clients slice.data.checks
  /-- A reply that outlasts the poll is its timeout, whatever the others are. -/
  outlasted :
    (∃ endpoint, backend.connection.Outlasts network endpoint backend.pollTimeout) →
      slice = ⟨⟨backend.name, .unreachable,
        some ("poll timed out after " ++ backend.pollTimeout.text ++ "s"), some now, true⟩,
        carried⟩
  /-- Otherwise the first endpoint that stops short counts, whatever those behind it are. -/
  stopped : ∀ endpoint error,
    backend.connection.FirstStops network endpoint backend.pollTimeout error →
      ∃ reason, error.RecordedAs reason ∧
        slice = ⟨⟨backend.name, .unreachable, some reason, some now, true⟩, carried⟩
  /-- There are no other polls. -/
  complete : (∃ fetched : Fetched,
      ∀ endpoint, backend.connection.Reads network endpoint (endpoint.items fetched)) ∨
    (∃ endpoint, backend.connection.Outlasts network endpoint backend.pollTimeout) ∨
    ∃ endpoint error, backend.connection.FirstStops network endpoint backend.pollTimeout error
  /-- Where a reply never comes, the poll fails, and a timeout is recorded unless it is
  overtaken. -/
  timely : (∃ endpoint ahead, backend.connection.Hangs network endpoint ahead) →
    ∃ reason, slice.status.lastError = some reason ∧
      (ApiError.Untimely backend.pollTimeout reason ↔
        ¬ backend.connection.Overtaken network backend.pollTimeout)

/-- A slice that the order in which the calls end has no part in. From wherever they have come they
can come to an end, and every end leaves this slice behind the previous snapshot. -/
def Slice.Unordered (slice : Slice) (backend : Backend) (network : Network) (policy : Policy)
    (previous : Snapshot) (now : Instant) : Prop :=
  ∀ progress, Progress.Reached backend.connection network backend.pollTimeout progress →
    (∃ last, Relation.ReflTransGen
        (Progress.Step backend.connection network backend.pollTimeout) progress last ∧
      Progress.Final backend.connection network backend.pollTimeout last) ∧
    (Progress.Final backend.connection network backend.pollTimeout progress →
      slice = backend.slice policy previous now (backend.verdict progress))

namespace Backend

variable {backend : Backend} {network : Network}

/-- What is recorded where a reply never comes: a timeout, unless it is overtaken. -/
theorem poll_of_hangs {endpoint : Endpoint} {ahead : Bool}
    (hangs : backend.connection.Hangs network endpoint ahead) :
    ∃ reason, backend.poll network = .error reason ∧
      (ApiError.Untimely backend.pollTimeout reason ↔
        ¬ backend.connection.Overtaken network backend.pollTimeout) := by
  rcases backend.connection.reads_or_outlasts_or_firstStops network backend.pollTimeout with
    ⟨fetched, reads⟩ | ⟨waiting, outlasts⟩ | ⟨stopping, error, first⟩
  · cases (Connection.read_of_hangs hangs).symm.trans (Connection.read_of_reads (reads endpoint))
  · refine ⟨_, poll_of_outlasts outlasts, iff_of_true (Or.inl rfl) fun overtaken => ?_⟩
    obtain ⟨again, waits⟩ := outlasts.1
    obtain ⟨limit, lapses⟩ := overtaken.lapsed waiting again waits
    exact outlasts.2 limit lapses
  · refine ⟨_, poll_of_firstStops first, ?_⟩
    by_cases fails : backend.connection.Fails network stopping error
    · refine iff_of_false (ApiError.not_untimely fails.ne_timeout (Or.inl rfl) _)
        (not_not_intro ⟨fun other again waits => ?_, stopping, error, fails, first.fine⟩)
      by_contra unlapsed
      exact first.heard other ⟨⟨again, waits⟩, not_exists.mp unlapsed⟩
    · obtain ⟨limit, -, rfl⟩ := first.stops.resolve_left fails
      exact iff_of_true (Or.inr ⟨_, rfl⟩) fun overtaken => fails (overtaken.fails first)

/-- Every poll of a datacenter is all or nothing. -/
theorem slice_allOrNothing (backend : Backend) (policy : Policy) {previous : Snapshot}
    {held : Slice} (kept : previous.slice? backend.name = some held) (network : Network)
    (now : Instant) :
    (backend.slice policy previous now (backend.poll network)).AllOrNothing backend network now
      (if policy.retainStaleData then held.data else Collections.empty) := by
  have failed : ∀ reason, backend.slice policy previous now (.error reason) =
      ⟨⟨backend.name, .unreachable, some reason, some now, true⟩,
        if policy.retainStaleData then held.data else Collections.empty⟩ := by
    intro reason
    unfold slice
    by_cases retain : policy.retainStaleData = true
    · simp only [if_pos retain, kept, Option.map_some, Option.getD_some]
      rfl
    · simp only [if_neg retain, Option.map_none, Option.getD_none]
      rfl
  have trichotomy :=
    backend.connection.reads_or_outlasts_or_firstStops network backend.pollTimeout
  constructor
  case built =>
    intro fetched reads
    rw [poll_eq_ok_iff.mpr (Connection.delivers_iff.mpr reads)]
    exact ⟨rfl, Collections.ofFetched_thinned _ _, rfl⟩
  case outlasted =>
    rintro ⟨endpoint, outlasts⟩
    rw [poll_of_outlasts outlasts, failed]
  case stopped =>
    intro endpoint error first
    refine ⟨error.message, Or.inl rfl, ?_⟩
    rw [poll_of_firstStops first, failed]
  case complete => exact trichotomy
  case timely =>
    rintro ⟨endpoint, ahead, hangs⟩
    obtain ⟨reason, missed, told⟩ := poll_of_hangs hangs
    rw [missed, failed]
    exact ⟨reason, rfl, told⟩
  case succeeds =>
    constructor
    · intro reachable
      rcases trichotomy with ⟨fetched, reads⟩ | ⟨endpoint, outlasts⟩ | ⟨_, _, first⟩
      · exact fun endpoint => ⟨_, reads endpoint⟩
      · rw [poll_of_outlasts outlasts, failed] at reachable
        cases reachable
      · rw [poll_of_firstStops first, failed] at reachable
        cases reachable
    · intro reads
      obtain ⟨fetched, reads⟩ := Endpoint.exists_fetched reads
      rw [poll_eq_ok_iff.mpr (Connection.delivers_iff.mpr reads)]
      rfl

end Backend

/-- The limit of the connection to a datacenter is within the time for a poll exactly where that for
a command is. -/
theorem Datacenter.limit_le_pollTimeout_iff {datacenter : Datacenter} {policy : Policy} :
    (∃ limit, (datacenter.backend policy).connection.limit = some limit ∧
      limit.milliseconds ≤ (datacenter.backend policy).pollTimeout.milliseconds) ↔
    policy.dispatchTimeout.milliseconds ≤ (datacenter.pollTimeout policy).milliseconds := by
  constructor
  · rintro ⟨limit, limited, le⟩
    rw [← Option.some.inj limited] at le
    exact (max_le_iff.mp le).2
  · exact fun le => ⟨_, rfl, max_le le_rfl le⟩

namespace Dashboard

/-- One poll of a configured datacenter. Its slice is built from all six replies or from none of
them, and where it is built from none, the data are those of before or no data, whatever the
replies are. The order in which the calls end decides nothing: wherever they cannot go on, the
slice is what they have come to. Where a reply never comes, a timeout is recorded unless it is
overtaken by the error of an endpoint that is asked before, and replies that lead to this can be
had exactly where a poll may take as long as a command. -/
theorem poll_all_or_nothing {setup : Setup} {dashboard : Dashboard}
    (reached : Reachable setup dashboard) {datacenter : Datacenter}
    (registered : datacenter ∈ setup.registry.datacenters) :
    (∃ held, dashboard.snapshot.slice? datacenter.name = some held ∧
      ∀ networks now, ∃ slice,
        (dashboard.pollOnce networks now).snapshot.slice? datacenter.name = some slice ∧
        slice.AllOrNothing (datacenter.backend setup.policy) (networks datacenter.name) now
          (if setup.policy.retainStaleData then held.data else Collections.empty) ∧
        slice.Unordered (datacenter.backend setup.policy) (networks datacenter.name) setup.policy
          dashboard.snapshot now) ∧
    ((∃ network,
        (∃ endpoint ahead,
          (datacenter.backend setup.policy).connection.Hangs network endpoint ahead) ∧
        (datacenter.backend setup.policy).connection.Overtaken network
          (datacenter.pollTimeout setup.policy)) ↔
      setup.policy.dispatchTimeout.milliseconds ≤
        (datacenter.pollTimeout setup.policy).milliseconds ∧
      ∃ endpoint ≠ .checks, ∃ request,
        (datacenter.backend setup.policy).connection.asking endpoint = .ok request) := by
  refine ⟨?_, Connection.exists_overtaken_iff.trans
    (and_congr_left fun _ => Datacenter.limit_le_pollTimeout_iff)⟩
  obtain ⟨held, there⟩ := reached.exists_slice? registered
  refine ⟨held, there, fun networks now => ⟨_, reached.slice?_pollOnce registered networks now,
    Backend.slice_allOrNothing _ setup.policy there (networks datacenter.name) now, ?_⟩⟩
  intro progress heard
  refine ⟨Progress.exists_final _ _ _ progress, fun final => ?_⟩
  rw [Backend.verdict_eq_poll heard final]

end Dashboard

namespace Sample

/-- Networks in which the clients are answered with an error and the events not at all. -/
def troubled : Networks := fun _ request =>
  if request.url.path = .segments ["clients"] then .reply 500 []
  else if request.url.path = .segments ["events"] then .closed
  else .reply 200 (Text.Utf8.encode "[]")

/-- Networks in which the stashes never come, besides. -/
def mute : Networks := fun name request =>
  if request.url.path = .segments ["stashes"] then .silence true else troubled name request

theorem not_hangs_troubled {connection : Connection} {name : String} {endpoint : Endpoint}
    {ahead : Bool} : ¬ connection.Hangs (troubled name) endpoint ahead := by
  rintro ⟨request, -, hanging⟩
  unfold troubled at hanging
  split_ifs at hanging <;> simp at hanging

theorem exists_asking (network : Network) (endpoint : Endpoint) (answer : Answer)
    (met : ((east.backend setup.policy).connection.asking endpoint).toOption.map network =
      some answer) :
    ∃ request, (east.backend setup.policy).connection.asking endpoint = .ok request ∧
      network request = answer := by
  obtain ⟨request, made, same⟩ := Option.map_eq_some_iff.mp met
  exact ⟨request, eq_ok_of_toOption_eq_some made, same⟩

end Sample

namespace Dashboard

/-- The error of the clients counts, and not that of the events behind them; but a reply that never
comes makes the poll time out. -/
theorem poll_all_or_nothing_troubled :
    Reachable Sample.setup Sample.fresh ∧ Sample.east ∈ Sample.setup.registry.datacenters ∧
      ((Sample.fresh.pollOnce Sample.troubled ⟨1, 0⟩).snapshot.slice? "east").bind
        (·.status.lastError) = some "Datacenter API error (HTTP 500): Internal Server Error" ∧
      ((Sample.fresh.pollOnce Sample.mute ⟨1, 0⟩).snapshot.slice? "east").bind
        (·.status.lastError) = some "poll timed out after 5s" := by
  have registered : Sample.east ∈ Sample.setup.registry.datacenters := List.mem_singleton_self _
  obtain ⟨⟨held, -, polled⟩, -⟩ := poll_all_or_nothing Sample.reachable_fresh registered
  obtain ⟨troubled, thereTroubled, outcomeTroubled, -⟩ := polled Sample.troubled ⟨1, 0⟩
  obtain ⟨mute, thereMute, outcomeMute, -⟩ := polled Sample.mute ⟨1, 0⟩
  rw [show Sample.east.name = "east" from rfl] at *
  refine ⟨Sample.reachable_fresh, registered, ?_, ?_⟩
  · obtain ⟨request, made, refused⟩ := Sample.exists_asking (Sample.troubled "east") .clients
      (.reply 500 []) (by decide +kernel)
    obtain ⟨first, firstMade, empty⟩ := Sample.exists_asking (Sample.troubled "east") .checks
      (.reply 200 (Text.Utf8.encode "[]")) (by decide +kernel)
    have fine : ∀ before ∈ Endpoint.clients.earlier, ∃ list,
        (Sample.east.backend Sample.setup.policy).connection.Reads (Sample.troubled "east") before
          list := by
      intro before member
      have only : before = .checks := List.mem_singleton.mp member
      subst only
      exact ⟨[], first, _, _, firstMade, empty, by decide, by decide,
        eq_ok_of_toOption_eq_some (by decide +kernel)⟩
    obtain ⟨reason, rfl | ⟨_, _, _, ⟨⟩, -⟩, same⟩ := outcomeTroubled.stopped _ _
      ⟨fun _ outlasts => outlasts.1.elim fun _ => Sample.not_hangs_troubled, fine,
        Or.inl (.refused made refused (by decide))⟩
    rw [thereTroubled, same]
    exact congrArg some (by decide +kernel)
  · obtain ⟨request, made, silent⟩ := Sample.exists_asking (Sample.mute "east") .stashes
      (.silence true) (by decide +kernel)
    -- A command may take twice as long as a poll, so the connection would go on waiting.
    have unlapsed : ∀ limit, ¬ (Sample.east.backend Sample.setup.policy).connection.Lapses
        (Sample.mute "east") .stashes (Sample.east.backend Sample.setup.policy).pollTimeout
        limit := by
      rintro limit ⟨⟨⟩, _, _, precedes⟩
      exact absurd (Duration.le_of_precedes precedes) (by decide)
    rw [thereMute, outcomeMute.outlasted ⟨.stashes, ⟨true, request, made, Or.inl silent⟩, unlapsed⟩]
    exact congrArg some (by decide +kernel)

end Dashboard

namespace Sample

/-- The datacenter of the samples with as much time for a poll as for a command. -/
def patient : Datacenter := { east with timeout := some (.ofSeconds 10) }

/-- That datacenter, alone. -/
def patientSetup : Setup := { setup with registry := ⟨[patient], [], by decide +kernel⟩ }

/-- The dashboard over it, before the first poll. -/
def patientFresh : Dashboard :=
  ⟨patientSetup, patientSetup.backends, Snapshot.initial ["east"], false, false⟩

theorem reachable_patientFresh : Dashboard.Reachable patientSetup patientFresh :=
  ⟨fun _ => .vacant "", patientFresh, [], rfl, rfl⟩

/-- Networks in which the checks are answered with an error and the events never come. -/
def overtaking : Networks := fun _ request =>
  if request.url.path = .segments ["checks"] then .reply 500 []
  else if request.url.path = .segments ["events"] then .silence true
  else .reply 200 (Text.Utf8.encode "[]")

end Sample

namespace Dashboard

/-- The events never come, and what is recorded is the error of the checks and no timeout. -/
theorem timeout_overtaken :
    Reachable Sample.patientSetup Sample.patientFresh ∧
      Sample.patient ∈ Sample.patientSetup.registry.datacenters ∧
      (Sample.patient.backend Sample.patientSetup.policy).connection.Hangs
        (Sample.overtaking "east") .events true ∧
      ∃ reason, ((Sample.patientFresh.pollOnce Sample.overtaking ⟨1, 0⟩).snapshot.slice?
          "east").bind (·.status.lastError) = some reason ∧
        reason = "Datacenter API error (HTTP 500): Internal Server Error" ∧
        ¬ ApiError.Untimely (Sample.patient.pollTimeout Sample.patientSetup.policy) reason := by
  have asked : ((Sample.patient.backend Sample.patientSetup.policy).connection.asking
      .events).toOption.map (Sample.overtaking "east") = some (.silence true) := by decide +kernel
  obtain ⟨request, made, silent⟩ := Option.map_eq_some_iff.mp asked
  refine ⟨Sample.reachable_patientFresh, List.mem_singleton_self _,
    ⟨request, eq_ok_of_toOption_eq_some made, Or.inl silent⟩, _, ?_, rfl, ?_⟩
  · decide +kernel
  · exact @ApiError.not_untimely (.http 500 "Internal Server Error") (fun _ => nofun) _
      (Or.inl (by decide +kernel)) _

end Dashboard

end FleetView
