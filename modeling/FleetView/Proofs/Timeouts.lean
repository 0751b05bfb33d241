/-
This file is about timeouts. A reply that never comes is meant to be recorded as one, even
where other replies are worse. That is so as long as the poll gives up before the connection
does. Where the limits of both are equally long, the connection may be noticed first; the call
then ends like any other, and an endpoint that is asked before it and fails is what is recorded
instead. Replies that lead to this can be had exactly where the limit of the connection is no
longer than that of the poll.
-/

import FleetView.Proofs.Endpoints

namespace FleetView

/-! ### What is recorded of an error -/

namespace ApiError

/-- How an error is recorded: by its message, behind which the place in the text may stand where
a text could not be read. -/
def RecordedAs (error : ApiError) (reason : String) : Prop :=
  reason = error.message ∨
    ∃ fault body place, error = .unreadable fault body ∧ reason = error.message ++ place

/-- A record that is one of a timeout, be it of the poll or of a request. -/
def Untimely (patience : Duration) (reason : String) : Prop :=
  reason = "poll timed out after " ++ patience.text ++ "s" ∨
    ∃ seconds, reason = (timeout seconds).message

theorem head?_append {front : String} {first : Char} (begins : front.toList.head? = some first)
    (behind : String) : (front ++ behind).toList.head? = some first := by
  rw [String.toList_append, List.head?_append, begins]
  rfl

/-- The first character of a message, but for a timeout. -/
theorem head?_message {error : ApiError} (other : ∀ seconds, error ≠ .timeout seconds) :
    ∃ first ∈ ['H', 'I', 'T', 'D'], error.message.toList.head? = some first := by
  cases error with
  | timeout seconds => exact absurd rfl (other seconds)
  | noConnection url => exact ⟨'H', by decide, head?_append (head?_append rfl _) _⟩
  | notCallable url => exact ⟨'H', by decide, head?_append (head?_append rfl _) _⟩
  | brokenBody => exact ⟨'H', by decide, rfl⟩
  | invalidUrl flaw => exact ⟨'I', by decide, head?_append rfl _⟩
  | tls reason => exact ⟨'T', by decide, head?_append rfl _⟩
  | http status reason =>
    exact ⟨'D', by decide, head?_append (head?_append (head?_append rfl _) _) _⟩
  | unreadable reason body => exact ⟨'D', by decide, head?_append rfl _⟩

/-- What is recorded of any other error does not read like a timeout. -/
theorem not_untimely {error : ApiError} (other : ∀ seconds, error ≠ .timeout seconds)
    {reason : String} (recorded : error.RecordedAs reason) (patience : Duration) :
    ¬ Untimely patience reason := by
  obtain ⟨first, listed, begins⟩ := head?_message other
  have same : reason.toList.head? = some first := by
    rcases recorded with rfl | ⟨-, -, place, -, rfl⟩
    · exact begins
    · exact head?_append begins place
  rintro (rfl | ⟨seconds, rfl⟩)
  · have other : some 'p' = some first :=
      (head?_append (head?_append rfl _) _).symm.trans same
    rw [← Option.some.inj other] at listed
    exact absurd listed (by decide)
  · have other : some 'R' = some first :=
      (head?_append (head?_append rfl _) _).symm.trans same
    rw [← Option.some.inj other] at listed
    exact absurd listed (by decide)

end ApiError

/-! ### Errors that come first -/

namespace Connection

variable {connection : Connection} {network : Network} {patience : Duration}

theorem Fails.ne_timeout {endpoint : Endpoint} {error : ApiError}
    (fails : connection.Fails network endpoint error) (seconds : Nat) :
    error ≠ .timeout seconds := by
  cases fails with
  | unmade unmade =>
    rcases request_eq_error unmade with ⟨flaw, rfl⟩ | ⟨url, rfl⟩ <;> exact nofun
  | closed | cut | refused | unreadable => exact nofun

/-- The connection gives up every reply that never comes, and some endpoint fails that is asked
before all of these. -/
structure Overtaken (connection : Connection) (network : Network) (patience : Duration) :
    Prop where
  lapsed : ∀ endpoint ahead, connection.Hangs network endpoint ahead →
    ∃ limit, connection.Lapses network endpoint patience limit
  failing : ∃ endpoint error, connection.Fails network endpoint error ∧
    ∀ before ∈ endpoint.earlier, ∃ list, connection.Reads network before list

/-- The endpoint that the poll stops at is the one that fails. -/
theorem Overtaken.fails (overtaken : connection.Overtaken network patience) {endpoint : Endpoint}
    {error : ApiError} (first : connection.FirstStops network endpoint patience error) :
    connection.Fails network endpoint error := by
  obtain ⟨failing, failure, fails, fine⟩ := overtaken.failing
  rcases Endpoint.earlier_or_eq_or_earlier endpoint failing with front | rfl | behind
  · obtain ⟨list, reads⟩ := fine endpoint front
    cases (hears_of_reads reads).symm.trans (hears_of_stops first.stops)
  · cases (@hears_of_fails _ _ _ patience _ fails).symm.trans (hears_of_stops first.stops)
    exact fails
  · obtain ⟨list, reads⟩ := first.fine failing behind
    cases (read_of_reads reads).symm.trans (read_of_fails fails)

/-- In a network that answers as assigned, the replies never come that are assigned to be such. -/
theorem hangs_iff_of_answers {assigned : Endpoint → Answer}
    (answers : ∀ endpoint request, connection.asking endpoint = .ok request →
      network request = assigned endpoint) {endpoint : Endpoint} {ahead : Bool} :
    connection.Hangs network endpoint ahead ↔
      (∃ request, connection.asking endpoint = .ok request) ∧
        (assigned endpoint = .silence ahead ∨
          ∃ status body, assigned endpoint = .stalled status body ahead) := by
  constructor
  · rintro ⟨request, made, hanging⟩
    rw [answers endpoint request made] at hanging
    exact ⟨⟨request, made⟩, hanging⟩
  · rintro ⟨⟨request, made⟩, hanging⟩
    refine ⟨request, made, ?_⟩
    rwa [answers endpoint request made]

/-- There are replies of which one never comes and whose timeout is overtaken exactly where the
caller has the patience for the limit of the connection, and where some endpoint other than the
first can be asked at all. -/
theorem exists_overtaken_iff :
    (∃ network, (∃ endpoint ahead, connection.Hangs network endpoint ahead) ∧
      connection.Overtaken network patience) ↔
    (∃ limit, connection.limit = some limit ∧ limit.milliseconds ≤ patience.milliseconds) ∧
      ∃ endpoint ≠ .checks, ∃ request, connection.asking endpoint = .ok request := by
  constructor
  · rintro ⟨network, ⟨endpoint, ahead, hangs⟩, overtaken⟩
    obtain ⟨limit, limited, again, -, precedes⟩ := overtaken.lapsed endpoint ahead hangs
    refine ⟨⟨limit, limited, Duration.le_of_precedes precedes⟩, endpoint, ?_, hangs.imp
      fun _ both => both.1⟩
    -- The first endpoint would have to fail or to be read, and a reply that never comes is neither.
    rintro rfl
    obtain ⟨failing, failure, fails, fine⟩ := overtaken.failing
    rcases Endpoint.earlier_or_eq_or_earlier .checks failing with front | rfl | behind
    · obtain ⟨list, reads⟩ := fine .checks front
      cases (read_of_hangs hangs).symm.trans (read_of_reads reads)
    · cases (read_of_hangs hangs).symm.trans (read_of_fails fails)
    · exact absurd behind List.not_mem_nil
  · rintro ⟨⟨limit, limited, le⟩, endpoint, other, request, made⟩
    obtain ⟨network, answers⟩ := connection.exists_network fun endpoint =>
      if endpoint = .checks then .reply 500 [] else .silence true
    have hanging : ∀ {asked ahead}, connection.Hangs network asked ahead ↔
        (∃ question, connection.asking asked = .ok question) ∧ asked ≠ .checks ∧
          ahead = true := by
      intro asked ahead
      rw [hangs_iff_of_answers answers]
      by_cases first : asked = .checks <;> simp [first, eq_comm]
    refine ⟨network, ⟨endpoint, true, hanging.mpr ⟨⟨request, made⟩, other, rfl⟩⟩,
      fun asked ahead hangs => ?_, ?_⟩
    · obtain ⟨-, -, rfl⟩ := hanging.mp hangs
      exact ⟨limit, limited, true, hangs, Duration.precedes_of_le le⟩
    · cases put : connection.asking .checks with
      | error error => exact ⟨.checks, error, .unmade put, fun _ before => nomatch before⟩
      | ok question =>
        exact ⟨.checks, _, .refused put (answers .checks question put) (by decide),
          fun _ before => nomatch before⟩

end Connection

end FleetView
