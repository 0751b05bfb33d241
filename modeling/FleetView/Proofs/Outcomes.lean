/-
This file says what a caller is told of a command that has been sent. An answer that
arrives in full decides by its status: success is acceptance, the status 404 is the
absence of the target, any other status is a rejection with the words of the answer,
and where nothing answers the datacenter is unreachable. An answer that is there only
in part is never told like this, not even one that says success: where its connection
ends the command reads as rejected, and where it stalls the datacenter reads as
unreachable.
-/

import FleetView.Proofs.Addressing
import FleetView.Proofs.Literals

namespace FleetView

/-! ### Answers and what is told of them -/

namespace Answer

/-- The status and what there is of the body, where something answers. -/
def begun? : Answer → Option (Nat × List UInt8)
  | .reply status body | .cut status body | .stalled status body _ => some (status, body)
  | .closed | .silence _ => none

/-- Whether an answer that has begun is there in full. -/
def Whole (answer : Answer) : Prop :=
  ∀ status body, answer.begun? = some (status, body) → answer = .reply status body

/-- The words of an answer: its body, or the usual name of its status where that is blank. -/
def wording (status : Nat) (body : List UInt8) : String :=
  if Text.Blank (Text.Utf8.decodeLossy body) then (HttpStatus.name? status).getD "unknown error"
  else Text.Utf8.decodeLossy body

/-- Whether a result tells what was answered to a command: each of the four results there are is
told for its answers only, and for all of them. -/
structure Told (answer : Answer) (command : Command) (result : Except Failure Accepted) :
    Prop where
  accepted : result = .ok ⟨command.datacenter⟩ ↔
    ∃ status body, answer.begun? = some (status, body) ∧ 200 ≤ status ∧ status ≤ 299
  notFound : result = .error (.notFound command.action.targetKind.name command.action.targetKey) ↔
    ∃ body, answer.begun? = some (404, body)
  rejected : ∀ reason, result = .error (.rejected command.datacenter reason) ↔
    ∃ status body, answer.begun? = some (status, body) ∧ ¬ (200 ≤ status ∧ status ≤ 299) ∧
      status ≠ 404 ∧ reason = "HTTP " ++ Nat.repr status ++ ": " ++ wording status body
  unreachable : (∃ reason, result = .error (.unreachable command.datacenter reason)) ↔
    answer.begun? = none

end Answer

namespace Command

variable (command : Command) (policy : Policy) (limit : Duration)

/-- Why a datacenter is told to be unreachable that a command has waited for in vain: either the
connection has given up the request, or the time for commands is up. -/
def delay (ahead : Bool) : String :=
  if limit.precedes policy.dispatchTimeout ahead then (ApiError.timeout limit.wholeSeconds).message
  else "no response within " ++ policy.dispatchTimeout.text ++ "s"

/-- What a caller is told of a command whose request met an answer, given the limit of the
connection and the URL that it was sent to. -/
def told (url : Url) : Answer → Except Failure Accepted
  | .reply status body =>
    if 200 ≤ status ∧ status ≤ 299 then .ok ⟨command.datacenter⟩
    else if status = 404 then
      .error (.notFound command.action.targetKind.name command.action.targetKey)
    else
      .error (.rejected command.datacenter
        ("HTTP " ++ Nat.repr status ++ ": " ++ Answer.wording status body))
  | .cut _ _ =>
    .error (.rejected command.datacenter "HTTP transport error: error decoding response body")
  | .closed => .error (.unreachable command.datacenter (ApiError.noConnection url.text).message)
  | .silence ahead | .stalled _ _ ahead =>
    .error (.unreachable command.datacenter (delay policy limit ahead))

/-- A command that is waited for in vain is told like that by whoever gives up first. -/
theorem settle_waits (ahead : Bool) :
    command.settle policy ((Outcome.waits ahead).heard (some limit) policy.dispatchTimeout) =
      .error (.unreachable command.datacenter (delay policy limit ahead)) := by
  unfold delay
  by_cases first : limit.precedes policy.dispatchTimeout ahead = true
  · rw [Outcome.heard_of_precedes first, if_pos first]
    rfl
  · rw [Outcome.heard_of_not_precedes first, if_neg first]
    rfl

theorem settle_send (request : Request) (network : Network) :
    command.settle policy (((request.send network).bind fun _ => .ok ()).heard (some limit)
        policy.dispatchTimeout) =
      command.told policy limit request.url (network request) := by
  rw [Request.send]
  cases network request with
  | reply status body =>
    have success : HttpStatus.isSuccess status = true ↔ 200 ≤ status ∧ status ≤ 299 := by
      rw [HttpStatus.isSuccess, Bool.and_eq_true, decide_eq_true_eq, decide_eq_true_eq]
    dsimp only [told]
    by_cases good : HttpStatus.isSuccess status = true
    · rw [if_pos good, if_pos (success.mp good)]
      rfl
    · rw [if_neg good, if_neg (success.not.mp good)]
      by_cases absent : status = 404
      · rw [if_pos absent, absent]
        rfl
      · have other : ∀ reason, (ApiError.http status reason).isNotFound = false := fun reason =>
          decide_eq_false fun same => absent (Option.some.inj same)
        rw [if_neg absent]
        dsimp only [settle, Outcome.bind, Outcome.heard, Except.bind, Failure.ofApi]
        rw [other]
        rfl
  | cut | closed => rfl
  | stalled _ _ ahead | silence ahead => exact command.settle_waits policy limit ahead

variable {command policy limit} {url : Url}

/-- What is told of a broken body is not what is told of any status. -/
theorem brokenBody_ne (status : Nat) (words : String) :
    "HTTP transport error: error decoding response body" ≠
      "HTTP " ++ Nat.repr status ++ ": " ++ words := by
  intro same
  obtain ⟨first, others, written, digital⟩ := Numeral.exists_toDigits status
  have fifth : some 't' = some first := by
    have chars := congrArg (fun text : String => text.toList[5]?) same
    simp only [Nat.repr, String.toList_append, String.toList_ofList, written] at chars
    exact chars
  cases fifth
  cases digital

/-- What is told of a reply is told by its status. -/
theorem told_reply (status : Nat) (body : List UInt8) :
    (Answer.reply status body).Told command
      (command.told policy limit url (.reply status body)) := by
  by_cases good : 200 ≤ status ∧ status ≤ 299
  · have found : status ≠ 404 := by omega
    constructor <;> simp [told, Answer.begun?, good, found]
  · by_cases absent : status = 404
    · constructor <;> simp [told, Answer.begun?, absent]
    · constructor <;> simp [told, Answer.begun?, -not_and, good, absent, eq_comm]

/-- That there is no answer is told as it is. -/
theorem told_of_begun?_eq_none {answer : Answer} (none : answer.begun? = none) :
    answer.Told command (command.told policy limit url answer) := by
  cases answer with
  | closed | silence => constructor <;> simp [told, Answer.begun?]
  | reply | cut | stalled => cases none

theorem not_told_cut (status : Nat) (body : List UInt8) :
    ¬ (Answer.cut status body).Told command
      (command.told policy limit url (.cut status body)) := by
  intro tells
  obtain ⟨found, words, -, -, -, same⟩ := (tells.rejected _).mp rfl
  exact brokenBody_ne found _ same

theorem not_told_stalled (status : Nat) (body : List UInt8) (ahead : Bool) :
    ¬ (Answer.stalled status body ahead).Told command
      (command.told policy limit url (.stalled status body ahead)) := by
  intro tells
  cases tells.unreachable.mp ⟨_, rfl⟩

/-- What was answered is told exactly where it is there in full. -/
theorem told_iff (answer : Answer) :
    answer.Told command (command.told policy limit url answer) ↔ answer.Whole := by
  cases answer with
  | reply status body =>
    refine iff_of_true (told_reply status body) ?_
    rintro _ _ ⟨⟩
    rfl
  | cut status body =>
    exact iff_of_false (not_told_cut status body) fun whole => nomatch whole status body rfl
  | stalled status body ahead =>
    exact iff_of_false (not_told_stalled status body ahead) fun whole =>
      nomatch whole status body rfl
  | closed | silence => exact iff_of_true (told_of_begun?_eq_none rfl) nofun

end Command

/-- A command whose request can be made has that one sent, and what the request meets is told. -/
theorem Backend.carry_of_made {backend : Backend} {limit : Duration}
    (limited : backend.connection.limit = some limit) {command : Command} {request : Request}
    (made : backend.connection.writing command.action.write = .ok request) (policy : Policy)
    (network : Network) :
    backend.carry command policy network =
      ⟨[request], command.told policy limit request.url (network request)⟩ := by
  have written : backend.connection.write network command.action.write =
      (request.send network).bind fun _ => .ok () := by
    unfold Connection.write Connection.call
    unfold Connection.writing at made
    rw [made]
  rw [carry, made, written, limited, command.settle_send]
  rfl

namespace Dashboard

variable {setup : Setup} {dashboard : Dashboard}

theorem Reachable.dispatch_of_made (reached : Reachable setup dashboard) {datacenter : Datacenter}
    (registered : datacenter ∈ setup.registry.datacenters) {command : Command}
    (there : command.datacenter = datacenter.name)
    (valid : command.validate setup.policy = .ok ()) {request : Request}
    (made : (datacenter.backend setup.policy).connection.writing command.action.write =
      .ok request) (network : Network) :
    dashboard.dispatch command network =
      ⟨[request], command.told setup.policy (datacenter.limit setup.policy) request.url
        (network request)⟩ := by
  rw [reached.dispatch_eq_carry registered there valid, Backend.carry_of_made rfl made]

theorem Reachable.dispatch_of_unmade (reached : Reachable setup dashboard)
    {datacenter : Datacenter} (registered : datacenter ∈ setup.registry.datacenters)
    {command : Command} (there : command.datacenter = datacenter.name)
    (valid : command.validate setup.policy = .ok ()) {error : ApiError}
    (unmade : (datacenter.backend setup.policy).connection.writing command.action.write =
      .error error) (network : Network) :
    dashboard.dispatch command network =
      ⟨[], .error (.rejected datacenter.name error.message)⟩ := by
  rw [reached.dispatch_eq_carry registered there valid, Backend.carry_of_unmade unmade, there]

/-- What becomes of a valid command for a datacenter. Where its request can be made at all, that
one is sent, and what is answered is told exactly where it is there in full: a broken answer reads
as rejected and a stalled one as unreachable, whatever their status. Where the request cannot be
made, nothing is sent, which reads as rejected too. -/
theorem dispatch_told_iff (reached : Reachable setup dashboard) {datacenter : Datacenter}
    (registered : datacenter ∈ setup.registry.datacenters) {command : Command}
    (there : command.datacenter = datacenter.name)
    (valid : command.validate setup.policy = .ok ()) :
    (∀ request, (datacenter.backend setup.policy).connection.writing command.action.write =
        .ok request → ∀ network,
      (dashboard.dispatch command network).sent = [request] ∧
      ((network request).Told command (dashboard.dispatch command network).result ↔
        (network request).Whole) ∧
      (∀ status body, network request = .cut status body →
        (dashboard.dispatch command network).result = .error (.rejected datacenter.name
          "HTTP transport error: error decoding response body")) ∧
      ∀ status body ahead, network request = .stalled status body ahead →
        (dashboard.dispatch command network).result = .error (.unreachable datacenter.name
          (Command.delay setup.policy (datacenter.limit setup.policy) ahead))) ∧
    ∀ error, (datacenter.backend setup.policy).connection.writing command.action.write =
        .error error → ∀ network,
      dashboard.dispatch command network =
        ⟨[], .error (.rejected datacenter.name error.message)⟩ := by
  refine ⟨fun request made network => ?_, fun error unmade network =>
    reached.dispatch_of_unmade registered there valid unmade network⟩
  rw [reached.dispatch_of_made registered there valid made]
  refine ⟨rfl, Command.told_iff _, fun status body cut => ?_, fun status body ahead stalled => ?_⟩
  · rw [cut, ← there]
    rfl
  · rw [stalled, ← there]
    rfl

end Dashboard

namespace Sample

/-- Asks for the client of the samples to be deleted. -/
def removal : Command := ⟨"near", .deleteClient "web"⟩

/-- The datacenter of the samples with a quotation mark in the host, to which no request can be
made. -/
def quoted : Datacenter :=
  { near with url := { near.url with
      authority := some ⟨"", none, some (.domain "a\"b"), none⟩ } }

/-- That datacenter, alone. -/
def quotedSetup : Setup := ⟨⟨[quoted], [], by decide +kernel⟩, DashboardSettings.standard.policy⟩

/-- The dashboard over it, before the first poll. -/
def quotedFresh : Dashboard :=
  ⟨quotedSetup, quotedSetup.backends, Snapshot.initial ["near"], false, false⟩

theorem reachable_quotedFresh : Dashboard.Reachable quotedSetup quotedFresh :=
  ⟨fun _ => .vacant "", quotedFresh, [], rfl, rfl⟩

theorem writing_removal :
    ∃ request, (near.backend nearSetup.policy).connection.writing removal.action.write =
      .ok request := by
  have made : ((near.backend nearSetup.policy).connection.writing
      removal.action.write).toOption.isSome = true := by decide +kernel
  cases written : (near.backend nearSetup.policy).connection.writing removal.action.write with
  | error error =>
    rw [written] at made
    cases made
  | ok request => exact ⟨request, rfl⟩

end Sample

namespace Dashboard

/-- The deletion of a client is sent, and the answer that there is no such client is told. -/
theorem dispatch_told_iff_absent :
    Reachable Sample.nearSetup Sample.nearFresh ∧
      Sample.near ∈ Sample.nearSetup.registry.datacenters ∧
      Sample.removal.datacenter = Sample.near.name ∧
      Sample.removal.validate Sample.nearSetup.policy = .ok () ∧
      (Answer.reply 404 []).Told Sample.removal
        (Sample.nearFresh.dispatch Sample.removal fun _ => .reply 404 []).result := by
  have reached := Sample.reachable_nearFresh
  have registered : Sample.near ∈ Sample.nearSetup.registry.datacenters :=
    List.mem_singleton_self _
  have valid : Sample.removal.validate Sample.nearSetup.policy = .ok () := by decide +kernel
  refine ⟨reached, registered, rfl, valid, ?_⟩
  obtain ⟨request, made⟩ := Sample.writing_removal
  obtain ⟨-, told, -⟩ :=
    (dispatch_told_iff reached registered rfl valid).1 request made fun _ => .reply 404 []
  refine told.mpr ?_
  rintro _ _ ⟨⟩
  rfl

/-- A deletion that the datacenter has accepted is told to be rejected where the connection ends
within the body of the answer, and the datacenter is told to be unreachable where the body stalls.
And a datacenter that nothing can be sent to is told to have rejected the deletion, although it
has answered nothing. -/
theorem acceptance_untold :
    Reachable Sample.nearSetup Sample.nearFresh ∧
      Reachable Sample.quotedSetup Sample.quotedFresh ∧
      (Sample.nearFresh.dispatch Sample.removal fun _ => .cut 200 []).result = .error
        (.rejected "near" "HTTP transport error: error decoding response body") ∧
      (∀ ahead, ∃ reason,
        (Sample.nearFresh.dispatch Sample.removal fun _ => .stalled 200 [] ahead).result =
          .error (.unreachable "near" reason)) ∧
      Sample.quotedFresh.dispatch Sample.removal (fun _ => .closed) = ⟨[], .error
        (.rejected "near"
          "HTTP transport error: builder error for url (http://a\"b/clients/web)")⟩ := by
  obtain ⟨request, made⟩ := Sample.writing_removal
  have removed : ∀ network, Sample.nearFresh.dispatch Sample.removal network =
      ⟨[request], Sample.removal.told Sample.nearSetup.policy
        (Sample.near.limit Sample.nearSetup.policy) request.url (network request)⟩ :=
    Sample.reachable_nearFresh.dispatch_of_made (List.mem_singleton_self _) rfl
      (by decide +kernel) made
  have unmade : (Sample.quoted.backend Sample.quotedSetup.policy).connection.writing
      Sample.removal.action.write = .error (.notCallable "http://a\"b/clients/web") := by
    decide +kernel
  refine ⟨Sample.reachable_nearFresh, Sample.reachable_quotedFresh, ?_, ?_, ?_⟩
  · rw [removed]
    rfl
  · intro ahead
    rw [removed]
    exact ⟨_, rfl⟩
  · exact Sample.reachable_quotedFresh.dispatch_of_unmade (List.mem_singleton_self _) rfl
      (by decide +kernel) unmade _

end Dashboard

end FleetView
