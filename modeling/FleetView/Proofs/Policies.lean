/-
This file says which commands are in order and that no others leave anything to be seen
outside. A command is in order when it names what it needs and, if it asks for a silence
entry, keeps to the policy. Whatever is sent comes from such a command, and every body
that asks for a silence entry keeps to the policy itself, also with the caller's name in
it. All other commands are told to be invalid, whoever sends them and wherever to, and
no command in order ever is.
-/

import FleetView.Proofs.Stamping

namespace FleetView

/-! ### Commands in order -/

/-- Whether there is a text in which something can be seen. -/
def Text.Shown (text : Option String) : Prop := ∃ found, text = some found ∧ ¬ Text.Blank found

theorem Text.not_lacking_iff {text : Option String} : ¬ Text.Lacking text ↔ Text.Shown text := by
  rw [Text.Lacking, Text.Shown]
  push Not
  rfl

/-- A request for a silence entry that keeps to a policy. -/
structure SilenceRequest.Keeps (request : SilenceRequest) (policy : Policy) : Prop where
  silences : Text.Shown request.subscription ∨ Text.Shown request.check
  reason : policy.requireSilencingReason = true → Text.Shown request.reason
  ending : policy.disableNoExpiration = true →
    request.expireOnResolve = true ∨ ∃ seconds, request.expire = some seconds ∧ 1 ≤ seconds

/-- The names that an action is given, other than those in a request for a silence entry. -/
def Action.identifiers : Action → List String
  | .deleteClient name | .deleteAggregate name => [name]
  | .deleteCheckResult client check | .resolveEvent client check => [client, check]
  | .createSilence _ => []
  | .clearSilence id => [id]
  | .createStash request => [request.path]
  | .deleteStash path => [path]
  | .issueCheckExecution request => [request.check]
  | .updateClient request => [request.name]

/-- A command that can be passed on under a policy. -/
structure Command.InOrder (command : Command) (policy : Policy) : Prop where
  datacenter : ¬ Text.Blank command.datacenter
  identifiers : ∀ name ∈ command.action.identifiers, ¬ Text.Blank name
  silence : ∀ request, command.action = .createSilence request → request.Keeps policy

theorem SilenceRequest.not_isEndless_iff (request : SilenceRequest) :
    ¬ request.isEndless = true ↔
      request.expireOnResolve = true ∨ ∃ seconds, request.expire = some seconds ∧ 1 ≤ seconds := by
  rw [isEndless]
  cases request.expireOnResolve <;> cases request.expire <;> simp

theorem SilenceRequest.flaw?_eq_none_iff {request : SilenceRequest} {policy : Policy} :
    request.flaw? policy = none ↔ request.Keeps policy := by
  have kept : request.Keeps policy ↔
      ¬ (Text.Lacking request.subscription ∧ Text.Lacking request.check) ∧
      ¬ (policy.requireSilencingReason = true ∧ Text.Lacking request.reason) ∧
      ¬ (policy.disableNoExpiration = true ∧ request.isEndless = true) := by
    rw [not_and_or, Text.not_lacking_iff, Text.not_lacking_iff, not_and, Text.not_lacking_iff,
      not_and, request.not_isEndless_iff]
    exact ⟨fun keeps => ⟨keeps.silences, keeps.reason, keeps.ending⟩,
      fun ⟨silences, reason, ending⟩ => ⟨silences, reason, ending⟩⟩
  rw [kept, flaw?]
  split
  · rename_i flawed
    exact iff_of_false nofun fun held => held.1 flawed
  · rename_i silences
    split
    · rename_i flawed
      exact iff_of_false nofun fun held => held.2.1 flawed
    · rename_i reason
      split
      · rename_i flawed
        exact iff_of_false nofun fun held => held.2.2 flawed
      · rename_i ending
        exact iff_of_true rfl ⟨silences, reason, ending⟩

theorem Action.needs_map (action : Action) : action.needs.map Prod.fst = action.identifiers := by
  cases action <;> rfl

/-- No name is blank where none is found to be. -/
theorem blankFlaw?_eq_none_iff {needs : List (String × String)} :
    blankFlaw? needs = none ↔ ∀ name ∈ needs.map Prod.fst, ¬ Text.Blank name := by
  rw [blankFlaw?, Option.map_eq_none_iff, List.find?_eq_none, List.forall_mem_map]
  exact forall₂_congr fun need _ => not_congr decide_eq_true_iff

theorem Action.requestFlaw?_eq_none_iff {action : Action} {policy : Policy} :
    action.requestFlaw? policy = none ↔
      ∀ request, action = .createSilence request → request.Keeps policy := by
  cases action with
  | createSilence request =>
    rw [requestFlaw?, SilenceRequest.flaw?_eq_none_iff]
    exact ⟨fun keeps other same => Action.createSilence.inj same ▸ keeps, fun each => each _ rfl⟩
  | _ => exact iff_of_true rfl nofun

/-- The check lets through exactly the commands in order. -/
theorem Command.validate_eq_ok_iff {command : Command} {policy : Policy} :
    command.validate policy = .ok () ↔ command.InOrder policy := by
  have flawless : command.flaw? policy = none ↔ command.InOrder policy := by
    rw [flaw?, Option.or_eq_none_iff, blankFlaw?_eq_none_iff, Action.requestFlaw?_eq_none_iff,
      List.map_cons, Action.needs_map, List.forall_mem_cons]
    exact ⟨fun ⟨⟨datacenter, identifiers⟩, silence⟩ => ⟨datacenter, identifiers, silence⟩,
      fun order => ⟨⟨order.datacenter, order.identifiers⟩, order.silence⟩⟩
  rw [← flawless, validate]
  cases command.flaw? policy with
  | none => exact iff_of_true rfl rfl
  | some flaw => exact iff_of_false nofun nofun

/-! ### Where requests are posted -/

namespace Url

/-- Whether a text stands in a path as it is, wherever it is put: nothing in it is encoded, and it
is neither a step along the path nor a drive. -/
def Verbatim (segment : String) : Prop :=
  segment ≠ "" ∧ segment ≠ "." ∧ segment ≠ ".." ∧
    (∀ set ∈ [Percent.segment, Percent.specialSegment],
      String.ofList (Percent.encode set (unbroken segment.toList)) = segment) ∧
    isSingleDot segment = false ∧ isDoubleDot segment = false ∧ isDrive segment = false ∧
    partedDrive? segment.toList = none

instance : DecidablePred Verbatim := fun segment =>
  inferInstanceAs (Decidable (segment ≠ "" ∧ segment ≠ "." ∧ segment ≠ ".." ∧
    (∀ set ∈ [Percent.segment, Percent.specialSegment],
      String.ofList (Percent.encode set (unbroken segment.toList)) = segment) ∧
    isSingleDot segment = false ∧ isDoubleDot segment = false ∧ isDrive segment = false ∧
    partedDrive? segment.toList = none))

theorem exists_withoutEmptyFront {segment : String} (shown : segment ≠ "") (parts : List String) :
    ∃ front, withoutEmptyFront (parts ++ [segment]) = front ++ [segment] := by
  have kept : ∃ front, (parts ++ [segment]).dropWhile (· == "") = front ++ [segment] := by
    induction parts with
    | nil => exact ⟨[], List.dropWhile_cons_of_neg fun empty => shown (eq_of_beq empty)⟩
    | cons part rest inductionHypothesis =>
      rw [List.cons_append, List.dropWhile_cons]
      split
      · exact inductionHypothesis
      · exact ⟨part :: rest, rfl⟩
  obtain ⟨front, same⟩ := kept
  rw [withoutEmptyFront, same]
  cases front <;> exact ⟨_, rfl⟩

/-- Such a text comes last in the path that it is put behind. -/
theorem exists_extend {segment : String} (verbatim : Verbatim segment) (kind : SchemeKind)
    (parts : List String) : ∃ front, extend kind parts segment = front ++ [segment] := by
  obtain ⟨shown, notDot, notDots, kept, single, double, noDrive, noPart⟩ := verbatim
  have encoded : String.ofList (Percent.encode
      (if kind.isSpecial = true then Percent.specialSegment else Percent.segment)
        (unbroken segment.toList)) = segment := by
    refine kept _ ?_
    split
    · exact List.mem_cons_of_mem _ (List.mem_singleton_self _)
    · exact List.mem_cons_self
  have placed : ∀ before, place kind
      (if kind.isSpecial = true then Percent.specialSegment else Percent.segment) before
        segment.toList false = before ++ [segment] := by
    intro before
    simp only [place, encoded, single, double, noDrive, noPart, ite_self, Bool.false_eq_true,
      Bool.and_false, if_false]
  rw [extend, if_neg (not_or.mpr ⟨notDot, notDots⟩)]
  dsimp only
  rw [placed]
  split
  · exact exists_withoutEmptyFront shown _
  · exact ⟨_, rfl⟩

theorem path_of_descend_eq_ok {url further : Url} {before : List String} {segment : String}
    (verbatim : Verbatim segment) (down : url.descend (before ++ [segment]) = .ok further) :
    ∃ front, further.path = .segments (front ++ [segment]) := by
  rw [descend] at down
  split at down
  · cases down
  · rename_i parts _
    dsimp only at down
    rw [List.foldl_concat] at down
    obtain ⟨front, ended⟩ := exists_extend verbatim (SchemeKind.of url.scheme)
      (before.foldl (extend (SchemeKind.of url.scheme)) (withoutEmptyEnd parts))
    cases down
    exact ⟨front, congrArg UrlPath.segments ended⟩

end Url

/-- Whether a request posts to a collection. -/
def Request.PostsTo (request : Request) (collection : String) : Prop :=
  request.method = .post ∧ ∃ front, request.url.path = .segments (front ++ [collection])

/-- What is posted goes to a collection whose name stands in the URL as it is, and only requests
for silence entries go to that of silence entries. -/
theorem Action.segments_of_post {action : Action} (posts : action.write.method = .post) :
    ∃ front last, action.write.segments = front ++ [last] ∧ Url.Verbatim last ∧
      (last = "silenced" → ∃ request, action = .createSilence request) := by
  cases action with
  | deleteClient | deleteAggregate | deleteCheckResult | deleteStash => cases posts
  | createSilence request => exact ⟨[], "silenced", rfl, by decide +kernel, fun _ => ⟨request, rfl⟩⟩
  | resolveEvent => exact ⟨[], "resolve", rfl, by decide +kernel, fun same => nomatch same⟩
  | clearSilence => exact ⟨["silenced"], "clear", rfl, by decide +kernel, fun same => nomatch same⟩
  | createStash => exact ⟨[], "stashes", rfl, by decide +kernel, fun same => nomatch same⟩
  | issueCheckExecution =>
    exact ⟨[], "request", rfl, by decide +kernel, fun same => nomatch same⟩
  | updateClient => exact ⟨[], "clients", rfl, by decide +kernel, fun same => nomatch same⟩

/-- What an action posts to the collection of silence entries asks for one. -/
theorem Connection.of_postsTo_silenced {connection : Connection} {action : Action}
    {request : Request} (made : connection.writing action.write = .ok request)
    (posts : request.PostsTo "silenced") :
    ∃ silence, action = .createSilence silence ∧ request.body = some silence.toJson.compact := by
  obtain ⟨method, body, url, down, path⟩ := Connection.of_writing_eq_ok made
  obtain ⟨post, front, ends⟩ := posts
  obtain ⟨before, last, segments, verbatim, silences⟩ := Action.segments_of_post (method ▸ post)
  rw [segments] at down
  obtain ⟨other, otherEnds⟩ := Url.path_of_descend_eq_ok verbatim down
  rw [path, otherEnds] at ends
  have same : last = "silenced" :=
    (List.append_inj' (UrlPath.segments.inj ends) rfl).2 |> List.singleton_inj.mp
  obtain ⟨silence, rfl⟩ := silences same
  exact ⟨silence, rfl, body⟩

/-! ### Both paths -/

theorem Failure.ofApi_ne_invalidPayload (datacenter : String) (kind : Kind) (key : String)
    (error : ApiError) (reason : String) :
    Failure.ofApi datacenter kind key error ≠ .invalidPayload reason := by
  unfold ofApi
  split
  · exact nofun
  · split
    · exact nofun
    · split <;> exact nofun

namespace Command

variable {command : Command} {backends : List Backend} {policy : Policy} {network : Network}

/-- What a valid command comes to is never that it is invalid. -/
theorem dispatch_ne_invalidPayload (valid : command.validate policy = .ok ()) (reason : String) :
    (command.dispatch backends policy network).result ≠ .error (.invalidPayload reason) := by
  rw [dispatch, valid]
  dsimp only
  intro same
  split at same
  · cases same
  · rw [Backend.carry, settle.eq_def] at same
    dsimp only at same
    split at same
    · cases same
    · exact Failure.ofApi_ne_invalidPayload _ _ _ _ reason (Except.error.inj same)
    · cases same

end Command

namespace Dashboard

/-- What is sent for a command is sent for one in order, and where it asks for a silence entry, it
keeps to the policy. -/
theorem sent_inOrder {dashboard : Dashboard} {command : Command} {network : Network}
    {request : Request} (sent : request ∈ (dashboard.dispatch command network).sent) :
    command.InOrder dashboard.setup.policy ∧
      (request.PostsTo "silenced" → ∃ silence : SilenceRequest,
        request.body = some silence.toJson.compact ∧
          (Seconds silence.expire →
            SilenceRequest.decoder.fromText silence.toJson.compact = .ok silence) ∧
          silence.Keeps dashboard.setup.policy) := by
  obtain ⟨valid, -, backend, -, -, made⟩ := Command.of_mem_dispatch sent
  have order := Command.validate_eq_ok_iff.mp valid
  refine ⟨order, fun posts => ?_⟩
  obtain ⟨silence, asks, body⟩ := Connection.of_postsTo_silenced made posts
  exact ⟨silence, body,
    fun fits => (SilenceRequest.stands fits).fromText_compact, order.silence silence asks⟩

/-- The policy holds for all that is sent, whether access is looked at or not: it comes from a
command in order, and a body that asks for a silence entry keeps to the policy itself. Any other
command has nothing sent and is told to be invalid, and one in order is never told so. The caller's
name makes no difference to what a command is checked for. -/
theorem policy_kept (dashboard : Dashboard) (identity : Identity) (command : Command)
    (network : Network) :
    (∀ request, request ∈ (dashboard.dispatch command network).sent ∨
        request ∈ (dashboard.execute identity command network).sent →
      command.InOrder dashboard.setup.policy ∧
        (request.PostsTo "silenced" → ∃ silence : SilenceRequest,
          request.body = some silence.toJson.compact ∧
            (Seconds silence.expire →
              SilenceRequest.decoder.fromText silence.toJson.compact = .ok silence) ∧
            silence.Keeps dashboard.setup.policy)) ∧
    (¬ command.InOrder dashboard.setup.policy → ∃ reason,
      dashboard.dispatch command network = ⟨[], .error (.invalidPayload reason)⟩ ∧
        dashboard.execute identity command network = ⟨[], .error (.invalidPayload reason)⟩) ∧
    (command.InOrder dashboard.setup.policy → ∀ reason,
      (dashboard.dispatch command network).result ≠ .error (.invalidPayload reason) ∧
        (dashboard.execute identity command network).result ≠ .error (.invalidPayload reason)) ∧
    Command.validate { command with action := identity.stamp command.action }
      dashboard.setup.policy = command.validate dashboard.setup.policy := by
  have stamped := identity.validate_stamp command dashboard.setup.policy
  have ways := command.execute_cases identity dashboard.snapshot dashboard.backends
    dashboard.setup.policy network
  rw [← execute] at ways
  refine ⟨fun request sent => ?_, fun order => ?_, fun order reason => ?_, stamped⟩
  · rcases sent with direct | through
    · exact sent_inOrder direct
    · rcases ways with ⟨failure, -, refused⟩ | ⟨valid, denied | same⟩
      · rw [refused] at through
        cases through
      · rw [denied] at through
        cases through
      · rw [same] at through
        exact ⟨Command.validate_eq_ok_iff.mp valid, (sent_inOrder through).2⟩
  · cases checked : command.validate dashboard.setup.policy with
    | ok _ => exact absurd (Command.validate_eq_ok_iff.mp checked) order
    | error failure =>
      obtain ⟨reason, rfl⟩ := Command.validate_eq_error checked
      refine ⟨reason, ?_, ?_⟩
      · rw [dispatch, Command.dispatch, checked]
      · rw [execute, Command.execute, checked]
  · have valid := Command.validate_eq_ok_iff.mpr order
    refine ⟨Command.dispatch_ne_invalidPayload valid reason, ?_⟩
    rcases ways with ⟨failure, invalid, -⟩ | ⟨-, denied | same⟩
    · rw [valid] at invalid
      cases invalid
    · rw [denied]
      intro same
      cases same
    · rw [same]
      exact Command.dispatch_ne_invalidPayload (stamped.trans valid) reason

end Dashboard

namespace Sample

/-- Asks for all checks of a subscription to be silenced for an hour. -/
def silencing : Command :=
  ⟨"near", .createSilence ⟨some "windows", none, some "patch day", none, some 3600, false⟩⟩

end Sample

namespace Dashboard

/-- A silence entry that someone asks for is posted and keeps to the policy. -/
theorem policy_kept_silencing :
    Sample.silencing.InOrder Sample.nearSetup.policy ∧
      ∃ (request : Request) (silence : SilenceRequest),
        (Sample.nearFresh.execute Sample.dave Sample.silencing fun _ => .reply 201 []).sent =
          [request] ∧
        request.PostsTo "silenced" ∧ request.body = some silence.toJson.compact ∧
        silence.Keeps Sample.nearSetup.policy := by
  have posted : (Sample.nearFresh.execute Sample.dave Sample.silencing
      fun _ => .reply 201 []).sent.map (fun request => (request.method, request.url.path)) =
        [(.post, .segments ["silenced"])] := by decide +kernel
  obtain ⟨request, sent, said⟩ := List.map_eq_singleton_iff.mp posted
  obtain ⟨method, path⟩ := Prod.mk.inj said
  have posts : request.PostsTo "silenced" := ⟨method, [], path⟩
  obtain ⟨order, kept⟩ := (policy_kept Sample.nearFresh Sample.dave Sample.silencing
    fun _ => .reply 201 []).1 request (Or.inr (sent ▸ List.mem_singleton_self request))
  obtain ⟨silence, body, -, keeps⟩ := kept posts
  exact ⟨order, request, silence, sent, posts, body, keeps⟩

end Dashboard

end FleetView
