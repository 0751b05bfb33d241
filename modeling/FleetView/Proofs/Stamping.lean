/-
This file says that what is relayed is what was asked for. The body of a request for a
silence entry, a stash or a run of a check is decoded to the request of the command. A
caller with a name has that name put into it, as the creator of the silence entry or as
one member of the content of the stash, whatever stood there, and nothing else changes.
For all other commands and callers it makes no difference to what is relayed whether
access is looked at.
-/

import FleetView.Proofs.Addressing
import FleetView.Proofs.Requests

namespace FleetView

/-! ### What a body says -/

namespace Action

/-- Whether an action asks with a request that can be written: for a silence entry, a stash or a
run of a check. -/
def Fits : Action → Prop
  | .createSilence request => Seconds request.expire
  | .createStash request => request.Fits
  | .issueCheckExecution _ => True
  | _ => False

/-- Whether a text is decoded to what an action asks for. -/
def ReadFrom (text : String) : Action → Prop
  | .createSilence request => SilenceRequest.decoder.fromText text = .ok request
  | .createStash request => StashRequest.decoder.fromText text = .ok request
  | .issueCheckExecution request => ExecutionRequest.decoder.fromText text = .ok request
  | _ => False

/-- What is asked for once a caller's name is in it. -/
inductive Stamped (username : String) : Action → Action → Prop where
  | silence (asked : SilenceRequest) :
    Stamped username (.createSilence asked) (.createSilence { asked with creator := some username })
  | stash (asked other : StashRequest) (path : other.path = asked.path)
      (expire : other.expire = asked.expire)
      (content : ∀ entry, entry ∈ other.content ↔
        entry = ("username", .string username) ∨ entry ∈ asked.content ∧ entry.1 ≠ "username")
      (ordered : Ascending Prod.fst other.content) :
    Stamped username (.createStash asked) (.createStash other)
  | execution (asked : ExecutionRequest) :
    Stamped username (.issueCheckExecution asked) (.issueCheckExecution asked)

/-- The body of what an action writes is decoded to what it asks for. -/
theorem write_of_fits {action : Action} (fits : action.Fits) :
    action.write.method = .post ∧
      ∃ body, action.write.body = some body ∧ action.ReadFrom body.compact := by
  cases action with
  | createSilence request =>
    exact ⟨rfl, _, rfl, (SilenceRequest.stands fits).fromText_compact⟩
  | createStash request => exact ⟨rfl, _, rfl, (StashRequest.stands fits).fromText_compact⟩
  | issueCheckExecution request =>
    refine ⟨rfl, _, rfl, ?_⟩
    rw [Json.memberOfOption, List.append_nil]
    exact (ExecutionRequest.stands request).fromText_compact
  | _ => cases fits

/-- With a caller's name in it, a request that can be written is what it should be and can still be
written. -/
theorem stamped_stamp {identity : Identity} {username : String}
    (named : identity.username = some username) {action : Action} (fits : action.Fits) :
    Stamped username action (identity.stamp action) ∧ (identity.stamp action).Fits := by
  unfold Identity.stamp
  rw [named]
  cases action with
  | createSilence request => exact ⟨.silence request, fits⟩
  | createStash request =>
    have ascending := (Json.tidy_object_iff.mp fits.tidy).1
    exact ⟨.stash _ _ rfl rfl (fun _ => Bag.mem_insert_iff ascending)
      (Bag.ascending_insert _ _ ascending), fits.insert _ _⟩
  | issueCheckExecution request => exact ⟨.execution request, fits⟩
  | _ => cases fits

/-- A caller without a name leaves all actions as they are, and any caller leaves those that
create neither a silence entry nor a stash. -/
theorem stamp_eq_self {identity : Identity} {action : Action}
    (unnamed : identity.username = none ∨
      (∀ request, action ≠ .createSilence request) ∧ ∀ request, action ≠ .createStash request) :
    identity.stamp action = action := by
  unfold Identity.stamp
  rcases unnamed with none | ⟨noSilence, noStash⟩
  · rw [none]
  · split
    · exact absurd rfl (noSilence _)
    · exact absurd rfl (noStash _)
    · rfl

end Action

namespace Dashboard

variable {setup : Setup} {dashboard : Dashboard}

/-- What is sent for a command that asks with a request is one POST, whose body says what was asked
for. -/
theorem sent_of_fits {command : Command} (fits : command.action.Fits) {network : Network}
    {request : Request} (sent : request ∈ (dashboard.dispatch command network).sent) :
    (dashboard.dispatch command network).sent = [request] ∧ request.method = .post ∧
      ∃ body, request.body = some body ∧ command.action.ReadFrom body := by
  obtain ⟨-, alone, backend, -, -, made⟩ := Command.of_mem_dispatch sent
  obtain ⟨method, body, -⟩ := Connection.of_writing_eq_ok made
  obtain ⟨post, written, has, read⟩ := Action.write_of_fits fits
  rw [has] at body
  exact ⟨alone, method.trans post, _, body, read⟩

/-- A command that no name is put into is relayed as if access were not looked at. -/
theorem Reachable.execute_eq_dispatch (reached : Reachable setup dashboard) {identity : Identity}
    {command : Command} (same : identity.stamp command.action = command.action)
    {network : Network} (relays : dashboard.Relays identity command network) :
    dashboard.execute identity command network = dashboard.dispatch command network := by
  have valid := ((reached.relays_iff identity command network).mp relays).valid
  obtain ⟨backend, member, named, result⟩ := relays
  have found : (dashboard.backends.find? fun backend =>
      decide (backend.name = command.datacenter)) = some backend := by
    rw [reached.backends_eq] at member ⊢
    exact setup.find?_backends_iff.mpr ⟨member, named⟩
  rw [result, same, dispatch, Command.dispatch, valid, found]

/-- What is relayed is what was asked for. Where a command asks with a request, the one POST that
is sent for it has a body that is decoded to this request; where a caller with a name has it
relayed, the body is decoded to the request with the name in it. For all other commands, and for a
caller without a name, what is sent and what is told are the same as without looking at access. -/
theorem relayed_as_asked (reached : Reachable setup dashboard) (identity : Identity)
    (command : Command) (network : Network) :
    (command.action.Fits → ∀ request ∈ (dashboard.dispatch command network).sent,
      (dashboard.dispatch command network).sent = [request] ∧ request.method = .post ∧
        ∃ body, request.body = some body ∧ command.action.ReadFrom body) ∧
    (command.action.Fits → ∀ username, identity.username = some username →
      ∀ request ∈ (dashboard.execute identity command network).sent,
        (dashboard.execute identity command network).sent = [request] ∧ request.method = .post ∧
          ∃ body stamped, request.body = some body ∧ stamped.ReadFrom body ∧
            Action.Stamped username command.action stamped) ∧
    ((identity.username = none ∨ (∀ asked, command.action ≠ .createSilence asked) ∧
        ∀ asked, command.action ≠ .createStash asked) →
      dashboard.Relays identity command network →
        dashboard.execute identity command network = dashboard.dispatch command network) := by
  refine ⟨fun fits request => sent_of_fits fits, fun fits username named request sent => ?_,
    fun unnamed => reached.execute_eq_dispatch (Action.stamp_eq_self unnamed)⟩
  obtain ⟨stamped, stillFits⟩ := Action.stamped_stamp named fits
  rcases command.execute_cases identity dashboard.snapshot dashboard.backends
    dashboard.setup.policy network with ⟨failure, -, refused⟩ | ⟨-, denied | same⟩
  · rw [execute, refused] at sent
    cases sent
  · rw [execute, denied] at sent
    cases sent
  · rw [execute, same] at sent ⊢
    have stampedFits :
        (Command.mk command.datacenter (identity.stamp command.action)).action.Fits := stillFits
    obtain ⟨alone, post, body, has, read⟩ := sent_of_fits stampedFits sent
    exact ⟨alone, post, body, _, has, read, stamped⟩

end Dashboard

namespace Sample

/-- A caller with a name and without bounds. -/
def dave : Identity := .named "dave" .all

/-- Asks for a stash in the name of someone else, for an hour. -/
def pretence : Command :=
  ⟨"near", .createStash ⟨"silence/web",
    [("note", .string "down"), ("username", .string "mallory")], some 3600⟩⟩

end Sample

namespace Dashboard

/-- A stash that is asked for in the name of someone else is sent in the caller's own name. -/
theorem relayed_as_asked_pretence :
    Reachable Sample.nearSetup Sample.nearFresh ∧ Sample.pretence.action.Fits ∧
      ∃ request body stamped,
        (Sample.nearFresh.execute Sample.dave Sample.pretence fun _ => .reply 200 []).sent =
          [request] ∧
        request.body = some body ∧ stamped.ReadFrom body ∧
        Action.Stamped "dave" Sample.pretence.action stamped := by
  have reached := Sample.reachable_nearFresh
  have fits : Sample.pretence.action.Fits :=
    ⟨by decide +kernel, by decide +kernel, by decide +kernel, fun _ same => by cases same; decide⟩
  have some : (Sample.nearFresh.execute Sample.dave Sample.pretence
      fun _ => .reply 200 []).sent.length = 1 := by decide +kernel
  obtain ⟨request, sent⟩ := List.length_eq_one_iff.mp some
  obtain ⟨-, -, body, stamped, has, read, named⟩ := (relayed_as_asked reached Sample.dave
    Sample.pretence fun _ => .reply 200 []).2.1 fits "dave" rfl request
      (sent ▸ List.mem_singleton_self request)
  exact ⟨reached, fits, request, body, stamped, sent, has, read, named⟩

end Dashboard

end FleetView
