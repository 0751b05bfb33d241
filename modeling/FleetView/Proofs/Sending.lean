/-
This file says what is sent for a command. It is one request at most, to the datacenter
of that name, and it says what the action writes; before it goes out the command has
been checked. A caller whose access is looked at has the same sent for the stamped
command, or nothing.
-/

import FleetView.Proofs.Confinement

namespace FleetView

/-- A request that is made says what it was made for, at a URL further down from the base. -/
theorem Connection.of_request_eq_ok {connection : Connection} {method : Method}
    {segments : List String} {body : Option Json} {request : Request}
    (made : connection.request method segments body = .ok request) :
    request.method = method ∧ request.body = body.map Json.compact ∧
      ∃ url, connection.base.descend segments = .ok url ∧ request.url.path = url.path := by
  unfold Connection.request at made
  split at made
  · cases made
  · rename_i url down
    have path : (if url.credentials?.isSome = true then url.withoutUserinfo else url).path =
        url.path := by
      split <;> rfl
    dsimp only at made
    generalize (if url.credentials?.isSome = true then url.withoutUserinfo else url) = bare
      at made path
    split at made
    · cases made
    · cases made
      exact ⟨rfl, rfl, url, down, path⟩

/-- A request that is made says what is to be written. -/
theorem Connection.of_writing_eq_ok {connection : Connection} {write : Write} {request : Request}
    (made : connection.writing write = .ok request) :
    request.method = write.method ∧ request.body = write.body.map Json.compact ∧
      ∃ url, connection.base.descend write.segments = .ok url ∧ request.url.path = url.path :=
  of_request_eq_ok made

variable {command : Command} {backends : List Backend} {policy : Policy} {network : Network}
  {request : Request}

theorem Backend.of_mem_carry {backend : Backend}
    (sent : request ∈ (backend.carry command policy network).sent) :
    (backend.carry command policy network).sent = [request] ∧
      backend.connection.writing command.action.write = .ok request := by
  unfold carry at sent ⊢
  cases made : backend.connection.writing command.action.write with
  | error error =>
    rw [made] at sent
    cases sent
  | ok found =>
    rw [made] at sent
    cases List.mem_singleton.mp sent
    exact ⟨rfl, rfl⟩

namespace Command

/-- What is sent for a command is all that is sent, for a valid command, to a datacenter that has
the name. -/
theorem of_mem_dispatch (sent : request ∈ (command.dispatch backends policy network).sent) :
    command.validate policy = .ok () ∧
      (command.dispatch backends policy network).sent = [request] ∧
      ∃ backend ∈ backends, backend.name = command.datacenter ∧
        backend.connection.writing command.action.write = .ok request := by
  unfold dispatch at sent ⊢
  cases checked : command.validate policy with
  | error failure =>
    rw [checked] at sent
    cases sent
  | ok _ =>
    rw [checked] at sent
    cases found : backends.find? fun backend => decide (backend.name = command.datacenter) with
    | none =>
      rw [found] at sent
      cases sent
    | some backend =>
      rw [found] at sent
      obtain ⟨alone, made⟩ := Backend.of_mem_carry sent
      have named : backend.name = command.datacenter := by simpa using List.find?_some found
      exact ⟨rfl, alone, backend, List.mem_of_find?_eq_some found, named, made⟩

/-- A command of a caller is refused for what is wrong with it, or as if its target were not there,
or it comes to the same as the stamped one does without looking at access. -/
theorem execute_cases (command : Command) (identity : Identity) (snapshot : Snapshot)
    (backends : List Backend) (policy : Policy) (network : Network) :
    (∃ failure, command.validate policy = .error failure ∧
        command.execute identity snapshot backends policy network = ⟨[], .error failure⟩) ∨
      command.validate policy = .ok () ∧
        (command.execute identity snapshot backends policy network =
            ⟨[], .error (.notFound command.action.targetKind.name command.action.targetKey)⟩ ∨
          command.execute identity snapshot backends policy network =
            ({ command with action := identity.stamp command.action } : Command).dispatch backends
              policy network) := by
  unfold execute
  cases command.validate policy with
  | error failure => exact Or.inl ⟨failure, rfl, rfl⟩
  | ok _ => exact Or.inr ⟨rfl, (ite_eq_or_eq _ _ _).symm⟩

end Command

end FleetView
