/-
This file says which commands are relayed. A command passes three decisions on its
way: it is checked, the caller's access is looked at, and its datacenter is looked
up. Taken together they let a command through exactly when it is in order, its
datacenter is configured and open to the caller, and neither what is there nor what
would come to be there is out of the caller's scope. Whatever is not relayed sends
nothing and reads like absence or like a bad request.
-/

import FleetView.Proofs.Wellformed

namespace FleetView

/-! ### What is relayed -/

/-- A request that cannot be made fails for its URL. -/
theorem Connection.request_eq_error {connection : Connection} {method : Method}
    {segments : List String} {body : Option Json} {error : ApiError}
    (unmade : connection.request method segments body = .error error) :
    (∃ flaw, error = .invalidUrl flaw) ∨ ∃ url, error = .notCallable url := by
  unfold request at unmade
  split at unmade
  · exact Or.inl ⟨_, (Except.error.inj unmade).symm⟩
  · rename_i url _
    dsimp only at unmade
    generalize (if url.credentials?.isSome = true then url.withoutUserinfo else url) = bare at unmade
    split at unmade
    · exact Or.inr ⟨_, (Except.error.inj unmade).symm⟩
    · cases unmade

/-- A command whose request cannot be made is told to be rejected, with nothing sent. -/
theorem Backend.carry_of_unmade {backend : Backend} {command : Command} {error : ApiError}
    (unmade : backend.connection.writing command.action.write = .error error) (policy : Policy)
    (network : Network) :
    backend.carry command policy network =
      ⟨[], .error (.rejected command.datacenter error.message)⟩ := by
  have failed : backend.connection.write network command.action.write =
      .ended (.error error) := by
    unfold Connection.write Connection.call
    unfold Connection.writing at unmade
    rw [unmade]
    rfl
  rw [carry, unmade, failed]
  rcases Connection.request_eq_error unmade with ⟨flaw, rfl⟩ | ⟨url, rfl⟩ <;> rfl

/-- What is handed to a datacenter without a request being sent is told to be rejected; so it
never reads like absence. -/
theorem Backend.carry_unsent {backend : Backend} {command : Command} {policy : Policy}
    {network : Network} (unsent : (backend.carry command policy network).sent = []) :
    ∃ reason, (backend.carry command policy network).result =
      .error (.rejected command.datacenter reason) := by
  cases made : backend.connection.writing command.action.write with
  | ok request =>
    rw [carry, made] at unsent
    cases unsent
  | error error => exact ⟨_, congrArg Relayed.result (carry_of_unmade made policy network)⟩

theorem Backend.carry_ne {backend : Backend} {command : Command} {policy : Policy}
    {network : Network} {failure : Failure}
    (other : ∀ reason, failure ≠ .rejected command.datacenter reason) :
    backend.carry command policy network ≠ ⟨[], .error failure⟩ := by
  intro same
  obtain ⟨reason, rejected⟩ := Backend.carry_unsent (congrArg Relayed.sent same)
  rw [same] at rejected
  exact other reason (Except.error.inj rejected)

/-- The caller's name changes nothing that a command is checked for. -/
theorem Identity.validate_stamp (identity : Identity) (command : Command) (policy : Policy) :
    Command.validate { command with action := identity.stamp command.action } policy =
      command.validate policy := by
  obtain ⟨datacenter, action⟩ := command
  obtain ⟨name, role, datacenters, subscriptions, readonly⟩ := identity
  cases name <;> cases action <;> rfl

/-! ### Access -/

/-- Whether a snapshot holds an object as the target of a command. -/
def Snapshot.HoldsTarget (snapshot : Snapshot) (command : Command) (object : Object) : Prop :=
  object ∈ snapshot.list command.action.targetKind ∧
    object.datacenter = command.datacenter ∧ object.key = command.action.targetKey

/-- The actions whose target a caller with a subscription scope must know. -/
def Action.ActsOnKnown : Action → Prop
  | .deleteClient _ | .deleteCheckResult _ _ | .resolveEvent _ _ | .issueCheckExecution _ => True
  | _ => False

/-- What a caller has to satisfy to have a command carried out over a snapshot. -/
structure Identity.Entitled (identity : Identity) (snapshot : Snapshot) (command : Command) :
    Prop where
  acting : identity.readonly = false
  entering : command.datacenter ≠ "" ∧ identity.datacenters.contains command.datacenter = true
  target : ∀ object, snapshot.HoldsTarget command object →
    identity.mayActOn (.object object) = true
  silence : ∀ request, command.action = .createSilence request →
    identity.maySee (.object (.silence (request.preview command.datacenter))) = true
  client : ∀ request, command.action = .updateClient request →
    identity.maySee (.object (.client (request.preview command.datacenter))) = true
  known : identity.subscriptions.isSome = true → command.action.ActsOnKnown →
    ∃ object, snapshot.HoldsTarget command object
  audience : ∀ allowed, identity.subscriptions = some allowed → ∀ request,
    command.action = .issueCheckExecution request → ∀ check,
      snapshot.HoldsTarget command (.check check) → ∀ name ∈ request.audience check, name ∈ allowed

namespace Identity

variable {identity : Identity} {snapshot : Snapshot}

theorem mayActOn_of_acting (acting : identity.readonly = false) (subject : Subject) :
    identity.mayActOn subject = identity.maySee subject := by
  rw [mayActOn, acting, Bool.not_false, Bool.true_and]

/-- A caller with a subscription scope shares a name with every tagged subject in sight. -/
theorem shares_of_maySee {allowed : NameSet} {subject : Subject} {tags : List String}
    (scope : identity.subscriptions = some allowed) (tagged : subject.tags = some tags)
    (visible : identity.maySee subject = true) : ∃ name ∈ tags, name ∈ allowed := by
  unfold maySee sees at visible
  rw [scope, tagged, Bool.and_eq_true, List.any_eq_true] at visible
  obtain ⟨name, carried, shared⟩ := visible.2
  exact ⟨name, carried, of_decide_eq_true shared⟩

/-- What an action may bring about, given the object that is there. -/
theorem mayBringAbout_iff {datacenter : String} {action : Action} {existing : Option Object}
    (kinds : ∀ object, existing = some object → object.kind = action.targetKind) :
    identity.mayBringAbout datacenter action existing = true ↔
      (∀ request, action = .createSilence request →
        identity.mayActOn (.object (.silence (request.preview datacenter))) = true) ∧
      (∀ request, action = .updateClient request →
        identity.mayActOn (.object (.client (request.preview datacenter))) = true) ∧
      (identity.subscriptions.isSome = true → action.ActsOnKnown →
        ∃ object, existing = some object) ∧
      (∀ allowed, identity.subscriptions = some allowed → ∀ request,
        action = .issueCheckExecution request → ∀ check, existing = some (.check check) →
          ∀ name ∈ request.audience check, name ∈ allowed) := by
  cases action with
  | issueCheckExecution request =>
    cases scope : identity.subscriptions with
    | none => simp [mayBringAbout, scope]
    | some allowed =>
      cases existing with
      | none => simp [mayBringAbout, scope, Action.ActsOnKnown]
      | some object =>
        -- Only checks lie where the target of a run is looked up.
        cases object with
        | check check => simp [mayBringAbout, scope, Action.ActsOnKnown]
        | _ => cases kinds _ rfl
  | _ =>
    cases existing <;> cases scope : identity.subscriptions <;>
      simp [mayBringAbout, scope, Action.ActsOnKnown, Action.targetKind, Kind.mustBeKnown]

theorem mayEnter_iff {datacenter : String} :
    identity.mayEnter datacenter = true ↔
      datacenter ≠ "" ∧ identity.datacenters.contains datacenter = true := by
  rw [mayEnter, Bool.and_eq_true, decide_eq_true_eq]

/-- Access is given to exactly those who are entitled to it. -/
theorem mayExecute_iff (sound : snapshot.Sound) {command : Command} :
    identity.mayExecute snapshot command = true ↔ identity.Entitled snapshot command := by
  have held : ∀ object, snapshot.get? command.action.targetKind command.datacenter
      command.action.targetKey = some object ↔ snapshot.HoldsTarget command object :=
    fun object => sound.get?_eq_some_iff
  have kinds := fun object found => Snapshot.kind_of_mem_list ((held object).mp found).1
  rw [mayExecute, Bool.and_eq_true, Bool.and_eq_true, Bool.and_eq_true, mayBringAbout_iff kinds,
    Bool.not_eq_true', Option.all_eq_true, mayEnter_iff]
  constructor
  · rintro ⟨⟨⟨acting, entering⟩, target⟩, silence, client, known, audience⟩
    refine ⟨acting, entering, ?_, ?_, ?_, ?_, ?_⟩
    · exact fun object there => target object ((held object).mpr there)
    · exact fun request same => mayActOn_of_acting acting _ ▸ silence request same
    · exact fun request same => mayActOn_of_acting acting _ ▸ client request same
    · intro limited acts
      obtain ⟨object, found⟩ := known limited acts
      exact ⟨object, (held object).mp found⟩
    · exact fun allowed scope request same check there =>
        audience allowed scope request same check ((held _).mpr there)
  · intro entitled
    refine ⟨⟨⟨entitled.acting, entitled.entering⟩, ?_⟩, ?_, ?_, ?_, ?_⟩
    · exact fun object found => entitled.target object ((held object).mp found)
    · intro request same
      rw [mayActOn_of_acting entitled.acting]
      exact entitled.silence request same
    · intro request same
      rw [mayActOn_of_acting entitled.acting]
      exact entitled.client request same
    · intro limited acts
      obtain ⟨object, there⟩ := entitled.known limited acts
      exact ⟨object, (held object).mpr there⟩
    · exact fun allowed scope request same check found =>
        entitled.audience allowed scope request same check ((held _).mp found)

end Identity

/-! ### The three decisions together -/

namespace Setup

variable (setup : Setup)

theorem backends_names : setup.backends.map (·.name) = setup.registry.names := by
  rw [backends, List.map_map]
  rfl

/-- A lookup by name finds the one backend of that name. -/
theorem find?_backends_iff {name : String} {backend : Backend} :
    (setup.backends.find? fun backend => decide (backend.name = name)) = some backend ↔
      backend ∈ setup.backends ∧ backend.name = name := by
  refine find?_eq_some_iff_of_nodup ?_
  rw [backends_names]
  exact setup.registry.nodup_names

theorem find?_backends_eq_none_iff {name : String} :
    (setup.backends.find? fun backend => decide (backend.name = name)) = none ↔
      name ∉ setup.registry.names := by
  rw [← backends_names, List.find?_eq_none, List.mem_map, not_exists]
  refine forall_congr' fun backend => ?_
  rw [not_and, decide_eq_true_eq]

end Setup

theorem Command.validate_eq_error {command : Command} {policy : Policy} {failure : Failure}
    (refused : command.validate policy = .error failure) :
    ∃ reason, failure = .invalidPayload reason := by
  unfold validate at refused
  split at refused
  · cases refused
  · exact ⟨_, (Except.error.inj refused).symm⟩

namespace Dashboard

variable {setup : Setup} {dashboard : Dashboard}

/-- Whether a command is handed to the datacenter that it names, with the caller's name in it. -/
def Relays (dashboard : Dashboard) (identity : Identity) (command : Command)
    (network : Network) : Prop :=
  ∃ backend ∈ dashboard.backends, backend.name = command.datacenter ∧
    dashboard.execute identity command network =
      backend.carry { command with action := identity.stamp command.action }
        dashboard.setup.policy network

/-- What has to hold for a command of a caller to be relayed. -/
structure Admits (dashboard : Dashboard) (identity : Identity) (command : Command) : Prop where
  valid : command.validate dashboard.setup.policy = .ok ()
  entitled : identity.Entitled dashboard.snapshot command
  configured : command.datacenter ∈ dashboard.setup.registry.names

/-- How a command that is not relayed is answered: nothing is sent, and it reads like a bad
request or like the absence of its target or of its datacenter. -/
inductive Refuses (dashboard : Dashboard) (identity : Identity) (command : Command) :
    Relayed → Prop where
  | invalid {reason : String}
      (flawed : command.validate dashboard.setup.policy = .error (.invalidPayload reason)) :
      Refuses dashboard identity command ⟨[], .error (.invalidPayload reason)⟩
  | denied (valid : command.validate dashboard.setup.policy = .ok ())
      (unentitled : ¬ identity.Entitled dashboard.snapshot command) :
      Refuses dashboard identity command
        ⟨[], .error (.notFound command.action.targetKind.name command.action.targetKey)⟩
  | strange (valid : command.validate dashboard.setup.policy = .ok ())
      (entitled : identity.Entitled dashboard.snapshot command)
      (unknown : command.datacenter ∉ dashboard.setup.registry.names) :
      Refuses dashboard identity command ⟨[], .error (.notFound "datacenter" command.datacenter)⟩

variable {identity : Identity} {command : Command}

theorem Refuses.not_admits {relayed : Relayed}
    (refuses : dashboard.Refuses identity command relayed) :
    ¬ dashboard.Admits identity command := by
  intro admits
  cases refuses with
  | invalid flawed =>
    rw [admits.valid] at flawed
    cases flawed
  | denied valid unentitled => exact unentitled admits.entitled
  | strange valid entitled unknown => exact unknown admits.configured

/-- A refusal is never told as a rejection by a datacenter. -/
theorem Refuses.answer {relayed : Relayed}
    (refuses : dashboard.Refuses identity command relayed) :
    ∃ failure, relayed = ⟨[], .error failure⟩ ∧
      ∀ datacenter reason, failure ≠ .rejected datacenter reason := by
  cases refuses <;> exact ⟨_, rfl, nofun⟩

/-- What is relayed is never answered as a refusal, be it of this dashboard or of another: even
what cannot be sent is told to be rejected. -/
theorem Relays.not_refuses {other : Dashboard} {network : Network}
    (relays : dashboard.Relays identity command network) :
    ¬ other.Refuses identity command (dashboard.execute identity command network) := by
  intro refuses
  obtain ⟨failure, refused, unrejected⟩ := refuses.answer
  obtain ⟨backend, -, -, result⟩ := relays
  rw [result] at refused
  exact Backend.carry_ne (unrejected _) refused

/-- What becomes of a command is one of two: it is admitted and relayed, or it is refused. -/
theorem Reachable.relays_or_refuses (reached : Reachable setup dashboard) (identity : Identity)
    (command : Command) (network : Network) :
    (dashboard.Admits identity command ∧ dashboard.Relays identity command network) ∨
      dashboard.Refuses identity command (dashboard.execute identity command network) := by
  have access : identity.mayExecute dashboard.snapshot command = true ↔
      identity.Entitled dashboard.snapshot command := Identity.mayExecute_iff reached.sound
  obtain rfl := reached.setup_eq
  rw [Relays, reached.backends_eq, execute, reached.backends_eq, Command.execute]
  cases checked : command.validate dashboard.setup.policy with
  | error failure =>
    obtain ⟨reason, rfl⟩ := Command.validate_eq_error checked
    exact Or.inr (.invalid checked)
  | ok _ =>
    by_cases may : identity.mayExecute dashboard.snapshot command = true
    · rw [if_pos may, Command.dispatch, identity.validate_stamp, checked]
      cases found : dashboard.setup.backends.find? fun backend =>
          decide (backend.name = command.datacenter) with
      | none =>
        exact Or.inr (.strange checked (access.mp may)
          (dashboard.setup.find?_backends_eq_none_iff.mp found))
      | some backend =>
        obtain ⟨member, named⟩ := dashboard.setup.find?_backends_iff.mp found
        refine Or.inl ⟨⟨checked, access.mp may, ?_⟩, backend, member, named, rfl⟩
        rw [← dashboard.setup.backends_names, ← named]
        exact List.mem_map_of_mem member
    · rw [if_neg may]
      exact Or.inr (.denied checked fun entitled => may (access.mpr entitled))

/-- Relaying is being admitted, whatever the datacenter would answer. -/
theorem Reachable.relays_iff (reached : Reachable setup dashboard) (identity : Identity)
    (command : Command) (network : Network) :
    dashboard.Relays identity command network ↔ dashboard.Admits identity command := by
  rcases reached.relays_or_refuses identity command network with ⟨admits, relays⟩ | refuses
  · exact iff_of_true relays admits
  · exact iff_of_false (fun relays => relays.not_refuses refuses) refuses.not_admits

/-- A command is relayed as soon as each of the three decisions lets it through. -/
theorem Reachable.relays_of_mayExecute (reached : Reachable setup dashboard) (identity : Identity)
    (command : Command) (network : Network) (valid : command.validate setup.policy = .ok ())
    (may : identity.mayExecute dashboard.snapshot command = true)
    (configured : command.datacenter ∈ setup.registry.names) :
    dashboard.Relays identity command network := by
  refine (reached.relays_iff identity command network).mpr ⟨?_, ?_, ?_⟩
  · rwa [reached.setup_eq]
  · exact (Identity.mayExecute_iff reached.sound).mp may
  · rwa [reached.setup_eq]

/-- A caller with a subscription scope has a check run for someone, and for nobody outside of the
scope. -/
theorem Admits.audience (admits : dashboard.Admits identity command) {allowed : NameSet}
    (scope : identity.subscriptions = some allowed) {request : ExecutionRequest}
    (runs : command.action = .issueCheckExecution request) :
    ∃ check, dashboard.snapshot.HoldsTarget command (.check check) ∧
      request.audience check ≠ [] ∧ ∀ name ∈ request.audience check, name ∈ allowed := by
  have entitled := admits.entitled
  obtain ⟨object, there⟩ := entitled.known (by rw [scope]; rfl) (by rw [runs]; trivial)
  have kind : object.kind = .check := by
    have found := Snapshot.kind_of_mem_list there.1
    rwa [runs] at found
  cases object with
  | check check =>
    refine ⟨check, there, ?_, entitled.audience allowed scope request runs check there⟩
    have visible := entitled.target _ there
    rw [Identity.mayActOn_of_acting entitled.acting] at visible
    obtain ⟨name, shared, -⟩ := Identity.shares_of_maySee scope rfl visible
    rw [ExecutionRequest.audience]
    split
    · exact List.ne_nil_of_mem shared
    · assumption
  | _ => cases kind

/-- A command is relayed exactly when it is admitted, and refused exactly when it is not relayed. A
run of a check that a caller with a subscription scope has relayed is for some subscribers, all of
them in the scope. -/
theorem execute_confined (reached : Reachable setup dashboard) (identity : Identity)
    (command : Command) (network : Network) :
    (dashboard.Relays identity command network ↔ dashboard.Admits identity command) ∧
    (¬ dashboard.Relays identity command network ↔
      dashboard.Refuses identity command (dashboard.execute identity command network)) ∧
    (dashboard.Relays identity command network → ∀ allowed,
      identity.subscriptions = some allowed → ∀ request,
        command.action = .issueCheckExecution request →
          ∃ check, dashboard.snapshot.HoldsTarget command (.check check) ∧
            request.audience check ≠ [] ∧ ∀ name ∈ request.audience check, name ∈ allowed) := by
  rcases reached.relays_or_refuses identity command network with ⟨admits, relays⟩ | refuses
  · exact ⟨iff_of_true relays admits, iff_of_false (fun none => none relays) relays.not_refuses,
      fun _ _ scope _ runs => admits.audience scope runs⟩
  · have unrelayed : ¬ dashboard.Relays identity command network := fun relays =>
      relays.not_refuses refuses
    exact ⟨iff_of_false unrelayed refuses.not_admits, iff_of_true unrelayed refuses,
      fun relays => absurd relays unrelayed⟩

end Dashboard

namespace Sample

/-- A caller whose subscription scope is one name. -/
def operator (subscription : String) : Identity :=
  ⟨some "dave", none, .all, some [subscription], false⟩

/-- Asks for the silence of the samples to be cleared. -/
def clearing : Command := ⟨"east", .clearSilence "windows:*"⟩

/-- The silence is there, and it is of the scope of the caller. -/
theorem admits_clearing : (polled oneSilence).Admits (operator "windows") clearing where
  valid := by decide +kernel
  configured := by
    rw [(reachable_polled oneSilence).setup_eq]
    decide +kernel
  entitled := by
    refine ⟨rfl, by decide +kernel, ?_, nofun, nofun, nofun, nofun⟩
    rintro object ⟨member, -, -⟩
    rw [clearing, Action.targetKind, list_polled_oneSilence] at member
    rw [List.mem_singleton.mp member]
    decide +kernel

end Sample

/-- A caller may clear a silence of the own scope. -/
theorem Dashboard.execute_confined_clearing :
    Reachable Sample.setup (Sample.polled Sample.oneSilence) ∧
      (Sample.polled Sample.oneSilence).Relays (Sample.operator "windows") Sample.clearing
        fun _ => .reply 200 [] := by
  have reached := Sample.reachable_polled Sample.oneSilence
  exact ⟨reached, (execute_confined reached _ _ _).1.mpr Sample.admits_clearing⟩

end FleetView
