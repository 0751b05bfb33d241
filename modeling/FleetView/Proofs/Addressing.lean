/-
This file says where deletions go. The names of what is to be deleted become segments
of a URL behind the base of the datacenter, and they can be read back from it. So two
deletions that are about different things differ in their URLs, and none of them is
sent to a collection as a whole. This holds of names that can be said in a URL; the
deletion of a dot goes astray, and so does that of a stash whose path names nothing.
-/

import FleetView.Proofs.Joining
import FleetView.Proofs.Paths
import FleetView.Proofs.Sending
import FleetView.Proofs.Translation

namespace FleetView

/-! ### Paths of stashes -/

/-- The path of a stash is made of its parts where none of them is empty. -/
theorem Write.joinWith_stashParts {path : String}
    (full : [] ∉ Text.splitOn '/' path.toList) :
    Text.joinWith "/" (stashParts path) = path := by
  have all : (Text.splitOn '/' path.toList).filter (· ≠ []) = Text.splitOn '/' path.toList :=
    List.filter_eq_self.mpr fun part member =>
      decide_eq_true fun empty => full (empty ▸ member)
  rw [stashParts, all]
  exact (Text.joinWith_splitOn '/' path.toList).trans String.ofList_toList

/-! ### What a deletion says -/

/-- The collection that an action deletes from, and the names in it by which it says what goes. -/
def Action.deletion? : Action → Option (String × List String)
  | .deleteClient name => some ("clients", [name])
  | .deleteAggregate name => some ("aggregates", [name])
  | .deleteCheckResult client check => some ("results", [client, check])
  | .deleteStash path => some ("stashes", Write.stashParts path)
  | _ => none

/-- The collections that something is deleted from have plain names. -/
theorem Action.plain_of_deletion {action : Action} {collection : String} {names : List String}
    (deletes : action.deletion? = some (collection, names)) :
    Url.Plain collection ∧ Url.written collection = collection ∧ collection ≠ "" := by
  cases action <;> cases deletes <;> decide +kernel

/-- A deletion writes these names behind the collection and nothing else, whoever asks for it. -/
theorem Action.write_of_deletion {action : Action} {collection : String} {names : List String}
    (deletes : action.deletion? = some (collection, names)) :
    action.write = ⟨.delete, collection :: names, none⟩ ∧
      ∀ identity : Identity, identity.stamp action = action := by
  cases action <;> cases deletes <;>
    exact ⟨rfl, fun identity => by unfold Identity.stamp; cases identity.username <;> rfl⟩

/-! ### What is sent -/

/-- Whether a request deletes what some names say in a collection below a base: the names can be
read back from the segments behind the collection, and otherwise its URL is the base, without
name and password. -/
structure Request.Deletes (request : Request) (base : Url) (front : List String)
    (collection : String) (names : List String) : Prop where
  method : request.method = .delete
  below : { request.url with path := base.path }.withoutUserinfo = base.withoutUserinfo
  segments : ∃ encoded, request.url.path = .segments (front ++ collection :: encoded) ∧
    encoded.map Percent.decodeText? = names.map some

namespace Request.Deletes

variable {request : Request} {base : Url} {front names : List String} {collection : String}

/-- A request tells what it deletes. -/
theorem unique (deletes : request.Deletes base front collection names) {other : String}
    {otherNames : List String} (alsoDeletes : request.Deletes base front other otherNames) :
    collection = other ∧ names = otherNames := by
  obtain ⟨encoded, path, read⟩ := deletes.segments
  obtain ⟨otherEncoded, otherPath, otherRead⟩ := alsoDeletes.segments
  rw [path] at otherPath
  obtain ⟨sameCollection, sameEncoded⟩ :=
    List.cons.inj (List.append_cancel_left (UrlPath.segments.inj otherPath))
  refine ⟨sameCollection, List.map_injective_iff.mpr (Option.some_injective String) ?_⟩
  rw [← read, sameEncoded, otherRead]

/-- What deletes something named goes further down than to any collection. -/
theorem not_collection (deletes : request.Deletes base front collection names)
    (named : names ≠ []) (other : String) : request.url.path ≠ .segments (front ++ [other]) := by
  obtain ⟨encoded, path, read⟩ := deletes.segments
  rw [path]
  intro same
  have alone := List.cons.inj (List.append_cancel_left (UrlPath.segments.inj same))
  rw [alone.2] at read
  exact named (List.map_eq_nil_iff.mp read.symm)

end Request.Deletes

theorem Url.withoutUserinfo_withoutUserinfo (url : Url) :
    url.withoutUserinfo.withoutUserinfo = url.withoutUserinfo := by
  obtain ⟨scheme, authority, path, query, fragment⟩ := url
  cases authority <;> rfl

namespace Connection

variable (connection : Connection)

/-- The request to delete what is at a path. -/
def deletion (path : List String) : Request :=
  let url := { connection.base with path := .segments path }
  { method := .delete
    url := if url.credentials?.isSome then url.withoutUserinfo else url
    authorization := connection.authorization
    agent := connection.agent
    body := none }

theorem deletion_url (path : List String) :
    (connection.deletion path).url = { connection.base with path := .segments path } ∨
      (connection.deletion path).url =
        { connection.base with path := .segments path }.withoutUserinfo :=
  ite_eq_or_eq _ _ _ |>.symm

theorem deletion_deletes (front names : List String) (collection : String) :
    (connection.deletion (front ++ collection :: names.map Url.written)).Deletes connection.base
      front collection names where
  method := rfl
  below := by
    rcases connection.deletion_url (front ++ collection :: names.map Url.written) with same | same
    · rw [same]
    · rw [same]
      exact connection.base.withoutUserinfo_withoutUserinfo
  segments := by
    refine ⟨names.map Url.written, ?_, ?_⟩
    · rcases connection.deletion_url (front ++ collection :: names.map Url.written) with
        same | same <;> rw [same]
      rfl
    · have each : Percent.decodeText? ∘ Url.written = some := by
        funext name
        rw [Function.comp_apply, Url.decodeText?_written]
      rw [List.map_map, each]

/-- The request of a deletion is the one for its names, unless no request can be sent there. -/
theorem writing_of_deletion (web : SchemeKind.of connection.base.scheme = .web)
    {parts : List String} (path : connection.base.path = .segments parts) {action : Action}
    {collection : String} {names : List String}
    (deletes : action.deletion? = some (collection, names)) (plain : ∀ name ∈ names, Url.Plain name) :
    (connection.writing action.write).toOption.toList =
      let request := connection.deletion (Url.front parts ++ collection :: names.map Url.written)
      if request.url.isCallable then [request] else [] := by
  obtain ⟨plainCollection, shown, filled⟩ := Action.plain_of_deletion deletes
  have down := Url.descend_of_plain web path
    (List.forall_mem_cons.mpr ⟨plainCollection, plain⟩) (shown.symm ▸ filled)
  rw [List.map_cons, shown] at down
  rw [(Action.write_of_deletion deletes).1, writing, request, down]
  dsimp only [deletion]
  generalize (if Option.isSome _ = true then _ else _ : Url) = url
  cases url.isCallable <;> rfl

end Connection

namespace Dashboard

variable {setup : Setup} {dashboard : Dashboard}

/-- A valid command for a datacenter is handed to its connection. -/
theorem Reachable.dispatch_eq_carry (reached : Reachable setup dashboard) {datacenter : Datacenter}
    (registered : datacenter ∈ setup.registry.datacenters) {command : Command}
    (there : command.datacenter = datacenter.name)
    (valid : command.validate setup.policy = .ok ()) (network : Network) :
    dashboard.dispatch command network =
      (datacenter.backend setup.policy).carry command setup.policy network := by
  have found : (setup.backends.find? fun backend => decide (backend.name = command.datacenter)) =
      some (datacenter.backend setup.policy) := by
    rw [there]
    exact setup.find?_backends_iff.mpr ⟨List.mem_map_of_mem registered, rfl⟩
  rw [dispatch, reached.backends_eq, reached.setup_eq, Command.dispatch, valid, found]

/-- What a caller has sent is what is sent without looking at access, or nothing. -/
theorem execute_sent {identity : Identity} {command : Command}
    (kept : identity.stamp command.action = command.action) (network : Network) :
    (dashboard.execute identity command network).sent = [] ∨
      (dashboard.execute identity command network).sent =
        (dashboard.dispatch command network).sent := by
  rw [execute, dispatch]
  rcases command.execute_cases identity dashboard.snapshot dashboard.backends
    dashboard.setup.policy network with ⟨failure, -, refused⟩ | ⟨-, denied | same⟩
  · rw [refused]
    exact Or.inl rfl
  · rw [denied]
    exact Or.inl rfl
  · rw [same, kept]
    exact Or.inr rfl

end Dashboard

/-- Whether a command deletes from a collection of a datacenter what some names say, of which there
are some, all of them plain. -/
structure Command.Deletes (command : Command) (datacenter collection : String)
    (names : List String) : Prop where
  there : command.datacenter = datacenter
  deletion : command.action.deletion? = some (collection, names)
  named : names ≠ []
  plain : ∀ name ∈ names, Url.Plain name

namespace Dashboard

variable {setup : Setup} {dashboard : Dashboard}

/-- A deletion sends one request, if one can be sent at all, and it deletes what the command
says. -/
theorem Reachable.deletion_sent (reached : Reachable setup dashboard) {datacenter : Datacenter}
    (registered : datacenter ∈ setup.registry.datacenters) {parts : List String}
    (path : datacenter.url.path = .segments parts) {command : Command} {collection : String}
    {names : List String} (deletes : command.Deletes datacenter.name collection names)
    (valid : command.validate setup.policy = .ok ()) :
    ∃ request : Request, request.Deletes datacenter.url (Url.front parts) collection names ∧
      ∀ network, (dashboard.dispatch command network).sent =
        if request.url.isCallable then [request] else [] := by
  have web := Url.schemeKind_of_web (setup.registry.usable_of_mem registered).2
  refine ⟨_, (datacenter.backend setup.policy).connection.deletion_deletes _ _ _, fun network => ?_⟩
  rw [reached.dispatch_eq_carry registered deletes.there valid network]
  exact Connection.writing_of_deletion _ web path deletes.deletion deletes.plain

/-- What is sent for a deletion deletes what the command says. -/
theorem Reachable.deletes_of_sent (reached : Reachable setup dashboard) {datacenter : Datacenter}
    (registered : datacenter ∈ setup.registry.datacenters) {parts : List String}
    (path : datacenter.url.path = .segments parts) {command : Command} {collection : String}
    {names : List String} (deletes : command.Deletes datacenter.name collection names)
    {network : Network} {request : Request}
    (sent : request ∈ (dashboard.dispatch command network).sent) :
    request.Deletes datacenter.url (Url.front parts) collection names := by
  have valid := (Command.of_mem_dispatch sent).1
  rw [reached.setup_eq] at valid
  obtain ⟨expected, meets, sends⟩ := reached.deletion_sent registered path deletes valid
  rw [sends] at sent
  split at sent
  · rwa [List.mem_singleton.mp sent]
  · cases sent

/-- Deletions go where they should. A valid one sends at most one request, to a URL below the base
of its datacenter that says exactly what is to be deleted; it does so unless no request can be sent
to such a URL, and a caller whose access is looked at has the same sent or nothing. Two of them
that delete different things never send the same, and none is sent to a collection. The names of a
stash make up its path where no part of that is empty. -/
theorem deletions_addressed (reached : Reachable setup dashboard) {datacenter : Datacenter}
    (registered : datacenter ∈ setup.registry.datacenters) {text : String}
    (parsed : Url.parse text = .ok datacenter.url) :
    ∃ parts, datacenter.url.path = .segments parts ∧
    (∀ command collection names, command.Deletes datacenter.name collection names →
      command.validate setup.policy = .ok () →
        ∃ request : Request, request.Deletes datacenter.url (Url.front parts) collection names ∧
          (∀ other, request.url.path ≠ .segments (Url.front parts ++ [other])) ∧
          ∀ network,
            (dashboard.dispatch command network).sent =
              (if request.url.isCallable then [request] else []) ∧
            ∀ identity, (dashboard.execute identity command network).sent = [] ∨
              (dashboard.execute identity command network).sent =
                (dashboard.dispatch command network).sent) ∧
    (∀ one other collection otherCollection names otherNames,
      one.Deletes datacenter.name collection names →
        other.Deletes datacenter.name otherCollection otherNames →
          ∀ network otherNetwork, ∀ request ∈ (dashboard.dispatch one network).sent,
            request ∈ (dashboard.dispatch other otherNetwork).sent →
              collection = otherCollection ∧ names = otherNames) ∧
    (∀ path, [] ∉ Text.splitOn '/' path.toList →
      Text.joinWith "/" (Write.stashParts path) = path) := by
  have web := Url.schemeKind_of_web (setup.registry.usable_of_mem registered).2
  obtain ⟨parts, path⟩ := Url.parse_hasSegments parsed (by rw [web]; exact nofun)
  refine ⟨parts, path, fun command collection names deletes valid => ?_, ?_,
    fun path full => Write.joinWith_stashParts full⟩
  · obtain ⟨request, meets, sends⟩ := reached.deletion_sent registered path deletes valid
    refine ⟨request, meets, meets.not_collection deletes.named, fun network => ⟨sends network, ?_⟩⟩
    exact fun identity =>
      execute_sent ((Action.write_of_deletion deletes.deletion).2 identity) network
  · intro one other collection otherCollection names otherNames oneDeletes otherDeletes network
      otherNetwork request oneSent otherSent
    exact (reached.deletes_of_sent registered path oneDeletes oneSent).unique
      (reached.deletes_of_sent registered path otherDeletes otherSent)

end Dashboard

namespace Sample

/-- The dashboard over it, before the first poll. -/
def nearFresh : Dashboard :=
  ⟨nearSetup, nearSetup.backends, Snapshot.initial ["near"], false, false⟩

theorem reachable_nearFresh : Dashboard.Reachable nearSetup nearFresh :=
  ⟨fun _ => .vacant "", nearFresh, [], rfl, rfl⟩

theorem near_parsed : Url.parse "http://[::1]:4567" = .ok near.url :=
  eq_ok_of_toOption_eq_some (by decide +kernel)

/-- The paths of the URLs to which an action has something sent. -/
def pathsOf (action : Action) : List UrlPath :=
  (nearFresh.dispatch ⟨"near", action⟩ fun _ => .closed).sent.map (·.url.path)

end Sample

namespace Dashboard

/-- The deletion of a client is sent whose name has a slash, a percent sign and a letter beyond
ASCII in it, and the name can be read back. -/
theorem deletions_addressed_slash :
    Reachable Sample.nearSetup Sample.nearFresh ∧
      Url.parse "http://[::1]:4567" = .ok Sample.near.url ∧
      Sample.pathsOf (.deleteClient "a/b%2Fä") = [.segments ["clients", "a%2Fb%252F%C3%A4"]] ∧
      ∀ request ∈ (Sample.nearFresh.dispatch ⟨"near", .deleteClient "a/b%2Fä"⟩
          fun _ => .closed).sent,
        request.Deletes Sample.near.url [] "clients" ["a/b%2Fä"] := by
  have reached := Sample.reachable_nearFresh
  have paths : Sample.pathsOf (.deleteClient "a/b%2Fä") =
      [.segments ["clients", "a%2Fb%252F%C3%A4"]] := by decide +kernel
  refine ⟨reached, Sample.near_parsed, paths, fun request sent => ?_⟩
  obtain ⟨parts, path, each, -⟩ :=
    deletions_addressed reached (List.mem_singleton_self _) Sample.near_parsed
  obtain rfl := UrlPath.segments.inj path
  obtain ⟨expected, meets, -, sends⟩ := each ⟨"near", .deleteClient "a/b%2Fä"⟩ "clients" _
    ⟨rfl, rfl, List.cons_ne_nil _ _, by decide +kernel⟩ (by decide +kernel)
  rw [(sends _).1] at sent
  split at sent
  · rwa [List.mem_singleton.mp sent]
  · cases sent

/-- The empty parts of the path of a stash do not count, and neither does an empty path of a base,
even if it is empty twice. -/
example :
    Sample.pathsOf (.deleteStash "a//b") = Sample.pathsOf (.deleteStash "a/b") ∧
      Sample.pathsOf (.deleteStash "a/b") = [.segments ["stashes", "a", "b"]] ∧
      ((Url.parse "http://[::1]:4567//").bind fun base =>
        (base.descend ["clients", "web"]).map fun url => (base.path, url.path)).toOption =
          some (.segments ["", ""], .segments ["clients", "web"]) := by
  decide +kernel

/-- Some deletions do go astray. That of a client with the name of a dot goes to all clients, and
that of a stash whose path is a slash to all stashes. A tabulator in a name is lost, so that another
client is deleted. -/
theorem deletions_astray :
    Reachable Sample.nearSetup Sample.nearFresh ∧
      Url.parse "http://[::1]:4567" = .ok Sample.near.url ∧
      Sample.pathsOf (.deleteClient ".") = [.segments ["clients"]] ∧
      Sample.pathsOf (.deleteStash "/") = [.segments ["stashes"]] ∧
      Sample.pathsOf (.deleteClient "a\tb") = [.segments ["clients", "ab"]] ∧
      Sample.pathsOf (.deleteClient "ab") = [.segments ["clients", "ab"]] := by
  refine ⟨Sample.reachable_nearFresh, Sample.near_parsed, ?_⟩
  decide +kernel

end Dashboard

end FleetView
