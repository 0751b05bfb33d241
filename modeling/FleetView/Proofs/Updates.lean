/-
This file is about the clients that callers have put in place. What they ask for may carry
members that the program has no field for, and these are printed behind the members of
the client that is posted. A posted client has two members more than a request for one,
its version and the time it was last heard of, and they are always printed. So the text that
is sent is that of the client asked for exactly when the request carries no member of
these two names; otherwise it names a member twice, and nobody can decode it.
-/

import FleetView.Proofs.Policies

namespace FleetView

open Decoder Record

namespace ClientRequest

/-- The members that requests for clients declare. -/
def declared : List String := ["name", "address", "subscriptions"]

/-- The members that posted clients declare besides. -/
def undeclared : List String := ["version", "timestamp"]

/-- Whether a request carries no member that the posted client declares besides. -/
def Plain (request : ClientRequest) : Prop := ∀ entry ∈ request.extra, entry.1 ∉ undeclared

instance : DecidablePred Plain := fun request =>
  inferInstanceAs (Decidable (∀ entry ∈ request.extra, entry.1 ∉ undeclared))

/-- What is carried besides is in order and has names that are not declared. -/
def Bagged (sort : Number → Prop) (room : Nat) (request : ClientRequest) : Prop :=
  Strange declared sort room request.extra

variable {sort : Number → Prop} {room : Nat} {request : ClientRequest}

/-! ### Requests that have been decoded -/

/-- A decoded request stands in its written form, and what it carries besides has names of its
own. -/
theorem decoded {content : Document} (legible : content.Legible sort (room + 2))
    (decoded : ClientRequest.decoder .text content = .ok request) :
    ClientRequest.decoder.Stands sort (room + 2) request.toJson request ∧
      request.Bagged sort (room + 1) := by
  refine Record.Faithful.opened ?_ (by decide) legible decoded
  refine .defaulted (Report.faithful_omitted (.required (faithful_of ?_) faithful_string)
    (faithful_string.optional nofun)) faithful_strings Report.stands_no_strings
  exact fun name _ address _ subscriptions _ extra strange => ⟨rfl, strange⟩

/-! ### Clients that are posted -/

/-- Without members of the two names the posted client stands in what is printed of it. -/
theorem Plain.stands (plain : request.Plain)
    (bagged : request.Bagged sort (room + 1)) :
    Report.Client.decoder.Stands sort (room + 2) request.report.toJson request.report := by
  have unknown : Strange Report.Form.client.fields sort (room + 1) request.extra := by
    refine ⟨bagged.ascending, bagged.stands, fun entry held field => ?_⟩
    have either : entry.1 ∈ declared ++ undeclared := field
    rcases List.mem_append.mp either with known | other
    · exact bagged.unknown entry held known
    · exact plain entry held other
  refine Spells.opened (Spells.field (Spells.field (Spells.field (Spells.field (Spells.field
    (spells_of _) ?_ (stands_string request.name)) ?_ (stands_text request.address)) ?_
    (stands_strings request.subscriptions)) ?_ stands_none) ?_ stands_none) ?_ unknown <;> decide

/-- The members that are printed of a posted client, up to what is carried besides. -/
def printed (request : ClientRequest) : List (String × Json) :=
  [("name", .string request.name), ("address", .text? request.address),
    ("subscriptions", .strings request.subscriptions), ("version", .null), ("timestamp", .null)]

theorem toJson_report (request : ClientRequest) :
    request.report.toJson = .object (request.printed ++ request.extra) := rfl

/-- What is printed can be read, whatever is carried besides. -/
theorem legible_report (bagged : request.Bagged sort (room + 1)) :
    (Document.ofJson request.report.toJson).Legible sort (room + 2) := by
  rw [toJson_report, Document.legible_ofJson_object_iff, List.forall_mem_append]
  refine ⟨?_, fun entry held => (bagged.stands entry held).legible⟩
  have absent : (Decoder.string.optional).Stands sort (room + 1) .null none := stands_none
  simp only [printed, List.forall_mem_cons]
  exact ⟨(stands_string _).legible, (stands_text _).legible, (stands_strings _).legible,
    absent.legible, absent.legible, nofun⟩

/-- With a member of one of the two names, a declared member is printed twice. -/
theorem not_nodup_fields (mixed : ¬ request.Plain) :
    ¬ (((request.printed ++ request.extra).map Prod.fst).filter
      (· ∈ Report.Form.client.fields)).Nodup := by
  obtain ⟨entry, held, again⟩ : ∃ entry ∈ request.extra, entry.1 ∈ undeclared := by
    simpa [Plain] using mixed
  have field : entry.1 ∈ Report.Form.client.fields :=
    List.mem_append_right declared again
  rw [List.map_append, List.filter_append, List.nodup_append]
  rintro ⟨-, -, apart⟩
  refine apart entry.1 (List.mem_filter.mpr ⟨field, decide_eq_true field⟩) entry.1 ?_ rfl
  exact List.mem_filter.mpr ⟨List.mem_map_of_mem held, decide_eq_true field⟩

/-- The text of the posted client. -/
def text (request : ClientRequest) : String := request.report.toJson.compact

section

variable (bagged : request.Bagged Number.Whole (125 + 1))

include bagged

theorem read_text : Document.read request.text = ⟨Document.ofJson request.report.toJson, false⟩ :=
  Document.read_compact (legible_report bagged)

/-- The text names no member twice exactly when the request is plain. -/
theorem distinct_text_iff : (Document.read request.text).content.Distinct ↔ request.Plain := by
  rw [read_text bagged]
  refine ⟨fun distinct => ?_, fun plain => (plain.stands bagged).distinct⟩
  by_contra mixed
  rw [toJson_report, Document.distinct_ofJson_object_iff] at distinct
  exact not_nodup_fields mixed (distinct.1.sublist List.filter_sublist)

/-- The text is decoded exactly when the request is plain, and to nothing but the client asked
for. -/
theorem fromText_text_iff {client : Report.Client} :
    Report.Client.decoder.fromText request.text = .ok client ↔
      request.Plain ∧ client = request.report := by
  constructor
  · intro decoded
    have plain : request.Plain := by
      by_contra mixed
      have found := (fromText_eq_ok_iff.mp decoded).1
      rw [read_text bagged, toJson_report] at found
      exact opened_ne_ok (not_nodup_fields mixed) client found
    have asked : Report.Client.decoder.fromText request.text = .ok request.report :=
      (plain.stands bagged).fromText_compact
    exact ⟨plain, Except.ok.inj (decoded.symm.trans asked)⟩
  · rintro ⟨plain, rfl⟩
    exact (plain.stands bagged).fromText_compact

end

end ClientRequest

/-- What a request puts in place of a client. Its body names no member twice, and is decoded,
exactly when no member is carried that the posted client declares besides; and what it is decoded
to is what was asked for. -/
structure Request.Puts (sent : Request) (request : ClientRequest) : Prop where
  posts : sent.PostsTo "clients"
  body : sent.body = some request.text
  distinct : (Document.read request.text).content.Distinct ↔ request.Plain
  decodes : (∃ client, Report.Client.decoder.fromText request.text = .ok client) ↔ request.Plain
  asked : ∀ client, Report.Client.decoder.fromText request.text = .ok client →
    client.name = request.name ∧ client.address = request.address ∧
      client.subscriptions = request.subscriptions ∧ client.extra = request.extra

/-- What is posted behind a text that stands in the URL as it is. -/
theorem Connection.postsTo_of_writing {connection : Connection} {write : Write} {sent : Request}
    (made : connection.writing write = .ok sent) (post : write.method = .post)
    {before : List String} {last : String} (ends : write.segments = before ++ [last])
    (verbatim : Url.Verbatim last) : sent.PostsTo last := by
  obtain ⟨method, -, url, down, path⟩ := of_writing_eq_ok made
  rw [ends] at down
  obtain ⟨front, shown⟩ := Url.path_of_descend_eq_ok verbatim down
  exact ⟨method.trans post, front, path.trans shown⟩

namespace Dashboard

/-- What is sent for a command that no caller's name is put into is sent without looking at access
too. -/
theorem mem_dispatch_of_mem_execute {dashboard : Dashboard} {identity : Identity}
    {command : Command} (unstamped : identity.stamp command.action = command.action)
    {network : Network} {sent : Request}
    (through : sent ∈ (dashboard.execute identity command network).sent) :
    sent ∈ (dashboard.dispatch command network).sent := by
  rcases command.execute_cases identity dashboard.snapshot dashboard.backends
    dashboard.setup.policy network with ⟨failure, -, refused⟩ | ⟨-, denied | same⟩
  · rw [execute, refused] at through
    cases through
  · rw [execute, denied] at through
    cases through
  · rw [execute, same, unstamped] at through
    exact through

/-- What is sent for a client that someone has asked for in a text whose numbers are integers of 64
bits. It is well formed and says what was asked for exactly when the request carries no version
and no time. -/
theorem update_wellformed_iff (dashboard : Dashboard) (identity : Identity) {text : String}
    {request : ClientRequest} (whole : (Document.read text).content.Whole)
    (decoded : ClientRequest.decoder.fromText text = .ok request) (datacenter : String)
    (network : Network) :
    ∀ sent, sent ∈ (dashboard.dispatch ⟨datacenter, .updateClient request⟩ network).sent ∨
        sent ∈ (dashboard.execute identity ⟨datacenter, .updateClient request⟩ network).sent →
      sent.Puts request := by
  intro sent either
  have unstamped : identity.stamp (.updateClient request) = .updateClient request :=
    Action.stamp_eq_self (Or.inr ⟨fun _ => Action.noConfusion, fun _ => Action.noConfusion⟩)
  have direct : sent ∈ (dashboard.dispatch ⟨datacenter, .updateClient request⟩ network).sent :=
    either.elim id (mem_dispatch_of_mem_execute unstamped)
  obtain ⟨-, -, backend, -, -, made⟩ := Command.of_mem_dispatch direct
  have legible : (Document.read text).content.Legible Number.Whole JsonText.depthLimit :=
    ⟨Document.depth_read_le text, whole⟩
  obtain ⟨-, bagged⟩ := ClientRequest.decoded legible (fromText_eq_ok_iff.mp decoded).1
  refine ⟨Connection.postsTo_of_writing made rfl (List.nil_append _).symm (by decide +kernel),
    (Connection.of_writing_eq_ok made).2.1, ClientRequest.distinct_text_iff bagged, ?_, ?_⟩
  · simp only [ClientRequest.fromText_text_iff bagged, exists_and_left, exists_eq, and_true]
  · intro client found
    obtain ⟨-, rfl⟩ := (ClientRequest.fromText_text_iff bagged).mp found
    exact ⟨rfl, rfl, rfl, rfl⟩

end Dashboard

namespace Sample

/-- The text of a request for a client, with one more member. -/
def updateText (member : String) : String :=
  "\x7b\"name\":\"web\",\"subscriptions\":[\"linux\"]," ++ member ++ "\x7d"

/-- The text that is posted where that member is a version. -/
def repeatedVersion : String :=
  "\x7b\"name\":\"web\",\"address\":null,\"subscriptions\":[\"linux\"],\"version\":null," ++
    "\"timestamp\":null,\"version\":\"2\"\x7d"

/-- That request. -/
def update (name : String) (value : Json) : ClientRequest :=
  ⟨"web", none, ["linux"], [(name, value)]⟩

end Sample

namespace Dashboard

/-- A request that carries a zone puts the client in place. -/
theorem update_wellformed_iff_zone :
    (Document.read (Sample.updateText "\"zone\":7")).content.Whole ∧
      ClientRequest.decoder.fromText (Sample.updateText "\"zone\":7") =
        .ok (Sample.update "zone" (.int 7)) ∧
      ∃ sent, (Sample.nearFresh.dispatch ⟨"near", .updateClient (Sample.update "zone" (.int 7))⟩
          fun _ => .reply 200 []).sent = [sent] ∧
        ∃ client, Report.Client.decoder.fromText (Sample.update "zone" (.int 7)).text =
            .ok client ∧ client.extra = [("zone", .int 7)] := by
  have whole : (Document.read (Sample.updateText "\"zone\":7")).content.Whole := by
    decide +kernel
  have decoded : ClientRequest.decoder.fromText (Sample.updateText "\"zone\":7") =
      .ok (Sample.update "zone" (.int 7)) := eq_ok_of_toOption_eq_some (by decide +kernel)
  have posted : (Sample.nearFresh.dispatch
      ⟨"near", .updateClient (Sample.update "zone" (.int 7))⟩ fun _ => .reply 200 []).sent.length =
        1 := by decide +kernel
  obtain ⟨sent, alone⟩ := List.length_eq_one_iff.mp posted
  have puts := update_wellformed_iff Sample.nearFresh Sample.dave whole decoded "near"
    (fun _ => .reply 200 []) sent (Or.inl (alone ▸ List.mem_singleton_self sent))
  obtain ⟨client, found⟩ := puts.decodes.mpr (by decide)
  exact ⟨whole, decoded, sent, alone, client, found, (puts.asked client found).2.2.2⟩

/-- A request that carries a version is sent as a text that names the version twice, and nobody can
decode it. -/
theorem update_illformed :
    ClientRequest.decoder.fromText (Sample.updateText "\"version\":\"2\"") =
        .ok (Sample.update "version" (.string "2")) ∧
      ∃ sent, (Sample.nearFresh.dispatch
          ⟨"near", .updateClient (Sample.update "version" (.string "2"))⟩
            fun _ => .reply 200 []).sent = [sent] ∧
        sent.body = some Sample.repeatedVersion ∧
        ¬ (Document.read Sample.repeatedVersion).content.Distinct ∧
        ∀ client, Report.Client.decoder.fromText Sample.repeatedVersion ≠ .ok client := by
  have posted : (Sample.nearFresh.dispatch
      ⟨"near", .updateClient (Sample.update "version" (.string "2"))⟩
        fun _ => .reply 200 []).sent.map (·.body) = [some Sample.repeatedVersion] := by
    decide +kernel
  obtain ⟨sent, alone, body⟩ := List.map_eq_singleton_iff.mp posted
  have undecoded :
      (Report.Client.decoder.fromText Sample.repeatedVersion).toOption = none := by
    decide +kernel
  refine ⟨eq_ok_of_toOption_eq_some (by decide +kernel), sent, alone, body, ?_, ?_⟩
  · decide +kernel
  · intro client decoded
    rw [decoded] at undecoded
    cases undecoded

end Dashboard

end FleetView
