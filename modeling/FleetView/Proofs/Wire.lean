/-
This file proves that reports survive being printed and decoded. Whatever a text says in
whatever order, with spaces and escapes, with unknown members repeated or with an array in
place of an object, once it has been decoded to a report the printed text of that report
is decoded to the same report, repeats no member name in any object, and is printed again
as it is.
-/

import Mathlib
import FleetView.Report.Basic
import FleetView.Proofs.Spelling
import FleetView.Proofs.Printing

namespace FleetView

/-! ### Texts of values -/

namespace Decoder

variable {α : Type} {decoder : Decoder α} {text : String} {value : α}

theorem fromText_eq_ok_iff :
    decoder.fromText text = .ok value ↔
      decoder .text (Document.read text).content = .ok value ∧
        (Document.read text).trailing = false := by
  rw [fromText, bind_eq_ok_iff]
  constructor
  · rintro ⟨found, decoded, closed⟩
    split at closed
    · cases closed
    · rename_i alone
      exact ⟨Except.ok.inj closed ▸ decoded, eq_false_of_ne_true alone⟩
  · rintro ⟨decoded, alone⟩
    refine ⟨value, decoded, ?_⟩
    rw [alone]
    rfl

/-- A written form that a value stands in is printed as a text from which the value is decoded. -/
theorem Stands.fromText_compact {written : Json}
    (stands : decoder.Stands Number.Whole JsonText.depthLimit written value) :
    decoder.fromText written.compact = .ok value := by
  rw [fromText_eq_ok_iff, Document.read_compact stands.legible]
  exact ⟨stands.recovered, rfl⟩

end Decoder

/-! ### Fields -/

section

open Decoder

variable {sort : Number → Prop} {room : Nat}

theorem stands_text (text : Option String) :
    Decoder.string.optional.Stands sort room (.text? text) text := by
  cases text with
  | none => exact stands_none
  | some text => exact (stands_string text).some nofun

theorem stands_strings (texts : List String) :
    (Decoder.list .string).Stands sort (room + 1) (.strings texts) texts :=
  stands_list fun text _ => stands_string text

end

/-- A value that may be missing is written as a member, or is left out. -/
theorem memberOfOption_cases {α : Type} (name : String) (encode : α → Json) (value : Option α) :
    Json.memberOfOption name encode value = [(name, Json.option encode value)] ∨
      Json.memberOfOption name encode value = [] ∧ some none = some value := by
  cases value with
  | none => exact Or.inr ⟨rfl, rfl⟩
  | some value => exact Or.inl rfl

namespace Report

open Decoder Record

/-! ### What decoded reports are like -/

/-- The forms in which reports travel. -/
inductive Form where
  | check
  | client
  | eventCheck
  | event
  | aggregate
  | stash
  | silence

/-- The members that reports of a form declare. -/
def Form.fields : Form → List String
  | check => ["name", "command", "subscribers", "interval", "standalone"]
  | client => ["name", "address", "subscriptions", "version", "timestamp"]
  | eventCheck => ["name", "status", "output", "subscribers"]
  | event => ["id", "client", "check", "occurrences", "action", "timestamp", "silenced"]
  | aggregate => ["name"]
  | stash => ["path", "content", "expire"]
  | silence =>
    ["id", "subscription", "check", "reason", "creator", "expire", "expire_on_resolve"]

section

variable {sort : Number → Prop} {room : Nat}

/-- A check whose interval fits and whose bag is in order. -/
structure Check.Writable (sort : Number → Prop) (room : Nat) (check : Check) : Prop where
  interval : Decoder.u64.optional.Stands sort room (.nat? check.interval) check.interval
  extra : Strange Form.check.fields sort room check.extra

/-- An event whose count fits and whose bag is in order. -/
structure Event.Writable (sort : Number → Prop) (room : Nat) (event : Event) : Prop where
  occurrences : Decoder.u64.Stands sort room (.nat event.occurrences) event.occurrences
  extra : Strange Form.event.fields sort room event.extra

/-- A report with nothing but a bag that is in order. -/
def Bagged {Carrier : Type} (form : Form) (bag : Carrier → Bag) (sort : Number → Prop) (room : Nat)
    (report : Carrier) : Prop :=
  Strange form.fields sort room (bag report)

/-- A stash whose end fits and whose content is in order. -/
structure Stash.Writable (sort : Number → Prop) (room : Nat) (stash : Stash) : Prop where
  content : Decoder.bag.Stands sort room (.object stash.content) stash.content
  expire : Decoder.i64.optional.Stands sort room (.int? stash.expire) stash.expire

/-- A silence entry whose end fits and whose bag is in order. -/
structure Silence.Writable (sort : Number → Prop) (room : Nat) (silence : Silence) : Prop where
  expire : Decoder.i64.optional.Stands sort room (.int? silence.expire) silence.expire
  extra : Strange Form.silence.fields sort room silence.extra

variable (wide : ∀ number : Number, number.Whole → sort number) {content : Document}

theorem stands_no_strings : (Decoder.list .string).Stands sort (room + 1) (.strings []) [] :=
  stands_strings []

/-- A field that is written only when there is a value. -/
theorem faithful_omitted {α β : Type} {record : Record (Option α → β)} {name : String}
    {decoder : Decoder α} {encode : α → Json} {fits : List (String × Json) → β → Prop}
    (before : record.Faithful sort room fun entries build => ∀ value,
      decoder.optional.Stands sort room (Json.option encode value) value →
        fits (entries ++ Json.memberOfOption name encode value) (build value))
    (faithful : decoder.optional.Faithful sort room (Json.option encode)) :
    (record.defaulted name none decoder.optional).Faithful sort room fits := by
  refine before.field faithful ?_ (memberOfOption_cases name encode)
  rintro value (same | same)
  · exact Option.some.inj same ▸ stands_none
  · exact Option.some.inj same ▸ stands_none

theorem Aggregate.decoded {aggregate : Aggregate} (legible : content.Legible sort (room + 1))
    (decoded : Aggregate.decoder .text content = .ok aggregate) :
    Aggregate.decoder.Stands sort (room + 1) aggregate.toJson aggregate ∧
      Bagged .aggregate Aggregate.extra sort room aggregate := by
  refine Record.Faithful.opened ?_ (by decide) legible decoded
  refine .required (faithful_of ?_) faithful_string
  exact fun name _ extra strange => ⟨rfl, strange⟩

include wide

theorem faithful_seconds : Decoder.i64.optional.Faithful sort room .int? :=
  (faithful_i64 wide).optional nofun

theorem Check.decoded {check : Check} (legible : content.Legible sort (room + 2))
    (decoded : Check.decoder .text content = .ok check) :
    Check.decoder.Stands sort (room + 2) check.toJson check ∧ check.Writable sort (room + 1) := by
  refine Record.Faithful.opened ?_ (by decide) legible decoded
  refine .defaulted (.defaulted (.defaulted (.defaulted (.required (faithful_of ?_)
    faithful_string) (faithful_string.optional nofun) stands_none) faithful_strings
    stands_no_strings) ((faithful_natural wide "u64").optional nofun) stands_none) faithful_bool
    (stands_bool false)
  exact fun name _ command _ subscribers _ interval counted standalone _ extra strange =>
    ⟨rfl, counted, strange⟩

theorem Client.decoded {client : Client} (legible : content.Legible sort (room + 2))
    (decoded : Client.decoder .text content = .ok client) :
    Client.decoder.Stands sort (room + 2) client.toJson client ∧
      Bagged .client Client.extra sort (room + 1) client := by
  refine Record.Faithful.opened ?_ (by decide) legible decoded
  refine .defaulted (.defaulted (.defaulted (.defaulted (.required (faithful_of ?_)
    faithful_string) (faithful_string.optional nofun) stands_none) faithful_strings
    stands_no_strings) (faithful_string.optional nofun) stands_none) (faithful_seconds wide)
    stands_none
  exact fun name _ address _ subscriptions _ version _ timestamp _ extra strange =>
    ⟨rfl, strange⟩

theorem EventCheck.decoded {check : EventCheck} (legible : content.Legible sort (room + 2))
    (decoded : EventCheck.decoder .text content = .ok check) :
    EventCheck.decoder.Stands sort (room + 2) check.toJson check ∧
      Bagged .eventCheck EventCheck.extra sort (room + 1) check := by
  refine Record.Faithful.opened ?_ (by decide) legible decoded
  refine .defaulted (.defaulted (.defaulted (.required (faithful_of ?_) faithful_string)
    (faithful_i32 wide) ?_) (faithful_string.optional nofun) stands_none) faithful_strings
    stands_no_strings
  · exact fun name _ status _ output _ subscribers _ extra strange => ⟨rfl, strange⟩
  · exact stands_integer (by decide) (wide _ (by decide))

theorem Event.decoded {event : Event} (legible : content.Legible sort (room + 3))
    (decoded : Event.decoder .text content = .ok event) :
    Event.decoder.Stands sort (room + 3) event.toJson event ∧ event.Writable sort (room + 2) := by
  refine Record.Faithful.opened ?_ (by decide) legible decoded
  refine .defaulted (.defaulted (.defaulted (.defaulted (.required (.required (.defaulted
    (faithful_of ?_) (faithful_string.optional nofun) stands_none)
    fun _ _ legible decoded => (Client.decoded wide legible decoded).1)
    fun _ _ legible decoded => (EventCheck.decoded wide legible decoded).1)
    (faithful_natural wide "u64") ?_) (faithful_string.optional nofun) stands_none)
    (faithful_seconds wide) stands_none) faithful_bool (stands_bool false)
  · intro id _ client _ check _ occurrences counted action _ timestamp _ silenced _ extra strange
    exact ⟨rfl, counted, strange⟩
  · exact stands_natural (by decide) (wide _ (by decide))

theorem Stash.decoded {stash : Stash} (legible : content.Legible sort (room + 2))
    (decoded : Stash.decoder .text content = .ok stash) :
    Stash.decoder.Stands sort (room + 2) stash.toJson stash ∧ stash.Writable sort (room + 1) := by
  refine Record.Faithful.closed ?_ (by decide) legible decoded
  refine faithful_omitted (.defaulted (.required (faithful_of ?_) faithful_string) faithful_bag
    stands_empty_bag) (faithful_seconds wide)
  exact fun path _ content kept expire expires => ⟨rfl, kept, expires⟩

theorem Silence.decoded {silence : Silence} (legible : content.Legible sort (room + 1))
    (decoded : Silence.decoder .text content = .ok silence) :
    Silence.decoder.Stands sort (room + 1) silence.toJson silence ∧ silence.Writable sort room := by
  refine Record.Faithful.opened ?_ (by decide) legible decoded
  refine .defaulted (.defaulted (.defaulted (.defaulted (.defaulted (.defaulted (.required
    (faithful_of ?_) faithful_string) (faithful_string.optional nofun) stands_none)
    (faithful_string.optional nofun) stands_none) (faithful_string.optional nofun) stands_none)
    (faithful_string.optional nofun) stands_none) (faithful_seconds wide) stands_none)
    faithful_bool (stands_bool false)
  intro id _ subscription _ check _ reason _ creator _ expire expires onResolve _ extra strange
  exact ⟨rfl, expires, strange⟩

end

/-! ### Printing and decoding again -/

namespace Form

/-- The reports of a form. -/
def Carrier : Form → Type
  | check => Check
  | client => Client
  | eventCheck => EventCheck
  | event => Event
  | aggregate => Aggregate
  | stash => Stash
  | silence => Silence

/-- Reads a report of a form. -/
def decoder : (form : Form) → Decoder form.Carrier
  | check => Check.decoder
  | client => Client.decoder
  | eventCheck => EventCheck.decoder
  | event => Event.decoder
  | aggregate => Aggregate.decoder
  | stash => Stash.decoder
  | silence => Silence.decoder

/-- Writes a report of a form. -/
def toJson : (form : Form) → form.Carrier → Json
  | check => Check.toJson
  | client => Client.toJson
  | eventCheck => EventCheck.toJson
  | event => Event.toJson
  | aggregate => Aggregate.toJson
  | stash => Stash.toJson
  | silence => Silence.toJson

/-- The text of a report. -/
def print (form : Form) (report : form.Carrier) : String := (form.toJson report).compact

theorem stands (form : Form) {content : Document} {report : form.Carrier}
    (legible : content.Legible Number.Whole JsonText.depthLimit)
    (decoded : form.decoder .text content = .ok report) :
    form.decoder.Stands Number.Whole JsonText.depthLimit (form.toJson report) report := by
  have wide : ∀ number : Number, number.Whole → number.Whole := fun _ => id
  cases form with
  | check => exact (Check.decoded wide legible decoded).1
  | client => exact (Client.decoded wide legible decoded).1
  | eventCheck => exact (EventCheck.decoded wide legible decoded).1
  | event => exact (Event.decoded wide legible decoded).1
  | aggregate => exact (Aggregate.decoded legible decoded).1
  | stash => exact (Stash.decoded wide legible decoded).1
  | silence => exact (Silence.decoded wide legible decoded).1

/-- A report that has been decoded from a text whose numbers are integers of 64 bits is decoded
again from its own printed text. No object of that text names two members alike, and decoding
and printing the text once more gives the text itself. -/
theorem reprinted (form : Form) {text : String} {report : form.Carrier}
    (whole : (Document.read text).content.Whole)
    (decoded : form.decoder.fromText text = .ok report) :
    form.decoder.fromText (form.print report) = .ok report ∧
      (Document.read (form.print report)).content.Distinct ∧
      (form.decoder.fromText (form.print report)).map form.print = .ok (form.print report) := by
  have legible : (Document.read text).content.Legible Number.Whole JsonText.depthLimit :=
    ⟨Document.depth_read_le text, whole⟩
  have stands := form.stands legible (fromText_eq_ok_iff.mp decoded).1
  have again : form.decoder.fromText (form.print report) = .ok report := stands.fromText_compact
  refine ⟨again, ?_, ?_⟩
  · rw [print, Document.read_compact stands.legible]
    exact stands.distinct
  · rw [again]
    rfl

/-- A check with spaces, an escape, a number in front of the name and an unknown member twice. -/
def untidyCheck : String :=
  "\x7b \"zone\": 1, \"interval\": 60, \"name\": \"di\\u0073k\", \"zone\": [true] \x7d"

theorem reprinted_untidyCheck :
    (Document.read untidyCheck).content.Whole ∧
      Check.decoder.fromText untidyCheck =
        .ok ⟨"disk", none, [], some 60, false, [("zone", .array [.bool true])]⟩ ∧
      Form.check.decoder.fromText (Form.check.print
        (⟨"disk", none, [], some 60, false, [("zone", .array [.bool true])]⟩ : Check)) =
          .ok ⟨"disk", none, [], some 60, false, [("zone", .array [.bool true])]⟩ := by
  have whole : (Document.read untidyCheck).content.Whole := by decide +kernel
  have decoded : Check.decoder.fromText untidyCheck =
      .ok ⟨"disk", none, [], some 60, false, [("zone", .array [.bool true])]⟩ :=
    eq_ok_of_toOption_eq_some (by decide +kernel)
  exact ⟨whole, decoded, (reprinted .check whole decoded).1⟩

end Form

end Report

end FleetView
