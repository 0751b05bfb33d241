/-
Where a configuration comes from. There are three layers, each above the one
before: the standard settings, a document, and variables of the environment. An
upper layer replaces what it speaks about and leaves the rest alone; maps are
merged member by member, and everything else is replaced as a whole.
-/

import FleetView.Config.Basic
import FleetView.Config.Variable
import FleetView.Files
import FleetView.Toml.Reader

namespace FleetView

/-! ### Merging -/

mutual

/-- The value that is seen when one value lies above another. -/
def Json.merge (lower : Json) : Json → Json
  | .object above =>
    match lower with
    | .object below => .object (Json.mergeMembers below above)
    | _ => .object above
  | upper => upper

/-- The members that are seen when some lie above others. -/
def Json.mergeMembers (below : Bag) : List (String × Json) → Bag
  | [] => below
  | (name, upper) :: rest =>
    let seen :=
      match below.get? name with
      | some lower => lower.merge upper
      | none => upper
    Json.mergeMembers (below.insert name seen) rest

end

/-- The settings that an environment makes, the later ones above. -/
def Environment.settings (environment : Environment) : Json :=
  environment.foldl (fun lower (name, text) =>
    match Variable.path? name with
    | some path => lower.merge (Variable.nest (Variable.setting text) path)
    | none => lower) (.object [])

/-! ### Loading -/

/-- Why there is no configuration, or none that can be used. -/
inductive ConfigFlaw where
  /-- A setting that makes no sense. -/
  | invalid (field reason : String)
  | noFile (path : String)
  | noSecret (datacenter name : String)
  /-- A setting of the wrong kind, or a document that cannot be read. -/
  | unreadable (fault : Fault)
  deriving DecidableEq, Repr

/-- The wording of a flaw. -/
def ConfigFlaw.message : ConfigFlaw → String
  | .invalid field reason => "invalid " ++ field ++ ": " ++ reason
  | .noFile path => "config file not found: " ++ path
  | .noSecret datacenter name =>
    "datacenter '" ++ datacenter ++ "': environment variable " ++ name ++ " is not set"
  | .unreadable fault => "config loading failed: " ++ fault.message

namespace Config

/-- All layers merged. -/
def layered (document : Json) (environment : Environment) : Json :=
  (Config.standard.toJson.tidy.merge document.tidy).merge environment.settings.tidy

/-- The configuration of a document that has been read. -/
def ofDocument (document : Json) (environment : Environment) : Except ConfigFlaw Config :=
  (decoder .layers (Document.ofJson (layered document environment))).mapError .unreadable

/-- The configuration of a text. -/
def ofText (text : String) (environment : Environment) : Except ConfigFlaw Config :=
  match Toml.parse text with
  | some document => ofDocument document environment
  | none => .error (.unreadable (Cause.refused "the document breaks the rules of its form").here)

/-- The configuration of the bytes of a document. -/
def ofBytes (bytes : List UInt8) (environment : Environment) : Except ConfigFlaw Config :=
  match Text.Utf8.decode? bytes with
  | some text => ofText text environment
  | none => .error (.unreadable (Cause.refused "the document is no text").here)

/-- The configuration in a file. What is there without being a file says nothing
about any setting. -/
def ofFile (files : Files) (path : String) (environment : Environment) :
    Except ConfigFlaw Config :=
  match files path with
  | .vacant _ => .error (.noFile path)
  | .special _ => ofDocument (.object []) environment
  | .file (.ok bytes) => ofBytes bytes environment
  | .file (.error reason) => .error (.unreadable (Cause.refused reason).here)

end Config

end FleetView
