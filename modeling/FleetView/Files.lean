/-
Files as the library sees them: what there is under a path. A directory or a
device is there as much as a file is, but nothing that must be a file is found in
it.
-/

namespace FleetView

/-- What can be read under a path, or why nothing can. -/
abbrev Content := Except String (List UInt8)

/-- What there is under a path. -/
inductive Place where
  /-- Nothing, and why there is nothing. -/
  | vacant (reason : String)
  | file (content : Content)
  /-- A directory, a device or the like. -/
  | special (content : Content)

/-- What can be read there. -/
def Place.content : Place → Content
  | .vacant reason => .error reason
  | .file content => content
  | .special content => content

/-- What there is under each path. -/
abbrev Files := String → Place

end FleetView
