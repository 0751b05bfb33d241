/-
Files with certificates. Such a file is a text with sections, each between a line
that opens it and a line that closes it; what stands outside of sections does not
matter. A section has a label and holds bytes, and one with the label of a
certificate has to hold a certificate.
-/

import FleetView.Certificate.Basic
import FleetView.Text.Base64
import FleetView.Text.Blank

namespace FleetView.Certificate

/-- A part of a file between its two marks. -/
structure FileSection where
  label : List Char
  /-- The text between the marks. -/
  body : List Char
  deriving DecidableEq, Repr

/-! ### Lines -/

/-- The lines of a file, each byte a character. Either of two characters ends one. -/
def lines (bytes : Bytes) : List (List Char) :=
  Text.splitOn '\n' (bytes.map fun byte =>
    if byte = 0x0D then '\n' else Char.ofNat byte.toNat)

/-- How lines that open a section start. -/
def opening : List Char := "-----BEGIN ".toList

/-- How a line that closes a section with this label starts. -/
def closing (label : List Char) : List Char := "-----END ".toList ++ label ++ "-----".toList

/-- The label on a line that opens a section. Exactly five dashes end the line, and
blanks among them or behind them do not count. -/
def label? (line : List Char) : Option (List Char) :=
  let tail := (line.reverse.takeWhile fun char => char == '-' || char == ' ').reverse
  if (tail.filter (· == '-')).length = 5 then
    some ((line.take (line.length - tail.length) ++ tail.takeWhile (· ≠ '-')).drop opening.length)
  else none

/-! ### Sections -/

/-- The sections of a file; `held` is the one that is open. A section that opens
within another takes its place and keeps what was read of it. There are none when a
line breaks the rules or the last section does not close. -/
def sections? : Option FileSection → List (List Char) → Option (List FileSection)
  | none, [] => some []
  | some _, [] => none
  | held, line :: rest =>
    if opening.isPrefixOf line then
      match label? line with
      | none => none
      | some label => sections? (some ⟨label, (held.map FileSection.body).getD []⟩) rest
    else
      match held with
      | none => sections? none rest
      | some held =>
        if (closing held.label).isPrefixOf line then (sections? none rest).map (held :: ·)
        else sections? (some ⟨held.label, held.body ++ line⟩) rest

/-- The labels of sections that are read. All others are passed over. -/
def knownLabels : List String :=
  ["CERTIFICATE", "PUBLIC KEY", "RSA PRIVATE KEY", "PRIVATE KEY", "EC PRIVATE KEY", "X509 CRL",
    "CERTIFICATE REQUEST", "ECHCONFIG"]

/-- Whether a section is in order. -/
def FileSection.isSound (part : FileSection) : Bool :=
  let label := String.ofList part.label
  label ∉ knownLabels ||
    (match Text.Base64.decode? part.body with
    | none => false
    | some bytes => label != "CERTIFICATE" || isCertificate bytes)

/-- Whether every section of a file can be read. -/
def isReadable (bytes : Bytes) : Bool :=
  (sections? none (lines bytes)).any fun found => found.all FileSection.isSound

end FleetView.Certificate
