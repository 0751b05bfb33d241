/-
Reading hosts. Under the schemes of the web a host is an address or a name of
the domain name system, possibly one beyond ASCII; a name whose last part is a
number is read as an address. Under any other scheme it is a plain text.
-/

import FleetView.Url.Basic
import FleetView.Url.Label

namespace FleetView.Host

/-! ### Addresses of four bytes -/

/-- The value of digits in a base; `none` when one of them is no digit. -/
def digitsIn? (base : Nat) (text : List Char) : Option Nat :=
  text.foldlM (fun value char => do
    let digit ← JsonText.hexValue? char
    if digit < base then some (value * base + digit) else none) 0

/-- A number as it may stand in an address: decimal, octal behind a zero, or
hexadecimal behind a zero and an x. -/
def number? : List Char → Option Nat
  | [] => none
  | '0' :: 'x' :: rest | '0' :: 'X' :: rest => digitsIn? 16 rest
  | '0' :: next :: rest => digitsIn? 8 (next :: rest)
  | text => digitsIn? 10 text

/-- The parts between dots, without an empty one at the end. -/
def parts (name : List Char) : List (List Char) :=
  let found := Text.splitOn '.' name
  if found.getLast? = some [] then found.dropLast else found

/-- Whether a name has to be read as an address. -/
def endsInNumber (name : List Char) : Bool :=
  match (parts name).getLast? with
  | none => false
  | some last => (last ≠ [] && last.all Char.isDigit) || (number? last).isSome

/-- Reads an address of four bytes; the last number fills the bytes that have no
number of their own. -/
def parseIpv4 (name : List Char) : Except UrlFlaw Host :=
  match (parts name).mapM number? with
  | none => .error .badIpv4
  | some numbers =>
    match numbers.reverse with
    | [] => .error .badIpv4
    | last :: before =>
      if 3 < before.length ∨ Nat.pow 256 (4 - before.length) ≤ last ∨ before.any (255 < ·) then
        .error .badIpv4
      else
        let leading := before.reverse.foldl (fun address byte => address * 256 + byte) 0
        .ok (.ipv4 (leading * Nat.pow 256 (4 - before.length) + last))

/-! ### Addresses of sixteen bytes -/

/-- Reads the four bytes that may stand in place of the last two parts: decimal
numbers without needless zeros. -/
def embedded? (text : List Char) : Option (List Nat) := do
  let bytes ← (Text.splitOn '.' text).mapM fun part =>
    match part with
    | [] => none
    | '0' :: _ :: _ => none
    | part => if part.length ≤ 3 then (digitsIn? 10 part).filter (· ≤ 255) else none
  match bytes with
  | [a, b, c, d] => some [a * 256 + b, c * 256 + d]
  | _ => none

/-- Reads parts between single colons; the last may be four bytes. -/
def pieces? : List (List Char) → Option (List Nat)
  | [] => some []
  | [last] =>
    if last.contains '.' then embedded? last
    else if last = [] ∨ 4 < last.length then none
    else (digitsIn? 16 last).map ([·])
  | part :: rest => do
    if part = [] ∨ 4 < part.length then none
    else
      let value ← digitsIn? 16 part
      let values ← pieces? rest
      some (value :: values)

/-- Reads parts that may be none at all. -/
def side? (text : List Char) : Option (List Nat) :=
  if text = [] then some [] else pieces? (Text.splitOn ':' text)

/-- Cuts at the first double colon. -/
def cutDouble : List Char → Option (List Char × List Char)
  | [] => none
  | ':' :: ':' :: rest => some ([], rest)
  | char :: rest => (cutDouble rest).map fun (before, after) => (char :: before, after)

/-- Reads an address of eight parts; a double colon stands for the zeros that are
missing. -/
def parseIpv6 (text : List Char) : Except UrlFlaw Host :=
  let read : Option (List Nat) :=
    match cutDouble text with
    | none => (side? text).filter (·.length = 8)
    | some (before, after) => do
      let left ← side? before
      let right ← side? after
      if before.contains '.' ∨ 7 < left.length + right.length then none
      else some (left ++ List.replicate (8 - (left.length + right.length)) 0 ++ right)
  match read with
  | some parts => .ok (.ipv6 parts)
  | none => .error .badIpv6

/-! ### Names -/

/-- Reads a host under the schemes of the web. -/
def parse (text : List Char) : Except UrlFlaw Host :=
  match text with
  | '[' :: rest =>
    if rest.getLast? = some ']' then parseIpv6 rest.dropLast else .error .badIpv6
  | text =>
    match (Text.Utf8.decode? (Percent.decode text)).bind fun name => domain? name.toList with
    | none => .error .badDomain
    | some [] => .error .emptyHost
    | some name =>
      if endsInNumber name then parseIpv4 name else .ok (.domain (String.ofList name))

/-- Characters that a host under any other scheme cannot have. -/
def forbidden (char : Char) : Bool :=
  char.toNat == 0 || "\t\n\r #/:<>?@[\\]^|".toList.contains char

/-- Reads a host under any other scheme; it may be missing. -/
def parsePlain (text : List Char) : Except UrlFlaw (Option Host) :=
  match text with
  | '[' :: rest =>
    if rest.getLast? = some ']' then (parseIpv6 rest.dropLast).map some else .error .badIpv6
  | [] => .ok none
  | text =>
    if text.any forbidden then .error .badDomainCharacter
    else .ok (some (.domain (String.ofList (Percent.encode Percent.controls text))))

end FleetView.Host
