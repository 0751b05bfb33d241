/-
Percent-encoding. Each part of a URL has its own set of ASCII characters that
must be encoded; characters beyond ASCII always are, byte by byte. Decoding
takes any text and leaves alone whatever is no encoded byte.
-/

import FleetView.Json.Reader

namespace FleetView.Percent

/-- The control characters. -/
def controls (char : Char) : Bool := char.toNat < 0x20 || char.toNat == 0x7F

/-- What is encoded behind the hash mark. -/
def fragment (char : Char) : Bool :=
  controls char || char == ' ' || char == '"' || char == '<' || char == '>' || char == '\x60'

/-- What is encoded in a query. -/
def query (char : Char) : Bool :=
  controls char || char == ' ' || char == '"' || char == '#' || char == '<' || char == '>'

/-- What is encoded in a query of the schemes of the web. -/
def specialQuery (char : Char) : Bool := query char || char == '\''

/-- What is encoded in a path that is read as a whole. -/
def path (char : Char) : Bool :=
  fragment char || char == '#' || char == '?' || char == '\x7b' || char == '\x7d'

/-- What is encoded in a name or a password. -/
def userinfo (char : Char) : Bool :=
  path char || char == '/' || char == ':' || char == ';' || char == '=' || char == '@' ||
    char == '[' || char == '\\' || char == ']' || char == '^' || char == '|'

/-- What is encoded in a text that is to be one segment of a path. -/
def segment (char : Char) : Bool := path char || char == '/' || char == '%'

/-- What is encoded in such a text under the schemes of the web. -/
def specialSegment (char : Char) : Bool := segment char || char == '\\'

/-- One hexadecimal digit, in upper case. -/
def hexDigit (value : Nat) : Char :=
  if value < 10 then Char.ofNat (48 + value) else Char.ofNat (55 + value)

/-- One encoded byte. -/
def encodeByte (byte : UInt8) : List Char :=
  ['%', hexDigit (byte.toNat / 16), hexDigit (byte.toNat % 16)]

/-- One character, encoded where the set asks for it. -/
def encodeChar (set : Char → Bool) (char : Char) : List Char :=
  if set char || 0x80 ≤ char.toNat then (String.utf8EncodeChar char).flatMap encodeByte
  else [char]

/-- A text, encoded where the set asks for it. -/
def encode (set : Char → Bool) (text : List Char) : List Char := text.flatMap (encodeChar set)

/-- The bytes that a text stands for. -/
def decode : List Char → List UInt8
  | [] => []
  | '%' :: a :: b :: rest =>
    match JsonText.hexValue? a, JsonText.hexValue? b with
    | some high, some low => UInt8.ofNat (high * 16 + low) :: decode rest
    | _, _ => String.utf8EncodeChar '%' ++ decode (a :: b :: rest)
  | char :: rest => String.utf8EncodeChar char ++ decode rest

/-- The text that an encoded text stands for, if its bytes are valid. -/
def decodeText? (text : String) : Option String := Text.Utf8.decode? (decode text.toList)

end FleetView.Percent
