/-
UTF-8 in both directions. Reading has a forgiving form, in which every maximal
run of bytes that cannot be continued becomes one replacement character, and a
strict form, which answers only for bytes that were valid throughout.
-/

namespace FleetView.Text.Utf8

/-- The bytes of a text. -/
def encode (text : String) : List UInt8 := text.toList.flatMap String.utf8EncodeChar

/-- A character whose first bytes have been read. -/
structure Pending where
  /-- What the bytes read so far contribute. -/
  code : Nat
  /-- Continuation bytes still to come, the next one included. -/
  owed : Nat
  /-- The least value the next byte may have. -/
  low : Nat
  /-- The greatest value the next byte may have. -/
  high : Nat

/-- What a byte between characters starts. -/
inductive Start where
  | whole (char : Char)
  | opens (pending : Pending)
  | invalid

/-- Reads the first byte of a character. The narrower second-byte ranges keep
out overlong forms, surrogates and codes above U+10FFFF. -/
def start (byte : Nat) : Start :=
  if byte < 0x80 then .whole (Char.ofNat byte)
  else if byte < 0xC2 then .invalid
  else if byte < 0xE0 then .opens ⟨byte - 0xC0, 1, 0x80, 0xBF⟩
  else if byte = 0xE0 then .opens ⟨0, 2, 0xA0, 0xBF⟩
  else if byte = 0xED then .opens ⟨0xD, 2, 0x80, 0x9F⟩
  else if byte < 0xF0 then .opens ⟨byte - 0xE0, 2, 0x80, 0xBF⟩
  else if byte = 0xF0 then .opens ⟨0, 3, 0x90, 0xBF⟩
  else if byte < 0xF4 then .opens ⟨byte - 0xF0, 3, 0x80, 0xBF⟩
  else if byte = 0xF4 then .opens ⟨4, 3, 0x80, 0x8F⟩
  else .invalid

/-- One step of reading: the characters it yields, `none` standing for bytes
that form no character, and the character left open. -/
def step (byte : Nat) : Option Pending → List (Option Char) × Option Pending
  | none => begun
  | some pending =>
    if pending.low ≤ byte ∧ byte ≤ pending.high then
      let code := pending.code * 64 + (byte - 0x80)
      if pending.owed ≤ 1 then ([some (Char.ofNat code)], none)
      else ([], some ⟨code, pending.owed - 1, 0x80, 0xBF⟩)
    else (none :: begun.1, begun.2)
where
  /-- What the byte is when no character is open. -/
  begun : List (Option Char) × Option Pending :=
    match start byte with
    | .whole char => ([some char], none)
    | .opens pending => ([], some pending)
    | .invalid => ([none], none)

/-- Reads all bytes; `none` marks each maximal invalid run. -/
def scan : List UInt8 → Option Pending → List (Option Char)
  | [], none => []
  | [], some _ => [none]
  | byte :: rest, pending =>
    let (chars, next) := step byte.toNat pending
    chars ++ scan rest next

/-- Reads bytes as text, with U+FFFD for each maximal invalid run. -/
def decodeLossy (bytes : List UInt8) : String :=
  String.ofList ((scan bytes none).map (·.getD (Char.ofNat 0xFFFD)))

/-- Reads bytes that are valid throughout. -/
def decode? (bytes : List UInt8) : Option String :=
  ((scan bytes none).mapM id).map String.ofList

/-- How many bytes a text takes. -/
def length (chars : List Char) : Nat := chars.foldr (fun char bytes => char.utf8Size + bytes) 0

end FleetView.Text.Utf8
