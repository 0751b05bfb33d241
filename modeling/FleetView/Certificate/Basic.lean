/-
Certificates as they are written in bytes. Everything in one is a value: a tag,
a length, and a content that may hold further values. The length is written in
the shortest way, so that no two texts stand for the same certificate. Only the
shape is checked here, and neither dates nor signatures.
-/

namespace FleetView.Certificate

/-! ### Values -/

/-- Some bytes. -/
abbrev Bytes := List UInt8

/-- Reads the length of a content: in one byte below 128, and in one or two bytes
behind a mark where fewer would not do. -/
def length? : Bytes → Option (Nat × Bytes)
  | 0x81 :: length :: rest => if 0x80 ≤ length then some (length.toNat, rest) else none
  | 0x82 :: high :: low :: rest =>
    let length := high.toNat * 256 + low.toNat
    if 0x100 ≤ length ∧ length < 0xFFFF then some (length, rest) else none
  | length :: rest => if length < 0x80 then some (length.toNat, rest) else none
  | [] => none

/-- Takes the content of a value with a certain tag from the front. -/
def content? (tag : UInt8) : Bytes → Option (Bytes × Bytes)
  | [] => none
  | found :: rest => do
    let (length, rest) ← length? rest
    if found = tag ∧ length ≤ rest.length then some (rest.take length, rest.drop length) else none

/-- Takes the contents of several values, one for each tag. -/
def contents? : List UInt8 → Bytes → Option (List Bytes × Bytes)
  | [], bytes => some ([], bytes)
  | tag :: tags, bytes => do
    let (content, rest) ← content? tag bytes
    let (contents, rest) ← contents? tags rest
    some (content :: contents, rest)

/-- The contents of several values with nothing behind them. -/
def exactly? (tags : List UInt8) (bytes : Bytes) : Option (List Bytes) :=
  match contents? tags bytes with
  | some (contents, []) => some contents
  | _ => none

/-- The contents of values that all have the same tag; the number bounds how many
there are. -/
def repeated? (tag : UInt8) : Nat → Bytes → Option (List Bytes)
  | _, [] => some []
  | 0, _ => none
  | count + 1, bytes => do
    let (content, rest) ← content? tag bytes
    some (content :: (← repeated? tag count rest))

/-- The tag of a truth value. -/
def truthTag : UInt8 := 0x01

/-- The tag of a whole number. -/
def numberTag : UInt8 := 0x02

/-- The tag of bits. -/
def bitsTag : UInt8 := 0x03

/-- The tag of bytes. -/
def bytesTag : UInt8 := 0x04

/-- The tag of a name that is made of numbers. -/
def nameTag : UInt8 := 0x06

/-- The tag of a list. -/
def listTag : UInt8 := 0x30

/-- The tag of what gives the version. -/
def versionTag : UInt8 := 0xA0

/-- The tag of what holds the extensions. -/
def extensionsTag : UInt8 := 0xA3

/-! ### Extensions -/

/-- What a certificate says besides its fixed parts. -/
structure Extension where
  name : Bytes
  /-- Whether it must be understood. -/
  critical : Bool
  value : Bytes
  deriving DecidableEq, Repr

namespace Extension

/-- Reads an extension; the truth value may be missing. -/
def read? (bytes : Bytes) : Option Extension := do
  let (name, rest) ← content? nameTag bytes
  let (critical, rest) ←
    if rest.head? = some truthTag then
      match ← content? truthTag rest with
      | ([0x00], rest) => some (false, rest)
      | ([0xFF], rest) => some (true, rest)
      | _ => none
    else some (false, rest)
  match ← exactly? [bytesTag] rest with
  | [value] => some ⟨name, critical, value⟩
  | _ => none

/-- The last part of the name of an extension that is understood: what the key is
for, other names of the owner, whether it may sign, which names it may sign, where
lists of revoked certificates are, and further uses of the key. -/
def known? (extension : Extension) : Option UInt8 :=
  match extension.name with
  | [0x55, 0x1D, last] => if last ∈ [15, 17, 19, 30, 31, 37] then some last else none
  | _ => none

/-- Whether an extension is acceptable by itself: one that is not understood must
not be critical, and the others hold a list, apart from what the key is for. -/
def isFit (extension : Extension) : Bool :=
  match extension.known? with
  | none => !extension.critical
  | some last => last == 15 || (exactly? [listTag] extension.value).isSome

/-- Reads the extensions. -/
def readAll? (bytes : Bytes) : Option (List Extension) := do
  let (contents, rest) ← contents? [listTag] bytes
  match contents, rest with
  | [content], [] => (← repeated? listTag content.length content).mapM read?
  | _, _ => none

end Extension

/-- Whether extensions can stand beside each other: each is fit, and none that is
understood is there twice. -/
def areFit (extensions : List Extension) : Bool :=
  extensions.all Extension.isFit && decide (extensions.filterMap Extension.known?).Nodup

/-! ### The whole -/

/-- Whether a statement has the parts of the third version: version, serial number,
algorithm, issuer, dates, owner, key, and extensions if any. The algorithm is the
one that the certificate names beside it. -/
def isThirdVersion (algorithm statement : Bytes) : Bool :=
  match contents? [versionTag, numberTag, listTag, listTag, listTag, listTag, listTag] statement with
  | some (version :: _ :: stated :: _, rest) =>
    exactly? [numberTag] version == some [[2]] && stated == algorithm &&
      (rest == [] ||
        (match exactly? [extensionsTag] rest with
        | some [content] => (Extension.readAll? content).any areFit
        | _ => false))
  | _ => false

/-- Whether a statement has the parts of the first version, which neither names its
version nor has extensions. -/
def isFirstVersion (statement : Bytes) : Bool :=
  (exactly? [numberTag, listTag, listTag, listTag, listTag, listTag] statement).isSome

/-- Whether some bytes are a certificate: a list of a statement, an algorithm and a
signature, which is made of whole bytes. -/
def isCertificate (bytes : Bytes) : Bool :=
  match exactly? [listTag] bytes with
  | some [content] =>
    match exactly? [listTag, listTag, bitsTag] content with
    | some [statement, algorithm, 0x00 :: _] =>
      isThirdVersion algorithm statement || isFirstVersion statement
    | _ => false
  | _ => false

end FleetView.Certificate
