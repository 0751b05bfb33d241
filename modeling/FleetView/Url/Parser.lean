/-
Reading URLs. The text is read from left to right: the scheme decides how the
rest is cut up, and each part is brought into its normal form, so that the text
of the URL that is read may differ from the text it was read from.
-/

import FleetView.Url.Host

namespace FleetView.Url

/-- Whether a character is passed over everywhere. -/
def isBreak (char : Char) : Bool := char == '\t' || char == '\n' || char == '\r'

/-- A text without breaks. -/
def unbroken (text : List Char) : List Char := text.filter fun char => !isBreak char

/-! ### Segments of a path -/

/-- A dot may also be written as an encoded byte. -/
def isSingleDot (segment : String) : Bool := segment ∈ [".", "%2e", "%2E"]

/-- Two dots, each of which may be encoded. -/
def isDoubleDot (segment : String) : Bool :=
  segment ∈ ["..", ".%2e", ".%2E", "%2e.", "%2E.", "%2e%2e", "%2e%2E", "%2E%2e", "%2E%2E"]

/-- A segment that names a drive: a letter and a colon, or a bar in its place. -/
def isDrive (segment : String) : Bool :=
  match segment.toList with
  | [letter, mark] => letter.isAlpha && (mark == ':' || mark == '|')
  | _ => false

/-- Whether two dots do not go up from a segment: it names a drive, alone or with
a backslash and more behind it. -/
def holdsDots (segment : String) : Bool :=
  isDrive (String.ofList (segment.toList.takeWhile (· ≠ '\\')))

/-- A drive and the rest of its segment, when a break stands between them. -/
def partedDrive? (segment : List Char) : Option (List Char × List Char) :=
  match segment.dropWhile isBreak with
  | letter :: rest =>
    match rest.dropWhile isBreak with
    | ':' :: behind =>
      let more := unbroken behind
      if letter.isAlpha && behind.head?.any isBreak && more ≠ [] then some ([letter, ':'], more)
      else none
    | _ => none
  | [] => none

/-- Puts a segment at the end of a path. A single dot stays where it is and two
dots go up; either leaves an empty segment when nothing follows. A drive at the
front of the path of a file is written with a colon, and a break ends its segment. -/
def place (kind : SchemeKind) (set : Char → Bool) (parts : List String) (segment : List Char)
    (followed : Bool) : List String :=
  let encode (text : List Char) := String.ofList (Percent.encode set text)
  let front : Bool := kind = .file ∧ parts = []
  let written := encode (unbroken segment)
  match if front then partedDrive? segment else none with
  | some (drive, rest) => [encode drive, encode rest]
  | none =>
    if isDoubleDot written then
      let kept := if parts.getLast?.any holdsDots then parts else parts.dropLast
      if followed then kept else kept ++ [""]
    else if isSingleDot written then if followed then parts else parts ++ [""]
    else if front && isDrive written then [String.ofList (written.toList.take 1 ++ [':'])]
    else parts ++ [written]

/-- Puts segments at the end of a path that is read as a whole. -/
def placeAll (kind : SchemeKind) (parts : List String) : List (List Char) → List String
  | [] => parts
  | [segment] => place kind Percent.path parts segment false
  | segment :: rest => placeAll kind (place kind Percent.path parts segment true) rest

/-- Whether a character ends a segment. -/
def isSlash (kind : SchemeKind) (char : Char) : Bool :=
  char == '/' || (char == '\\' && kind.isSpecial)

/-- Cuts a path at its slashes; the first slash has been read. -/
def cutSegments (kind : SchemeKind) : List Char → List (List Char)
  | [] => [[]]
  | char :: rest =>
    if isSlash kind char then [] :: cutSegments kind rest
    else match cutSegments kind rest with
      | [] => [[char]]
      | segment :: segments => (char :: segment) :: segments

/-- The segments of a path behind its first slash. -/
def readSegments (kind : SchemeKind) (text : List Char) : List String :=
  placeAll kind [] (cutSegments kind text)

/-! ### Query and fragment -/

/-- Cuts at the first character of a class, which stays with the second part. -/
def cutBefore (stops : Char → Bool) (text : List Char) : List Char × List Char :=
  (text.takeWhile fun char => !stops char, text.dropWhile fun char => !stops char)

/-- What starts a query or a fragment. -/
def endsPath (char : Char) : Bool := char == '?' || char == '#'

/-- Reads what follows the hash mark. -/
def readFragment (text : List Char) : String :=
  String.ofList (Percent.encode Percent.fragment text)

/-- Reads query and fragment. -/
def readTail (kind : SchemeKind) : List Char → Option String × Option String
  | '#' :: rest => (none, some (readFragment rest))
  | '?' :: rest =>
    let (query, rest) := cutBefore (· == '#') rest
    let set := if kind.isSpecial then Percent.specialQuery else Percent.query
    (some (String.ofList (Percent.encode set query)),
      match rest with
      | _ :: rest => some (readFragment rest)
      | [] => none)
  | _ => (none, none)

/-- Puts a URL together from its front and the text behind it. -/
def finish (scheme : String) (authority : Option Authority) (path : UrlPath)
    (rest : List Char) : Url :=
  let (query, fragment) := readTail (SchemeKind.of scheme) rest
  ⟨scheme, authority, path, query, fragment⟩

/-- Reads the path behind a host. Under a special scheme there always is one. -/
def readPathStart (kind : SchemeKind) (text : List Char) : UrlPath × List Char :=
  let (path, rest) := cutBefore endsPath text
  match path with
  | [] => (.segments (if kind.isSpecial then [""] else []), rest)
  | char :: more =>
    (.segments (readSegments kind (if isSlash kind char then more else char :: more)), rest)

/-! ### Name, host and port -/

/-- What ends the part behind the slashes. -/
def endsAuthority (kind : SchemeKind) (char : Char) : Bool :=
  char == '/' || endsPath char || (char == '\\' && kind.isSpecial)

/-- Cuts name and password from what follows: the last such mark counts. -/
def cutUserinfo (kind : SchemeKind) (text : List Char) : Option (List Char) × List Char :=
  let (front, behind) := cutBefore (endsAuthority kind) text
  let host := (front.reverse.takeWhile (· ≠ '@')).reverse
  if host.length = front.length then (none, text)
  else (some (front.take (front.length - host.length - 1)), host ++ behind)

/-- Reads name and password; an empty password is none. -/
def readUserinfo (text : List Char) : String × Option String :=
  let encode (part : List Char) := String.ofList (Percent.encode Percent.userinfo part)
  let (username, rest) := cutBefore (· == ':') text
  (encode username,
    match rest with
    | _ :: char :: more => some (encode (char :: more))
    | _ => none)

/-- Cuts the host from what follows; a colon between brackets belongs to it. -/
def cutHost (kind : SchemeKind) : Bool → List Char → List Char × List Char
  | _, [] => ([], [])
  | inBrackets, char :: rest =>
    if endsAuthority kind char || (char == ':' && !inBrackets) then ([], char :: rest)
    else
      let inBrackets := if char = '[' then true else if char = ']' then false else inBrackets
      let (host, rest) := cutHost kind inBrackets rest
      (char :: host, rest)

/-- Reads the digits of a port and what ends it. -/
def readPort : Option Nat → List Char → Except UrlFlaw (Option Nat × List Char)
  | port, [] => .ok (port, [])
  | port, char :: rest =>
    if char.isDigit then
      let value := port.getD 0 * 10 + (char.toNat - '0'.toNat)
      if value ≤ 65535 then readPort (some value) rest else .error .badPort
    else if char = '/' ∨ char = '\\' ∨ endsPath char then .ok (port, char :: rest)
    else .error .badPort

/-- Reads what stands behind the two slashes, and the path. -/
def readAuthority (scheme : String) (text : List Char) : Except UrlFlaw Url := do
  let kind := SchemeKind.of scheme
  let (userinfo, rest) := cutUserinfo kind text
  let emptied : Bool := match rest with
    | char :: _ => endsAuthority kind char
    | [] => false
  if userinfo = some [] ∧ emptied then .error .emptyHost
  else
    let (username, password) := readUserinfo (userinfo.getD [])
    let (name, rest) := cutHost kind false rest
    let host ←
      if kind.isSpecial then
        if name = [] then .error .emptyHost else (Host.parse name).map some
      else Host.parsePlain name
    let (port, rest) ←
      match rest with
      | ':' :: rest => if host = none then .error .emptyHost else readPort none rest
      | rest => .ok (none, rest)
    if host = none ∧ (username ≠ "" ∨ password ≠ none) then .error .emptyHost
    else
      let (path, rest) := readPathStart kind rest
      let port := if port = usualPort scheme then none else port
      .ok (finish scheme (some ⟨username, password, host, port⟩) path rest)

/-! ### Files -/

/-- The path of a file has no empty segments in front. -/
def withoutEmptyFront (parts : List String) : List String :=
  match parts.dropWhile (· == "") with
  | [] => [""]
  | kept => kept

/-- Puts the URL of a file together. A path that starts at a drive leaves no place
for a host. -/
def finishFile (host : Option Host) (parts : List String) (rest : List Char) : Url :=
  let host := if parts.head?.any isDrive then none else host
  finish "file" (some ⟨"", none, host, none⟩) (.segments (withoutEmptyFront parts)) rest

/-- Reads the host of a file. It may be missing, and the name of the machine itself
counts as none. -/
def readFileHost (name : List Char) : Except UrlFlaw (Option Host) :=
  if name = [] then .ok none
  else (Host.parse name).map fun host => if host = .domain "localhost" then none else some host

/-- Drops a slash at the front. -/
def skipSlash (text : List Char) : Option (List Char) :=
  match text.dropWhile isBreak with
  | char :: rest => if isSlash .file char then some rest else none
  | [] => none

/-- Reads the URL of a file, breaks and all. A drive in the place of the host belongs
to the path. Where there is no host, the slash before the path counts as an empty
segment. -/
def readFileUrl (text : List Char) : Except UrlFlaw Url := do
  let (path, rest) := cutBefore endsPath text
  let rest := unbroken rest
  let behind := (skipSlash path).getD path
  match (skipSlash path).bind skipSlash with
  | none => .ok (finishFile none (readSegments .file behind) rest)
  | some text =>
    let (name, path) := cutBefore (isSlash .file) text
    if isDrive (String.ofList (unbroken name)) then
      .ok (finishFile none (readSegments .file text) rest)
    else
      match ← readFileHost (unbroken name) with
      | none => .ok (finishFile none (readSegments .file path) rest)
      | some host => .ok (finishFile (some host) (readSegments .file (path.drop 1)) rest)

/-! ### The whole -/

/-- Whether a character may stand in a scheme. -/
def inScheme (char : Char) : Bool :=
  char.isAlphanum || char == '+' || char == '-' || char == '.'

/-- Reads the scheme, which a colon ends. -/
def readScheme (text : List Char) : Except UrlFlaw String :=
  match cutBefore (fun char => !inScheme char) text with
  | (char :: more, ':' :: _) =>
    if char.isAlpha then .ok (String.ofList ((char :: more).map Char.toLower))
    else .error .noScheme
  | _ => .error .noScheme

/-- Reads a URL behind its scheme. -/
def readRest (scheme : String) (text : List Char) : Except UrlFlaw Url :=
  match SchemeKind.of scheme, unbroken text with
  | .file, _ => readFileUrl text
  | .web, shown => readAuthority scheme (shown.dropWhile (isSlash .web))
  | .other, '/' :: '/' :: rest => readAuthority scheme rest
  | .other, '/' :: rest =>
    let (path, rest) := cutBefore endsPath rest
    .ok (finish scheme none (.segments (readSegments .other path)) rest)
  | .other, shown =>
    let (path, rest) := cutBefore endsPath shown
    let path := String.ofList (Percent.encode Percent.controls path)
    .ok (finish scheme none (.whole path) rest)

/-- Whether a character at either end is no part of the URL. -/
def atEnds (char : Char) : Bool := char.toNat ≤ 0x20

/-- Reads a URL. -/
def parse (text : String) : Except UrlFlaw Url := do
  let text := Text.trimBoth atEnds text.toList
  let scheme ← readScheme (unbroken text)
  readRest scheme ((text.dropWhile (· ≠ ':')).drop 1)

/-! ### Going down from a URL -/

/-- Puts one more segment at the end of a path, encoded so that it stays one. A
path that ends in an empty root is replaced. Texts that are dots only once their
breaks are gone are taken for dots. -/
def extend (kind : SchemeKind) (parts : List String) (segment : String) : List String :=
  if segment = "." ∨ segment = ".." then parts
  else
    let set := if kind.isSpecial then Percent.specialSegment else Percent.segment
    let placed := place kind set (if parts = [""] then [] else parts) segment.toList false
    if kind = .file then withoutEmptyFront placed else placed

/-- A path without the empty segment at its end. -/
def withoutEmptyEnd (parts : List String) : List String :=
  if 2 ≤ parts.length ∧ parts.getLast? = some "" then parts.dropLast else parts

/-- The URL some segments further down. -/
def descend (url : Url) (segments : List String) : Except UrlFlaw Url :=
  match url.path with
  | .whole _ => .error .noSegments
  | .segments parts =>
    let kind := SchemeKind.of url.scheme
    .ok { url with path := .segments (segments.foldl (extend kind) (withoutEmptyEnd parts)) }

end FleetView.Url
