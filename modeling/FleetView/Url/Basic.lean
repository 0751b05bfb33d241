/-
URLs in their normal form, and what a text can lack to be one. All parts are
held as they are written, that is, percent-encoded.
-/

import FleetView.Url.Percent
import FleetView.Text.Blank

namespace FleetView

/-- Why a text is no URL. -/
inductive UrlFlaw where
  | emptyHost
  | badDomain
  | badPort
  | badIpv4
  | badIpv6
  | badDomainCharacter
  | noScheme
  /-- There is no path that could be extended. -/
  | noSegments
  deriving DecidableEq, Repr

/-- The wording of a flaw. -/
def UrlFlaw.message : UrlFlaw → String
  | .emptyHost => "empty host"
  | .badDomain => "invalid international domain name"
  | .badPort => "invalid port number"
  | .badIpv4 => "invalid IPv4 address"
  | .badIpv6 => "invalid IPv6 address"
  | .badDomainCharacter => "invalid domain character"
  | .noScheme => "relative URL without a base"
  | .noSegments => "relative URL with a cannot-be-a-base base"

/-- The host of a URL. -/
inductive Host where
  /-- A name; it is not empty. -/
  | domain (name : String)
  | ipv4 (address : Nat)
  /-- Eight parts of sixteen bits. -/
  | ipv6 (parts : List Nat)
  deriving DecidableEq, Repr

/-- What stands behind the two slashes. -/
structure Authority where
  username : String
  password : Option String
  /-- Missing where nothing stands before the path. -/
  host : Option Host
  /-- Missing where it is the usual one of the scheme. -/
  port : Option Nat
  deriving DecidableEq, Repr

/-- The path of a URL. -/
inductive UrlPath where
  /-- A text without parts. -/
  | whole (text : String)
  /-- Parts, each with a slash before it. -/
  | segments (parts : List String)
  deriving DecidableEq, Repr

/-- A URL. -/
structure Url where
  scheme : String
  authority : Option Authority
  path : UrlPath
  query : Option String
  fragment : Option String
  deriving DecidableEq, Repr

/-! ### Schemes -/

/-- How a scheme is read. -/
inductive SchemeKind where
  | file
  /-- The schemes of the web, which always have a host. -/
  | web
  | other
  deriving DecidableEq, Repr

namespace SchemeKind

/-- The kind of a scheme. -/
def of (scheme : String) : SchemeKind :=
  if scheme = "file" then .file
  else if scheme ∈ ["http", "https", "ws", "wss", "ftp"] then .web
  else .other

/-- Whether backslashes count as slashes. -/
def isSpecial (kind : SchemeKind) : Bool := kind ≠ .other

end SchemeKind

/-- The usual port of a scheme. -/
def usualPort (scheme : String) : Option Nat :=
  match scheme with
  | "http" | "ws" => some 80
  | "https" | "wss" => some 443
  | "ftp" => some 21
  | _ => none

/-! ### Text -/

namespace Host

/-- The first of the longest runs of zeros among the parts of an address, by its
start and length. -/
def longestZeros : List Nat → Nat → Nat → Nat × Nat → Nat × Nat
  | [], _, _, best => best
  | part :: rest, position, run, best =>
    if part = 0 then
      let run := run + 1
      longestZeros rest (position + 1) run
        (if best.2 < run then (position + 1 - run, run) else best)
    else longestZeros rest (position + 1) 0 best

/-- Parts in hexadecimal digits with colons between them. -/
def joinParts (parts : List Nat) : String :=
  Text.joinWith ":" (parts.map fun part => String.ofList (Nat.toDigits 16 part))

/-- The text of an address of eight parts; the longest run of two or more zeros
is left out. -/
def ipv6Text (parts : List Nat) : String :=
  let (start, run) := longestZeros parts 0 0 (0, 0)
  if run < 2 then joinParts parts
  else joinParts (parts.take start) ++ "::" ++ joinParts (parts.drop (start + run))

/-- The text of an address of four bytes. -/
def ipv4Text (address : Nat) : String :=
  Text.joinWith "." <|
    [address / 0x1000000, address / 0x10000 % 256, address / 0x100 % 256, address % 256].map Nat.repr

/-- The text of a host. -/
def text : Host → String
  | .domain name => name
  | .ipv4 address => ipv4Text address
  | .ipv6 parts => "[" ++ ipv6Text parts ++ "]"

end Host

namespace Authority

/-- The host and the port. -/
def place (authority : Authority) : String :=
  ((authority.host.map Host.text).getD "") ++
    match authority.port with
    | some port => ":" ++ Nat.repr port
    | none => ""

/-- Name and password with the mark behind them, if there are any. -/
def userinfo (authority : Authority) : String :=
  if authority.username = "" ∧ authority.password = none then ""
  else authority.username ++ (match authority.password with
    | some password => ":" ++ password
    | none => "") ++ "@"

/-- The text of an authority. -/
def text (authority : Authority) : String := authority.userinfo ++ authority.place

end Authority

/-- The text of a path. -/
def UrlPath.text : UrlPath → String
  | .whole text => text
  | .segments parts => String.join (parts.map ("/" ++ ·))

namespace Url

/-- A text behind a mark, where there is one. -/
def marked (mark : String) : Option String → String
  | some text => mark ++ text
  | none => ""

/-- The text of a URL. A path that starts with two slashes and has no host before
it is set off by a dot, since the slashes would otherwise announce a host. -/
def text (url : Url) : String :=
  url.scheme ++ ":" ++
    (match url.authority, url.path with
    | some authority, _ => "//" ++ authority.text
    | none, .segments ("" :: _ :: _) => "/."
    | none, _ => "") ++
    url.path.text ++ marked "?" url.query ++ marked "#" url.fragment

/-- The same URL without name and password. -/
def withoutUserinfo (url : Url) : Url :=
  { url with authority := url.authority.map fun authority =>
      { authority with username := "", password := none } }

/-- The same URL without the part behind the hash mark. -/
def withoutFragment (url : Url) : Url := { url with fragment := none }

/-- Name and password that a URL carries, decoded. Without a name and without a
password it carries none. -/
def credentials? (url : Url) : Option (String × Option String) := do
  let authority ← url.authority
  let username ← Percent.decodeText? authority.username
  let password := authority.password.bind Percent.decodeText?
  if username = "" ∧ password = none then none else some (username, password)

/-- Characters that may stand in a host but are not sent as part of an address. -/
def isUnsent (char : Char) : Bool :=
  char == '"' || char == '\x60' || char == '\x7b' || char == '\x7d'

/-- Whether a request can be sent to a URL: its scheme is one of the two that carry
HTTP, its host can be sent as it is written, and its text is not too long. -/
def isCallable (url : Url) : Bool :=
  (url.scheme == "http" || url.scheme == "https") &&
    (url.authority.all fun authority => !authority.place.toList.any isUnsent) &&
    decide (url.text.utf8ByteSize < 65535)

end Url

end FleetView
