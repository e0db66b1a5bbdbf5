import Courier.Url.Host

/-! # URLs

A URL names a scheme, an authority (who, where), a path, and a query and a fragment where there are
any. The parts are kept in the form in which they are written, so the text of a URL is its parts with
the separators between them.
-/

namespace Courier

/-- The path of a URL. -/
inductive Url.Path
  /-- Text without structure, in a URL that has no authority. -/
  | rootless (text : String)
  /-- Segments, each written after a slash. -/
  | rooted (segments : List String)
  deriving DecidableEq, Repr

/-- A URL. -/
structure Url where
  scheme : String
  username : String
  password : Option String
  /-- A URL without an authority has no host at all. -/
  host : Option Host
  /-- The port, unless it is the scheme's own. -/
  port : Option UInt16
  path : Url.Path
  query : Option String
  fragment : Option String
  deriving DecidableEq, Repr

namespace Url

/-- The schemes whose URLs always have a path and whose hosts are names or addresses. -/
def isSpecialScheme (scheme : String) : Bool :=
  ["http", "https", "ws", "wss", "ftp", "file"].contains scheme

/-- The port that a scheme uses when a URL names none. -/
def schemePort? (scheme : String) : Option UInt16 :=
  if scheme = "http" ∨ scheme = "ws" then some 80
  else if scheme = "https" ∨ scheme = "wss" then some 443
  else if scheme = "ftp" then some 21
  else none

/-- Whether the URL is of a special scheme. -/
def isSpecial (url : Url) : Bool := isSpecialScheme url.scheme

/-- The text of the host, unless there is none. -/
def hostText? (url : Url) : Option String :=
  match url.host with
  | none | some .empty => none
  | some host => some host.text

/-- The port that the URL names, or else that of its scheme. -/
def effectivePort? (url : Url) : Option UInt16 := url.port.or (schemePort? url.scheme)

/-- The scheme, host and effective port of two URLs are the same. -/
def sameOrigin (a b : Url) : Bool :=
  a.scheme == b.scheme && a.hostText? == b.hostText? && a.effectivePort? == b.effectivePort?

/-- The text of a path. -/
def Path.text : Path → String
  | .rootless text => text
  | .rooted segments => segments.foldl (fun text segment => text ++ "/" ++ segment) ""

/-- A port after a colon. -/
def portText : Option UInt16 → String
  | none => ""
  | some port => ":" ++ Nat.repr port.toNat

/-- The host, with the port if the URL names one. -/
def authorityText (url : Url) : String := (url.hostText?.getD "") ++ portText url.port

/-- The name and password before the host. -/
def credentialsText (url : Url) : String :=
  match url.password with
  | some password => url.username ++ ":" ++ password ++ "@"
  | none => if url.username = "" then "" else url.username ++ "@"

/-- What stands between the scheme and the path. Without an authority, a path that begins with an
empty segment is set apart by a dot. -/
def beforePath (url : Url) : String :=
  match url.host, url.path with
  | some _, _ => "//" ++ url.credentialsText ++ url.authorityText
  | none, .rooted ("" :: _ :: _) => "/."
  | none, _ => ""

/-- A part after its mark, if there is such a part. -/
def marked (mark : String) : Option String → String
  | none => ""
  | some part => mark ++ part

/-- The text of a URL. -/
def text (url : Url) : String :=
  url.scheme ++ ":" ++ url.beforePath ++ url.path.text ++ marked "?" url.query ++
    marked "#" url.fragment

/-- The path with the query, as it is asked for. -/
def target (url : Url) : String := url.path.text ++ marked "?" url.query

/-- The wording of a fault. -/
def Fault.message : Fault → String
  | .emptyHost => "empty host"
  | .invalidDomain => "invalid international domain name"
  | .invalidPort => "invalid port number"
  | .invalidIpv4 => "invalid IPv4 address"
  | .invalidIpv6 => "invalid IPv6 address"
  | .forbiddenCharacter => "invalid domain character"
  | .relativeWithoutBase => "relative URL without a base"
  | .relativeToRootless => "relative URL with a cannot-be-a-base base"

end Url

end Courier
