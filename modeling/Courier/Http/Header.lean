import Courier.Text.Utf8

/-! # Names and values of headers

A header name is a word of ASCII token characters, kept in small letters, so two names that differ
in case alone are one. A value is a sequence of octets without controls other than tabs.
-/

namespace Courier

/-- The name of a header, in small letters. -/
structure HeaderName where
  text : String
  deriving DecidableEq, Repr

/-- The value of a header. -/
structure HeaderValue where
  bytes : Bytes
  deriving DecidableEq, Repr

namespace HeaderName

/-- The small letter, digit or mark that stands for an octet in a name, if the octet may stand
there. -/
def character? (octet : UInt8) : Option Char :=
  let c := Char.ofNat octet.toNat
  if c.isAlphanum ∨ "!#$%&'*+-.^_`|~".contains c then some c.toLower else none

/-- The name that octets spell: one to 65535 of them. -/
def ofBytes? (bytes : Bytes) : Option HeaderName :=
  if bytes = [] ∨ 65535 < bytes.length then none
  else (bytes.mapM character?).map fun chars => ⟨String.ofList chars⟩

/-- Names with a meaning of their own. -/
def accept : HeaderName := ⟨"accept"⟩
@[inherit_doc accept] def apiKey : HeaderName := ⟨"x-api-key"⟩
@[inherit_doc accept] def authorization : HeaderName := ⟨"authorization"⟩
@[inherit_doc accept] def cacheControl : HeaderName := ⟨"cache-control"⟩
@[inherit_doc accept] def connection : HeaderName := ⟨"connection"⟩
@[inherit_doc accept] def contentLength : HeaderName := ⟨"content-length"⟩
@[inherit_doc accept] def contentType : HeaderName := ⟨"content-type"⟩
@[inherit_doc accept] def cookie : HeaderName := ⟨"cookie"⟩
@[inherit_doc accept] def cookie2 : HeaderName := ⟨"cookie2"⟩
@[inherit_doc accept] def host : HeaderName := ⟨"host"⟩
@[inherit_doc accept] def location : HeaderName := ⟨"location"⟩
@[inherit_doc accept] def proxyAuthorization : HeaderName := ⟨"proxy-authorization"⟩
@[inherit_doc accept] def transferEncoding : HeaderName := ⟨"transfer-encoding"⟩
@[inherit_doc accept] def userAgent : HeaderName := ⟨"user-agent"⟩
@[inherit_doc accept] def wwwAuthenticate : HeaderName := ⟨"www-authenticate"⟩

end HeaderName

namespace HeaderValue

/-- An octet that may stand in a value. -/
def isAllowed (octet : UInt8) : Bool := (0x20 ≤ octet && octet ≠ 0x7F) || octet = 0x09

/-- The value that octets spell. -/
def ofBytes? (bytes : Bytes) : Option HeaderValue :=
  if bytes.all isAllowed then some ⟨bytes⟩ else none

/-- The value that a text spells. -/
def ofText? (text : String) : Option HeaderValue := ofBytes? (Utf8.encode text)

/-- The text of a value in which every octet is a visible character, a space or a tab. -/
def visible? (value : HeaderValue) : Option String :=
  if value.bytes.all fun octet => (0x20 ≤ octet && octet < 0x7F) || octet = 0x09 then
    some (String.ofList (value.bytes.map fun octet => Char.ofNat octet.toNat))
  else none

end HeaderValue

end Courier
