import Courier.Text.Blank
import Courier.Url.Basic

/-! # Reading URLs

A URL is read from left to right: scheme, authority, path, query, fragment. A reference without a
scheme takes what it does not say from a base URL. Each part is brought into its written form: names
in small letters, dot segments carried out, characters that cannot stand in a part escaped.
-/

namespace Courier.Url

/-! ## Characters -/

/-- Whether an ASCII character stands for itself in any part: it is no control. -/
def isPlain (octet : UInt8) : Bool := 0x20 ≤ octet.toNat && octet.toNat < 0x7F

/-- Whether an octet is none of the characters of a text. -/
def isNoneOf (text : String) (octet : UInt8) : Bool := !text.contains (Char.ofNat octet.toNat)

/-- The characters that stand for themselves in a fragment. -/
def inFragment (octet : UInt8) : Bool := isPlain octet && isNoneOf " \"<>`" octet

/-- The characters that stand for themselves in a path. -/
def inPath (octet : UInt8) : Bool := isPlain octet && isNoneOf " \"#<>?`\x7b\x7d" octet

/-- The characters that stand for themselves in a name or password. -/
def inUserinfo (octet : UInt8) : Bool := inPath octet && isNoneOf "/:;=@[\\]^|" octet

/-- The characters that stand for themselves in a query. -/
def inQuery (special : Bool) (octet : UInt8) : Bool :=
  isPlain octet && isNoneOf " \"#<>" octet && !(special && octet = 0x27)

/-- A part with the characters escaped that do not stand for themselves. -/
def escaped (plain : UInt8 → Bool) (text : List Char) : String :=
  String.ofList (Percent.encode plain text)

/-- A character that separates segments: a slash, and in special URLs a backslash. -/
def isSlash (special : Bool) (c : Char) : Bool := c = '/' || (special && c = '\\')

/-- A character at which the part before the path ends. -/
def endsAuthority (special : Bool) (c : Char) : Bool :=
  isSlash special c || c = '?' || c = '#'

/-- A text as it is read: without controls and blanks at its ends, and without tabs and line ends
anywhere. -/
def cleaned (text : String) : List Char :=
  (Text.stripList (fun c => c.toNat ≤ 0x20) text.toList).filter fun c =>
    c ≠ '\t' && c ≠ '\n' && c ≠ '\r'

/-! ## Paths -/

/-- A segment that names the level where it stands. -/
def isDot (segment : String) : Bool := [".", "%2e"].contains (Text.lowerAscii segment)

/-- A segment that names the level above. -/
def isDoubleDot (segment : String) : Bool :=
  ["..", ".%2e", "%2e.", "%2e%2e"].contains (Text.lowerAscii segment)

/-- A segment that names a drive: a letter and a colon or bar. -/
def isDrive (segment : List Char) : Bool :=
  match segment with
  | [letter, mark] => letter.isAlpha && (mark = ':' || mark = '|')
  | _ => false

/-- The segments above the last one; the drive of a file stays. -/
def above (file : Bool) (reversed : List String) : List String :=
  match reversed with
  | [only] => if file && isDrive only.toList then reversed else []
  | _ => reversed.drop 1

/-- The segments, last first, after one more of them; `final` when no separator follows it. -/
def pushSegment (file final : Bool) (reversed : List String) (raw : List Char) : List String :=
  let segment := escaped inPath raw
  let reached := fun (segments : List String) => if final then "" :: segments else segments
  if isDoubleDot segment then reached (above file reversed)
  else if isDot segment then reached reversed
  else if file && reversed = [] && isDrive raw then
    String.ofList (raw.take 1 ++ [':']) :: reversed
  else segment :: reversed

/-- The raw segments of the path at the beginning of a text, the last one apart, and the rest of the
text. -/
def rawSegments (special : Bool) (done : List (List Char)) (current : List Char) :
    List Char → List (List Char) × List Char × List Char
  | [] => (done.reverse, current.reverse, [])
  | c :: rest =>
    if isSlash special c then rawSegments special (current.reverse :: done) [] rest
    else if c = '?' ∨ c = '#' then (done.reverse, current.reverse, c :: rest)
    else rawSegments special done (c :: current) rest

/-- The segments of a file's path: empty ones in front are left out. -/
def trimFile : List String → List String
  | "" :: next :: rest => trimFile (next :: rest)
  | segments => segments

/-- The path that continues given segments, read after a separator, and the rest of the text. -/
def readPath (scheme : String) (start : List String) (text : List Char) :
    List String × List Char :=
  let file := scheme = "file"
  let (raw, last, rest) := rawSegments (isSpecialScheme scheme) [] [] text
  let before := raw.foldl (pushSegment file false) start.reverse
  let segments := (pushSegment file true before last).reverse
  (if file then trimFile segments else segments, rest)

/-- The path after an authority, and the rest of the text: it may be absent unless the scheme is
special. -/
def readPathStart (scheme : String) (text : List Char) : List String × List Char :=
  let special := isSpecialScheme scheme
  match text with
  | [] => (if special then [""] else [], [])
  | c :: rest =>
    if isSlash special c then readPath scheme [] rest
    else if !special && (c = '?' || c = '#') then ([], text)
    else readPath scheme [] text

/-! ## Queries and fragments -/

/-- The query and the fragment of which a text consists. -/
def readTail (special : Bool) (text : List Char) : Option String × Option String :=
  let fragment := fun (rest : List Char) =>
    match rest with
    | '#' :: body => some (escaped inFragment body)
    | _ => none
  match text with
  | '?' :: body =>
    (some (escaped (inQuery special) (body.takeWhile (· ≠ '#'))),
      fragment (body.dropWhile (· ≠ '#')))
  | _ => (none, fragment text)

/-- The URL with the query and fragment of which a text consists. -/
def withTail (url : Url) (text : List Char) : Url :=
  let (query, fragment) := readTail url.isSpecial text
  { url with query, fragment }

/-! ## Authorities -/

/-- The text before and after the last occurrence of a character. -/
def atLast? (c : Char) (text : List Char) : Option (List Char × List Char) :=
  if text.contains c then
    let after := (text.reverse.takeWhile (· ≠ c)).reverse
    some (text.take (text.length - after.length - 1), after)
  else none

/-- The name and the password before a host; an empty password is none. -/
def credentials (text : List Char) : String × Option String :=
  match text.dropWhile (· ≠ ':') with
  | _ :: password@(_ :: _) =>
    (escaped inUserinfo (text.takeWhile (· ≠ ':')), some (escaped inUserinfo password))
  | _ => (escaped inUserinfo (text.takeWhile (· ≠ ':')), none)

/-- A host and what follows it: it ends at a colon outside brackets. -/
def cutHost (bracketed : Bool) : List Char → List Char × List Char
  | [] => ([], [])
  | c :: rest =>
    if c = ':' ∧ !bracketed then ([], c :: rest)
    else
      let inside := if c = '[' then true else if c = ']' then false else bracketed
      let (host, after) := cutHost inside rest
      (c :: host, after)

/-- The value of the decimal digits of a port, as long as it is one. -/
def portValue? (digits : List Char) : Option Nat :=
  let step := fun (value : Nat) (c : Char) =>
    let next := value * 10 + (c.toNat - 0x30)
    if next ≤ 65535 then some next else none
  digits.foldlM step 0

/-- The port after a colon, unless it is the scheme's own, and what follows it: nothing, or a
backslash that begins a path. -/
def readPort (scheme : String) (text : List Char) : Except Fault (Option UInt16 × List Char) :=
  let digits := text.takeWhile Char.isDigit
  let rest := text.dropWhile Char.isDigit
  match portValue? digits with
  | none => .error .invalidPort
  | some value =>
    if rest.head?.any (· ≠ '\\') then .error .invalidPort
    else
      let port := value.toUInt16
      .ok (if digits = [] ∨ schemePort? scheme = some port then none else some port, rest)

/-- What comes before a path: who, where, and at which port. -/
structure Authority where
  username : String
  password : Option String
  host : Host
  port : Option UInt16
  deriving DecidableEq, Repr

/-- The host and the port, with what follows them. -/
def readHostPort (scheme : String) (text : List Char) :
    Except Fault (Host × Option UInt16 × List Char) := do
  let special := isSpecialScheme scheme
  let (hostText, after) := cutHost false text
  if special ∧ hostText = [] then throw .emptyHost
  let host ← if special then Host.parse hostText else Host.parseAny hostText
  match after with
  | _ :: portText =>
    if host = .empty then throw .emptyHost
    let (port, rest) ← readPort scheme portText
    return (host, port, rest)
  | [] => return (host, none, [])

/-- The authority at the beginning of a text, and the rest of the text. -/
def readAuthority (scheme : String) (text : List Char) : Except Fault (Authority × List Char) := do
  let special := isSpecialScheme scheme
  let inside := text.takeWhile (!endsAuthority special ·)
  let outside := text.dropWhile (!endsAuthority special ·)
  let (user, rest) := (atLast? '@' inside).getD ([], inside)
  if inside.head? = some '@' ∧ rest = [] ∧ user = [] ∧ outside ≠ [] then throw .emptyHost
  let (username, password) := credentials user
  let (host, port, left) ← readHostPort scheme rest
  if host = .empty ∧ (username ≠ "" ∨ password ≠ none) then throw .emptyHost
  return (⟨username, password, host, port⟩, left ++ outside)

/-- A URL from its authority on. -/
def readAfterSlashes (scheme : String) (text : List Char) : Except Fault Url := do
  let (authority, rest) ← readAuthority scheme text
  let (segments, tail) := readPathStart scheme rest
  let url : Url :=
    { scheme, username := authority.username, password := authority.password
      host := some authority.host, port := authority.port, path := .rooted segments
      query := none, fragment := none }
  return url.withTail tail

/-! ## Files -/

/-- A URL of a file with a host and segments. -/
def fileUrl (host : Host) (segments : List String) (tail : List Char) : Url :=
  let url : Url :=
    { scheme := "file", username := "", password := none, host := some host, port := none
      path := .rooted segments, query := none, fragment := none }
  url.withTail tail

/-- The URL of a file from its host on. The name of this machine is left out, and so is the host
before a drive. -/
def readFileHost (text : List Char) : Except Fault Url := do
  let hostText := text.takeWhile (!endsAuthority true ·)
  let rest := text.dropWhile (!endsAuthority true ·)
  if isDrive hostText then
    let (segments, tail) := readPath "file" [] text
    return fileUrl .empty segments tail
  let parsed ← if hostText = [] then .ok .empty else Host.parse hostText
  let host := if parsed = .domain "localhost" then .empty else parsed
  let (segments, tail) := readPathStart "file" rest
  let driven := segments.head?.any fun first => isDrive first.toList
  return fileUrl (if driven then .empty else host) segments tail

/-- The URL of a file after its scheme. -/
def readFile (text : List Char) : Except Fault Url :=
  match text with
  | a :: b :: rest =>
    if isSlash true a && isSlash true b then readFileHost rest
    else
      let (segments, tail) := readPath "file" [] (if isSlash true a then b :: rest else text)
      .ok (fileUrl .empty segments tail)
  | _ =>
    let (segments, tail) := readPathStart "file" text
    .ok (fileUrl .empty segments tail)

/-! ## References -/

/-- The segments of a path; a text without structure has none. -/
def Path.segments : Path → List String
  | .rootless _ => []
  | .rooted segments => segments

/-- A base URL with the path, query and fragment that a text gives from given segments on. -/
def readOnto (base : Url) (start : List String) (text : List Char) : Url :=
  let (segments, tail) := readPath base.scheme start text
  { base with path := .rooted segments }.withTail tail

/-- A reference without a scheme, read against a base URL that has segments. -/
def readRelative (base : Url) (text : List Char) : Except Fault Url :=
  match text with
  | [] => .ok { base with fragment := none }
  | '?' :: _ => .ok (base.withTail text)
  | '#' :: _ => .ok { base with fragment := (readTail base.isSpecial text).2 }
  | c :: rest =>
    if isSlash base.isSpecial c then
      match rest with
      | d :: more =>
        if isSlash base.isSpecial d then
          if c = '/' ∧ d = '/' then readAfterSlashes base.scheme more
          else readAfterSlashes base.scheme (text.dropWhile (isSlash base.isSpecial))
        else .ok (readOnto base [] rest)
      | [] => .ok (readOnto base [] rest)
    else .ok (readOnto base base.path.segments.dropLast text)

/-- A URL without authority, of a scheme that is not special. -/
def readPlain (scheme : String) (text : List Char) : Url :=
  let blank : Url :=
    { scheme, username := "", password := none, host := none, port := none
      path := .rootless "", query := none, fragment := none }
  match text with
  | '/' :: rest => readOnto blank [] rest
  | _ =>
    let isEnd := fun c : Char => c = '?' || c = '#'
    { blank with path := .rootless (escaped isPlain (text.takeWhile (!isEnd ·))) }.withTail
      (text.dropWhile (!isEnd ·))

/-- The scheme at the beginning of a text, in small letters, and what follows its colon. -/
def readScheme? (text : List Char) : Option (String × List Char) :=
  let inScheme := fun c : Char => c.isAlphanum || c = '+' || c = '-' || c = '.'
  match text.head?.map Char.isAlpha, text.dropWhile inScheme with
  | some true, ':' :: rest =>
    some (String.ofList ((text.takeWhile inScheme).map Char.toLower), rest)
  | _, _ => none

/-- A URL after its scheme. -/
def readAfterScheme (base : Option Url) (scheme : String) (text : List Char) :
    Except Fault Url :=
  if scheme = "file" then readFile text
  else if isSpecialScheme scheme then
    let slashes := (text.takeWhile (isSlash true)).length
    match base with
    | some base =>
      if slashes < 2 ∧ base.scheme = scheme then readRelative base text
      else readAfterSlashes scheme (text.drop slashes)
    | none => readAfterSlashes scheme (text.drop slashes)
  else
    match text with
    | '/' :: '/' :: rest => readAfterSlashes scheme rest
    | _ => .ok (readPlain scheme text)

/-- The URL that a text names, read against a base URL if there is one. -/
def read (base : Option Url) (text : String) : Except Fault Url :=
  let chars := cleaned text
  match readScheme? chars, base with
  | some (scheme, rest), _ => readAfterScheme base scheme rest
  | none, none => .error .relativeWithoutBase
  | none, some base =>
    match base.path, chars with
    | .rootless _, '#' :: _ => .ok { base with fragment := (readTail base.isSpecial chars).2 }
    | .rootless _, _ => .error .relativeToRootless
    | .rooted _, _ => readRelative base chars

/-- The URL that a text names by itself. -/
def parse (text : String) : Except Fault Url := read none text

/-- The URL that a reference names against a base. -/
def join (base : Url) (reference : String) : Except Fault Url := read (some base) reference

end Courier.Url
