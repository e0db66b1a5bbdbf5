import Courier.Text.Percent
import Courier.Url.Punycode
import Courier.Url.Repertoire

/-! # Domain names

A domain name is written in ASCII: small letters, and a label with other characters in its encoded
form after the mark `xn--`. Some ASCII characters cannot stand in a name.
-/

namespace Courier.Domain

/-- A character that cannot stand in a domain name. -/
def isForbidden (c : Char) : Bool :=
  c.toNat ≤ 0x20 || c.toNat == 0x7F || "%#/:<>?@[\\]^|".contains c

/-- The sequences between full stops. -/
def labels (name : List Char) : List (List Char) :=
  let step := fun (done : List (List Char) × List Char) (c : Char) =>
    if c = '.' then (done.2.reverse :: done.1, []) else (done.1, c :: done.2)
  let (before, last) := name.foldl step ([], [])
  (last.reverse :: before).reverse

/-- The mark of an encoded label. -/
def mark : List Char := ['x', 'n', '-', '-']

/-- A label in ASCII. An encoded label has to stand for a label with a character beyond ASCII, and
has to be the form in which that label is encoded. -/
def asciiLabel? (label : List Char) : Option (List Char) :=
  let isAscii := label.all fun c => c.toNat < 0x80
  if mark.isPrefixOf label then
    if isAscii then
      match Punycode.decode? (label.drop 4) with
      | some meant =>
        if (meant.any fun c => 0x80 ≤ c.toNat) ∧ isLabel meant ∧
            Punycode.encode meant = label.drop 4 then
          some label
        else none
      | none => none
    else none
  else if isAscii then some label
  else if isLabel label then some (mark ++ Punycode.encode label)
  else none

/-- The ASCII form of the name spelled by percent-encoded octets, unless it is no name. -/
def toAscii? (octets : Bytes) : Option String := do
  let text ← Utf8.decode? (Percent.decode octets)
  let spelled := (text.toList.filter (!isIgnored ·)).map respell
  let ascii ← (labels spelled).mapM asciiLabel?
  let name := ['.'].intercalate ascii
  if name.any isForbidden then none else some (String.ofList name)

end Courier.Domain
