import Courier.Url.Respelling

/-! # The repertoire of labels

Not every character can stand in a label of a domain name. Controls, blanks and characters for private
use cannot; a character that is spelled in another way stands there in its other spelling; and a mark
that goes with a letter cannot be the first.
-/

namespace Courier.Domain

/-- A range of characters. -/
structure CharRange where
  first : Nat
  last : Nat
  deriving DecidableEq, Repr

/-- Whether a character lies in one of some ranges. -/
def inRanges (ranges : List CharRange) (c : Char) : Bool :=
  ranges.any fun range => range.first ≤ c.toNat && c.toNat ≤ range.last

/-- Controls, separators of lines, signs of direction, characters for private use and what is no
character. -/
def excluded : List CharRange := [
  ⟨0x80, 0x9F⟩, ⟨0x600, 0x605⟩, ⟨0x61C, 0x61C⟩, ⟨0x6DD, 0x6DD⟩, ⟨0x70F, 0x70F⟩, ⟨0x180E, 0x180E⟩,
  ⟨0x200E, 0x200F⟩, ⟨0x2028, 0x202E⟩, ⟨0x2061, 0x206F⟩, ⟨0xD800, 0xF8FF⟩, ⟨0xFDD0, 0xFDEF⟩,
  ⟨0xFFF0, 0xFFFF⟩, ⟨0x1FFFE, 0x1FFFF⟩, ⟨0x2FFFE, 0x2FFFF⟩, ⟨0x3FFFE, 0xE00FF⟩,
  ⟨0xE01F0, 0x10FFFF⟩]

/-- Characters that are spelled by others: blanks, figures and letters in other shapes, ligatures,
and signs made of several characters. -/
def composed : List CharRange := [
  ⟨0xA0, 0xA0⟩, ⟨0xA8, 0xA8⟩, ⟨0xAF, 0xAF⟩, ⟨0xB4, 0xB4⟩, ⟨0xB8, 0xB8⟩, ⟨0xBC, 0xBE⟩,
  ⟨0x130, 0x130⟩, ⟨0x132, 0x133⟩, ⟨0x13F, 0x140⟩, ⟨0x149, 0x149⟩, ⟨0x1C4, 0x1CC⟩, ⟨0x1F1, 0x1F3⟩,
  ⟨0x2D8, 0x2DD⟩, ⟨0x344, 0x344⟩, ⟨0x37A, 0x37A⟩, ⟨0x384, 0x385⟩, ⟨0x587, 0x587⟩,
  ⟨0x675, 0x678⟩, ⟨0x958, 0x95F⟩, ⟨0xE33, 0xE33⟩, ⟨0xEB3, 0xEB3⟩, ⟨0xEDC, 0xEDD⟩,
  ⟨0x1680, 0x1680⟩, ⟨0x1E9A, 0x1E9A⟩, ⟨0x1E9E, 0x1E9E⟩, ⟨0x1F80, 0x1FAF⟩, ⟨0x1FFC, 0x200A⟩,
  ⟨0x2011, 0x2011⟩, ⟨0x2017, 0x2017⟩, ⟨0x2024, 0x2026⟩, ⟨0x202F, 0x202F⟩, ⟨0x2033, 0x2034⟩,
  ⟨0x2036, 0x2037⟩, ⟨0x203C, 0x203C⟩, ⟨0x203E, 0x203E⟩, ⟨0x2047, 0x2049⟩, ⟨0x2057, 0x2057⟩,
  ⟨0x205F, 0x205F⟩, ⟨0x2070, 0x209C⟩, ⟨0x20A8, 0x20A8⟩, ⟨0x2100, 0x2103⟩, ⟨0x2105, 0x2107⟩,
  ⟨0x2109, 0x2113⟩, ⟨0x2115, 0x2116⟩, ⟨0x2119, 0x211D⟩, ⟨0x2120, 0x2122⟩, ⟨0x2124, 0x2124⟩,
  ⟨0x2126, 0x2126⟩, ⟨0x2128, 0x2128⟩, ⟨0x212A, 0x212D⟩, ⟨0x212F, 0x2139⟩, ⟨0x213B, 0x2140⟩,
  ⟨0x2145, 0x2149⟩, ⟨0x2150, 0x217F⟩, ⟨0x2183, 0x2183⟩, ⟨0x2189, 0x2189⟩, ⟨0x2329, 0x232A⟩,
  ⟨0x2460, 0x24EA⟩, ⟨0x2C00, 0x2C2F⟩, ⟨0x2E9F, 0x2E9F⟩, ⟨0x2EF3, 0x2FD5⟩, ⟨0x3000, 0x3000⟩,
  ⟨0x3036, 0x3036⟩, ⟨0x3038, 0x303A⟩, ⟨0x309B, 0x309C⟩, ⟨0x309F, 0x309F⟩, ⟨0x30FF, 0x30FF⟩,
  ⟨0x3131, 0x318E⟩, ⟨0x3192, 0x319F⟩, ⟨0x3200, 0x3247⟩, ⟨0x3250, 0x327E⟩, ⟨0x3280, 0x33FF⟩,
  ⟨0xF900, 0xFA0D⟩, ⟨0xFA2A, 0xFB1D⟩, ⟨0xFB1F, 0xFBB1⟩, ⟨0xFBD3, 0xFD3D⟩, ⟨0xFD50, 0xFDC7⟩,
  ⟨0xFDF0, 0xFDFC⟩, ⟨0xFE10, 0xFE19⟩, ⟨0xFE30, 0xFE44⟩, ⟨0xFE47, 0xFE72⟩, ⟨0xFE74, 0xFEFC⟩,
  ⟨0x1D400, 0x1D7FF⟩, ⟨0x1EE00, 0x1EEBB⟩, ⟨0x1F100, 0x1F10A⟩, ⟨0x1F110, 0x1F12E⟩,
  ⟨0x1F130, 0x1F14F⟩, ⟨0x1F16A, 0x1F16C⟩, ⟨0x1F190, 0x1F190⟩, ⟨0x1F200, 0x1F251⟩,
  ⟨0x1FBF0, 0x1FBF9⟩, ⟨0x2F800, 0x2FA1D⟩]

/-- Marks that go with the letter before them. -/
def combining : List CharRange := [
  ⟨0x300, 0x36F⟩, ⟨0x483, 0x489⟩, ⟨0x591, 0x5BD⟩, ⟨0x610, 0x61A⟩, ⟨0x64B, 0x65F⟩, ⟨0x900, 0x903⟩,
  ⟨0x93A, 0x93C⟩, ⟨0x93E, 0x94F⟩, ⟨0x1AB0, 0x1AFF⟩, ⟨0x1DC0, 0x1DFF⟩, ⟨0x20D0, 0x20F0⟩,
  ⟨0x302A, 0x302F⟩, ⟨0x3099, 0x309A⟩, ⟨0xFE20, 0xFE2F⟩]

/-- A character that a domain name leaves out. -/
def isIgnored (c : Char) : Bool :=
  c.toNat == 0xAD || c.toNat == 0x200B || c.toNat == 0x2060 || c.toNat == 0xFEFF ||
    (0xFE00 ≤ c.toNat && c.toNat ≤ 0xFE0F)

/-- Whether a character stands in a label as it is. -/
def isUsable (c : Char) : Bool :=
  !isIgnored c && respell c == c && !inRanges excluded c && !inRanges composed c

/-- A sign that joins the characters beside it, or keeps them apart. -/
def isJoiner (c : Char) : Bool := c.toNat == 0x200C || c.toNat == 0x200D

/-- Whether every joiner follows a character beyond ASCII. -/
def joins (before : Char) : List Char → Bool
  | [] => true
  | c :: rest => (!isJoiner c || 0x80 ≤ before.toNat) && joins c rest

/-- Whether characters can make up a label. -/
def isLabel (label : List Char) : Bool :=
  label.all isUsable && !(label.head?.any (inRanges combining)) && joins 'a' label

end Courier.Domain
