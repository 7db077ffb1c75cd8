import Breakwater.Text.Combining
import Breakwater.Text.Unassigned

/-!
Which characters can stand for themselves in one line of text. Controls, blanks other than the
space, invisible format characters, private characters, code points without a character and marks
that extend the character before them cannot.
-/

namespace Breakwater.Text

/-- Controls, blanks and separators other than the space, format characters, private characters
and the letters that fill a place without a shape.
-/
def invisibleRanges : CodeRanges := [
  (0x0, 0x1f), (0x7f, 0xa0), (0xad, 0xad), (0x600, 0x605), (0x61c, 0x61c), (0x6dd, 0x6dd),
  (0x70f, 0x70f), (0x890, 0x891), (0x8e2, 0x8e2), (0x115f, 0x1160), (0x1680, 0x1680),
  (0x180e, 0x180e), (0x2000, 0x200f), (0x2028, 0x202f), (0x205f, 0x2064), (0x2066, 0x206f),
  (0x3000, 0x3000), (0x3164, 0x3164), (0xd800, 0xf8ff), (0xfeff, 0xfeff), (0xffa0, 0xffa0),
  (0xfff9, 0xfffb), (0x110bd, 0x110bd), (0x110cd, 0x110cd), (0x13430, 0x1343f), (0x1bca0, 0x1bca3),
  (0x1d173, 0x1d17a), (0xe0001, 0xe0001), (0xe0020, 0xe007f), (0xf0000, 0xffffd),
  (0x100000, 0x10fffd)
]

/-- Whether a character can stand for itself. -/
def isPrintable (c : Char) : Bool :=
  if c.toNat < 0x7f then 0x20 ≤ c.toNat
  else
    !invisibleRanges.contains c.toNat && !unassignedRanges.contains c.toNat
      && !combiningRanges.contains c.toNat

end Breakwater.Text
