import RecordQuery.Text.Width

/-!
# Ligatures

In some scripts letters that stand side by side are shown as one. A text is looked at
from its end, because the letter in front decides whether a ligature comes about: a
`RecordQuery.Text.Ligature` is the end of one that has been seen, and
`RecordQuery.Text.Ligature.extend?` puts one more character in front of it.

Marks that are ignored by default do not stand in the way of a ligature, and some
ligatures need a joiner between their letters.
-/

namespace RecordQuery.Text

/-- The character that joins its neighbours. -/
def joiner : Char := '\u200d'

/-- The end of a ligature. Where it says `joined`, a joiner may have been seen in front
of the last letter. -/
inductive Ligature
  /-- An Arabic alef, with any transparent marks in front of it. -/
  | alef
  /-- A Hebrew lamed. -/
  | lamed (joined : Bool)
  /-- A Buginese ya. -/
  | ya (joined : Bool)
  /-- A Buginese vowel sign i, a joiner and a ya. -/
  | vowelYa
  /-- A Tifinagh consonant. -/
  | consonant (joined : Bool)
  /-- A Tifinagh consonant with its own kind of joiner in front. -/
  | joinedConsonant
  /-- A Lisu tone letter that closes a pair. -/
  | tone
  /-- An Old Turkic letter i. -/
  | orkhonI (joined : Bool)
  /-- A Khmer letter that may be written under another one. -/
  | subscript
  /-- A Kirat Rai vowel sign e. -/
  | vowelE
  /-- A Kirat Rai vowel sign ai. -/
  | vowelAi
deriving DecidableEq

namespace Ligature

/-! ### Letters -/

/-- The Arabic letters alef. -/
def alefRanges : CodeRanges :=
  [(0x622, 0x623), (0x625, 0x625), (0x627, 0x627), (0x671, 0x673), (0x675, 0x675), (0x773, 0x774),
   (0x870, 0x882)]

/-- The Arabic letters lam. -/
def lamRanges : CodeRanges :=
  [(0x644, 0x644), (0x6B5, 0x6B8), (0x76A, 0x76A), (0x8A6, 0x8A6), (0x8C7, 0x8C7)]

/-- The Tifinagh consonants. -/
def consonantRanges : CodeRanges :=
  [(0x2D31, 0x2D65), (0x2D6F, 0x2D6F)]

/-- The Khmer letters whose written form under another letter takes no column. -/
def subscriptRanges : CodeRanges :=
  [(0x1780, 0x1782), (0x1784, 0x1787), (0x1789, 0x178C), (0x178E, 0x1793), (0x1795, 0x1798),
   (0x179B, 0x179D), (0x17A0, 0x17A0), (0x17A2, 0x17A2), (0x17A7, 0x17A7), (0x17AB, 0x17AC),
   (0x17AF, 0x17AF)]

/-- The marks that are ignored by default. -/
def ignorableMarkRanges : CodeRanges :=
  [(0x34F, 0x34F), (0x17B4, 0x17B5), (0x180B, 0x180D), (0x180F, 0x180F), (0xFE00, 0xFE0F),
   (0xE0100, 0xE01EF)]

/-- The characters without a column that Arabic letters do not join across. -/
def separatingRanges : CodeRanges :=
  [(0x605, 0x605), (0x890, 0x891), (0x8E2, 0x8E2), (0x9BE, 0x9BE), (0x9D7, 0x9D7), (0xB3E, 0xB3E),
   (0xB57, 0xB57), (0xBBE, 0xBBE), (0xBD7, 0xBD7), (0xCC0, 0xCC0), (0xCC2, 0xCC2), (0xCC7, 0xCC8),
   (0xCCA, 0xCCB), (0xCD5, 0xCD6), (0xD3E, 0xD3E), (0xD4E, 0xD4E), (0xD57, 0xD57), (0xDCF, 0xDCF),
   (0xDDF, 0xDDF), (0x1160, 0x11FF), (0x1715, 0x1715), (0x1734, 0x1734), (0x180E, 0x180E),
   (0x1B35, 0x1B35), (0x1B3B, 0x1B3B), (0x1B3D, 0x1B3D), (0x1B43, 0x1B44), (0x1BAA, 0x1BAA),
   (0x1BF2, 0x1BF3), (0x200C, 0x200D), (0x2065, 0x2069), (0x302E, 0x302F), (0x3164, 0x3164),
   (0xA8FA, 0xA8FA), (0xA953, 0xA953), (0xA9C0, 0xA9C0), (0xD7B0, 0xD7C6), (0xD7CB, 0xD7FB),
   (0xFFA0, 0xFFA0), (0xFFF0, 0xFFF8), (0x111C0, 0x111C0), (0x111C2, 0x111C3), (0x11235, 0x11235),
   (0x1133E, 0x1133E), (0x1134D, 0x1134D), (0x11357, 0x11357), (0x113B8, 0x113B8),
   (0x113C2, 0x113C2), (0x113C5, 0x113C5), (0x113C7, 0x113C9), (0x113CF, 0x113CF),
   (0x113D1, 0x113D1), (0x114B0, 0x114B0), (0x114BD, 0x114BD), (0x115AF, 0x115AF),
   (0x116B6, 0x116B6), (0x11930, 0x11930), (0x1193D, 0x1193D), (0x1193F, 0x1193F),
   (0x11941, 0x11941), (0x11A84, 0x11A89), (0x11D46, 0x11D46), (0x11F02, 0x11F02),
   (0x11F41, 0x11F41), (0x16FF0, 0x16FF1), (0x1D165, 0x1D166), (0x1D16D, 0x1D172),
   (0xE0000, 0xE0000), (0xE0002, 0xE001F), (0xE0080, 0xE00FF), (0xE01F0, 0xE0FFF)]

/-- Whether Arabic letters join across a character. -/
def isTransparent (c : Char) : Bool :=
  isZeroWidth c && !inRanges separatingRanges c

/-! ### Ends -/

/-- The ligature that a letter may be the last of. -/
def opening? (c : Char) : Option Ligature :=
  if inRanges alefRanges c then some .alef
  else if inRanges subscriptRanges c then some .subscript
  else if inRanges consonantRanges c then some (.consonant false)
  else if c.toNat = 0x5DC then some (.lamed false)
  else if c.toNat = 0x1A10 then some (.ya false)
  else if c.toNat = 0xA4FC || c.toNat = 0xA4FD then some .tone
  else if c.toNat = 0x10C03 then some (.orkhonI false)
  else if c.toNat = 0x16D67 then some .vowelE
  else if c.toNat = 0x16D68 then some .vowelAi
  else none

/-- Whether selectors are transparent to a ligature. -/
def isSteady : Ligature → Bool
  | .vowelE | .vowelAi => false
  | _ => true

/-- The ligature with a joiner in front of it, if that does not break it up. -/
def withJoiner? : Ligature → Option Ligature
  | .alef | .vowelE | .vowelAi => none
  | .lamed _ => some (.lamed true)
  | .ya _ => some (.ya true)
  | .consonant _ => some (.consonant true)
  | .orkhonI _ => some (.orkhonI true)
  | ending => some ending

/-- The ligature with a letter in front of it, or nothing if that completes it; and the
columns that the letter adds. -/
def withLetter? (c : Char) : Ligature → Option (Option Ligature × Int)
  | .alef =>
    if inRanges lamRanges c then some (none, 0)
    else if isTransparent c then some (some .alef, 0)
    else none
  | .lamed joined => if joined && c.toNat = 0x5D0 then some (none, 0) else none
  | .ya joined => if joined && c.toNat = 0x1A17 then some (some .vowelYa, 0) else none
  | .vowelYa => if c.toNat = 0x1A15 then some (none, 0) else none
  | .consonant joined =>
    -- the joiner between consonants is counted until the first of them is seen
    if c = tifinaghJoiner then some (some .joinedConsonant, 1)
    else if joined && inRanges consonantRanges c then some (none, 0)
    else none
  | .joinedConsonant => if inRanges consonantRanges c then some (none, -1) else none
  | .tone => if 0xA4F8 ≤ c.toNat && c.toNat ≤ 0xA4FB then some (none, 0) else none
  | .orkhonI joined => if joined && c.toNat = 0x10C32 then some (none, 0) else none
  | .subscript => if c.toNat = 0x17D2 then some (none, -1) else none
  | .vowelE =>
    -- two signs e are the sign ai, and with the sign aa either makes one more vowel
    if c.toNat = 0x16D63 || c.toNat = 0x16D69 then some (none, 0)
    else if c.toNat = 0x16D67 then some (some .vowelAi, 0)
    else if c.toNat = 0x16D68 then some (some .vowelE, 1)
    else none
  | .vowelAi => if c.toNat = 0x16D63 then some (none, 0) else none

/-- **Puts a character in front of a ligature**: what is left of the ligature, and the
columns that the character adds; or nothing if the character does not belong to it. -/
def extend? (c : Char) (ligature : Ligature) : Option (Option Ligature × Int) :=
  match ligature.withJoiner? with
  | none => ligature.withLetter? c
  | some joined =>
    if c = joiner then some (some joined, 0)
    else if inRanges ignorableMarkRanges c then some (some ligature, 0)
    else ligature.withLetter? c

end Ligature

end RecordQuery.Text
