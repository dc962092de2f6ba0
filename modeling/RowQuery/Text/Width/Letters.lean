import RowQuery.Text.Width.Character

/-!
Letters that are drawn as one with the letter before them. A text is measured from its end, so each
of them is given as what it is to the character before it.
-/

namespace RowQuery.Text

/-- The joiner, which asks for one drawing of its neighbours. -/
def joinerChar : Char := '\u200D'

/-- The forms of the Arabic letter lam. -/
def lams : CodeSet := ⟨[0x644, 0x645, 0x6B5, 0x6B9, 0x76A, 0x76B, 0x8A6, 0x8A7, 0x8C7, 0x8C8]⟩

/-- The forms of the Arabic letter alef. -/
def alefs : CodeSet :=
  ⟨[
    0x622, 0x624, 0x625, 0x626, 0x627, 0x628, 0x671, 0x674, 0x675, 0x676, 0x773, 0x775, 0x870,
    0x883]⟩

/-- The characters of no width that part Arabic letters: they have no joining type T. -/
def partingChars : CodeSet :=
  ⟨[
    0x605, 0x606, 0x890, 0x892, 0x8E2, 0x8E3, 0x9BE, 0x9BF, 0x9D7, 0x9D8, 0xB3E, 0xB3F, 0xB57,
    0xB58, 0xBBE, 0xBBF, 0xBD7, 0xBD8, 0xCC0, 0xCC1, 0xCC2, 0xCC3, 0xCC7, 0xCC9, 0xCCA, 0xCCC,
    0xCD5, 0xCD7, 0xD3E, 0xD3F, 0xD57, 0xD58, 0xDCF, 0xDD0, 0xDDF, 0xDE0, 0x1160, 0x1200, 0x1715,
    0x1716, 0x1734, 0x1735, 0x180E, 0x180F, 0x1B35, 0x1B36, 0x1B3B, 0x1B3C, 0x1B3D, 0x1B3E, 0x1B43,
    0x1B45, 0x1BAA, 0x1BAB, 0x1BF2, 0x1BF4, 0x200C, 0x200E, 0x2065, 0x206A, 0x302E, 0x3030, 0x3164,
    0x3165, 0xA8FA, 0xA8FB, 0xA953, 0xA954, 0xA9C0, 0xA9C1, 0xD7B0, 0xD7C7, 0xD7CB, 0xD7FC, 0xFFA0,
    0xFFA1, 0xFFF0, 0xFFF9, 0x111C0, 0x111C1, 0x11235, 0x11236, 0x1133E, 0x1133F, 0x1134D, 0x1134E,
    0x11357, 0x11358, 0x113B8, 0x113B9, 0x113C2, 0x113C3, 0x113C5, 0x113C6, 0x113C7, 0x113CA,
    0x113CF, 0x113D0, 0x114B0, 0x114B1, 0x114BD, 0x114BE, 0x115AF, 0x115B0, 0x116B6, 0x116B7,
    0x11930, 0x11931, 0x1193D, 0x1193E, 0x11F41, 0x11F42, 0x16FF0, 0x16FF2, 0x1D165, 0x1D167,
    0x1D16D, 0x1D173, 0xE0000, 0xE0001, 0xE0002, 0xE0020, 0xE0080, 0xE0100, 0xE01F0, 0xE1000]⟩

/-- The Khmer letters that take a column less as a subscript. -/
def khmerLetters : CodeSet :=
  ⟨[
    0x1780, 0x1783, 0x1784, 0x1788, 0x1789, 0x178D, 0x178E, 0x1794, 0x1795, 0x1799, 0x179B, 0x179E,
    0x17A0, 0x17A1, 0x17A2, 0x17A3, 0x17A7, 0x17A8, 0x17AB, 0x17AD, 0x17AF, 0x17B0]⟩

/-- The Tifinagh consonants. -/
def tifinaghConsonants : CodeSet := ⟨[0x2D31, 0x2D66, 0x2D6F, 0x2D70]⟩

/-- The Lisu tone letters that stand first in a pair. -/
def firstLisuTones : CodeSet := ⟨[0xA4F8, 0xA4FC]⟩

/-- The Lisu tone letters that stand last in a pair. -/
def lastLisuTones : CodeSet := ⟨[0xA4FC, 0xA4FE]⟩

/-- The characters that do not part the letters of a pair, except for those of Arabic. -/
def unseenBetweenLetters : CodeSet :=
  ⟨[
    0x34F, 0x350, 0x17B4, 0x17B6, 0x180B, 0x180E, 0x180F, 0x1810, 0x200D, 0x200E, 0xFE00, 0xFE10,
    0xE0100, 0xE01F0]⟩

/-- A letter, or a group of them, that can be drawn as one with what stands before it. -/
inductive JoiningLetter where
  /-- The Arabic letter alef, behind a lam. -/
  | alef
  /-- The Hebrew letter lamed, behind an alef and a joiner. -/
  | lamed
  /-- The Buginese letter ya, behind a vowel sign and a joiner. -/
  | ya
  /-- The Buginese letter ya with its vowel sign, behind a letter a. -/
  | vowelYa
  /-- A Tifinagh consonant, behind another. -/
  | tifinagh
  /-- A Tifinagh consonant with the mark that joins it to another. -/
  | joinedTifinagh
  /-- The last of a pair of Lisu tone letters. -/
  | lisuTone
  /-- The Old Turkic letter Orkhon i, behind a letter ash and a joiner. -/
  | orkhonI
  /-- A Khmer letter, behind the sign that makes it a subscript. -/
  | khmer
  /-- The Kirat Rai vowel sign e, as the end of a longer sign. -/
  | kiratRaiE
  /-- The Kirat Rai vowel sign ai, as the end of a longer sign. -/
  | kiratRaiAi
deriving DecidableEq

namespace JoiningLetter

/-- What the character is to the one before it, if the two can be drawn as one. -/
def of? (c : Char) : Option JoiningLetter :=
  if alefs.contains c then some alef
  else if c = '\u05DC' then some lamed
  else if c = '\u1A10' then some ya
  else if tifinaghConsonants.contains c then some tifinagh
  else if lastLisuTones.contains c then some lisuTone
  else if c = Char.ofNat 0x10C03 then some orkhonI
  else if khmerLetters.contains c then some khmer
  else if c = Char.ofNat 0x16D67 then some kiratRaiE
  else if c = Char.ofNat 0x16D68 then some kiratRaiAi
  else none

/-- Whether the letter stays joined across the characters of `unseenBetweenLetters`. -/
def seesThrough : JoiningLetter → Bool
  | alef | kiratRaiE | kiratRaiAi => false
  | _ => true

/-- Whether the letter stays joined across a selector. -/
def seesThroughSelector (l : JoiningLetter) : Bool := l = alef || l.seesThrough

/-- The columns of a character that is drawn as one with the letter behind it, and what both are to
the one before them; `joined` says whether a joiner stands between. -/
def pair? (l : JoiningLetter) (joined : Bool) (c : Char) : Option (Int × Option JoiningLetter) :=
  match l with
  | alef =>
    if lams.contains c then some (0, none)
    else if charWidth c = 0 && !partingChars.contains c then some (0, alef)
    else none
  | lamed => if joined && c = '\u05D0' then some (0, none) else none
  | ya => if joined && c = '\u1A17' then some (0, vowelYa) else none
  | vowelYa => if c = '\u1A15' then some (0, none) else none
  | tifinagh =>
    if c = '\u2D7F' then some (1, joinedTifinagh)
    else if joined && tifinaghConsonants.contains c then some (0, none)
    else none
  | joinedTifinagh => if tifinaghConsonants.contains c then some (-1, none) else none
  | lisuTone => if firstLisuTones.contains c then some (0, none) else none
  | orkhonI => if joined && c = Char.ofNat 0x10C32 then some (0, none) else none
  | khmer => if c = '\u17D2' then some (-1, none) else none
  | kiratRaiE =>
    match c.toNat with
    | 0x16D63 | 0x16D69 => some (0, none)
    | 0x16D67 => some (0, kiratRaiAi)
    | 0x16D68 => some (1, kiratRaiE)
    | _ => none
  | kiratRaiAi => if c = Char.ofNat 0x16D63 then some (0, none) else none

end JoiningLetter

/-- A joining letter as what stands behind a character, with or without a joiner before it. -/
structure LetterTail where
  letter : JoiningLetter
  joined : Bool

/-- The columns of a character that the letter does not part from itself, and what is then behind
the character before it. -/
def LetterTail.before? (t : LetterTail) (c : Char) : Option (Int × Option LetterTail) :=
  if t.letter.seesThrough && c = joinerChar then some (0, some ⟨t.letter, true⟩)
  else if t.letter.seesThrough && unseenBetweenLetters.contains c then some (0, some t)
  else (t.letter.pair? t.joined c).map fun (columns, l) => (columns, l.map (⟨·, false⟩))

end RowQuery.Text
