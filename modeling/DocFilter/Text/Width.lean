import DocFilter.Text.Columns
import DocFilter.Text.Emoji

/-!
How many columns a text takes on a terminal. Some characters share their columns with what comes
behind them: the parts of an emoji, and the letters of ligatures in several scripts. A text is
therefore measured from its end, with an eye on what it begins with.
-/

namespace DocFilter.Text

/-- The columns of a character that stands by itself. -/
def columns (c : Char) : Nat :=
  if c.toNat < 0x7f then 1
  else if zeroWidth.has c then 0
  else if wide.has c then 2
  else if c = '\u17d8' then 3
  else 1

def joiner : Char := '\u200d'

/-- Marks that may stand within a ligature. -/
def ligatureMarks : Ranges :=
  [(0x34f, 0x34f), (0x17b4, 0x17b5), (0x180b, 0x180d), (0x180f, 0x180f), (0xfe00, 0xfe0f),
    (0xe0100, 0xe01ef)]

def lams : Ranges :=
  [(0x644, 0x644), (0x6b5, 0x6b8), (0x76a, 0x76a), (0x8a6, 0x8a6), (0x8c7, 0x8c7)]

def alefs : Ranges :=
  [(0x622, 0x623), (0x625, 0x625), (0x627, 0x627), (0x671, 0x673), (0x675, 0x675),
    (0x773, 0x774), (0x870, 0x882)]

/-- Letters of Khmer that can be written below the one before. -/
def coengLetters : Ranges :=
  [(0x1780, 0x1782), (0x1784, 0x1787), (0x1789, 0x178c), (0x178e, 0x1793), (0x1795, 0x1798),
    (0x179b, 0x179d), (0x17a0, 0x17a0), (0x17a2, 0x17a2), (0x17a7, 0x17a7), (0x17ab, 0x17ac),
    (0x17af, 0x17af)]

def tifinaghConsonants : Ranges := [(0x2d31, 0x2d65), (0x2d6f, 0x2d6f)]

def lisuFirstTones : Ranges := [(0xa4f8, 0xa4fb)]

def lisuSecondTones : Ranges := [(0xa4fc, 0xa4fd)]

/-- Quotation marks that a selector can make wide. -/
def quotationMarks : Ranges := [(0x2018, 0x2019), (0x201c, 0x201d)]

/-- The shades that an emoji of a person can take. -/
def emojiModifiers : Ranges := [(0x1f3fb, 0x1f3ff)]

/-- Letters of which two make a flag. -/
def indicators : Ranges := [(0x1f1e6, 0x1f1ff)]

def tagLetters : Ranges := [(0xe0061, 0xe007a)]

def tagDigits : Ranges := [(0xe0030, 0xe0039)]

def tagEnd : Ranges := [(0xe007f, 0xe007f)]

def blackFlag : Ranges := [(0x1f3f4, 0x1f3f4)]

/-- Characters that a selector can give the style of text, so that they become narrow. -/
def textStyled (c : Char) : Bool :=
  emojiByDefault.has c && emojiStyled.has c && !Ranges.has [(0x1f200, 0x1f2ff)] c

/-- The end of a ligature, for some of them with a joiner before it. -/
inductive LigatureEnd
  /-- Of a Hebrew alef and lamed. -/
  | lamed (joined : Bool)
  /-- Of a Buginese vowel, another and a ya. -/
  | ya (joined : Bool)
  | vowelYa
  /-- Of two Tifinagh consonants, with a joiner or a sign of their own between them. -/
  | consonant (joined : Bool)
  | signConsonant
  /-- Of two Lisu tones. -/
  | secondTone
  /-- Of two Old Turkic letters. -/
  | orkhonI (joined : Bool)
  /-- Of a Khmer coeng and a letter. -/
  | coengLetter
  deriving DecidableEq, Repr

def LigatureEnd.join : LigatureEnd → LigatureEnd
  | lamed _ => lamed true
  | ya _ => ya true
  | consonant _ => consonant true
  | orkhonI _ => orkhonI true
  | l => l

/-- What a text begins with, as far as characters before it can join. -/
inductive Front
  | plain
  | alef
  | ligature (l : LigatureEnd)
  /-- A Kirat Rai vowel, which can be written as two or three. -/
  | vowelE
  | vowelAi
  | wideSelector
  | modifier
  | indicator
  | indicators
  | emoji
  /-- A joiner and an emoji; what stands before them is named first. -/
  | joined
  | keycapJoined
  | indicatorJoined
  | flagsJoined
  | flagsIndicatorJoined
  | tagsJoined (letters digits : Nat)
  deriving DecidableEq, Repr

namespace Front

/-- What a character begins a text with. -/
def ofChar (c : Char) : Front :=
  if alefs.has c then alef
  else if c = '\u05dc' then ligature (.lamed false)
  else if c = '\u1a10' then ligature (.ya false)
  else if tifinaghConsonants.has c then ligature (.consonant false)
  else if lisuSecondTones.has c then ligature .secondTone
  else if Ranges.has [(0x10c03, 0x10c03)] c then ligature (.orkhonI false)
  else if coengLetters.has c then ligature .coengLetter
  else if Ranges.has [(0x16d67, 0x16d67)] c then vowelE
  else if Ranges.has [(0x16d68, 0x16d68)] c then vowelAi
  else if c = '\ufe01' then wideSelector
  else if emojiModifiers.has c then modifier
  else if Text.indicators.has c then indicator
  else if emojiByDefault.has c then emoji
  else plain

/-- Whether the style that is asked for before it leaves it what it is. -/
def isLetter : Front → Bool
  | alef => true
  | ligature _ => true
  | _ => false

/-- Whether it is an emoji that goes on with what a selector has styled. -/
def joinsStyled : Front → Bool
  | joined => true
  | keycapJoined => true
  | _ => false

/-- What becomes of the end of a ligature before a character that is no mark within it, and the
columns that the character adds. -/
def beforeEnd (c : Char) : LigatureEnd → Option (Int × Front)
  | .lamed true => if c = '\u05d0' then some (0, plain) else none
  | .ya true => if c = '\u1a17' then some (0, ligature .vowelYa) else none
  | .vowelYa => if c = '\u1a15' then some (0, plain) else none
  | .consonant behindJoiner =>
    if c = '\u2d7f' then some (1, ligature .signConsonant)
    else if behindJoiner && tifinaghConsonants.has c then some (0, plain)
    else none
  | .signConsonant => if tifinaghConsonants.has c then some (-1, plain) else none
  | .secondTone => if lisuFirstTones.has c then some (0, plain) else none
  | .orkhonI true => if Ranges.has [(0x10c32, 0x10c32)] c then some (0, plain) else none
  | .coengLetter => if c = '\u17d2' then some (-1, plain) else none
  | _ => none

/-- The same for an emoji that a joiner stands before. -/
def beforeJoined (c : Char) : Option (Int × Front) :=
  if c = '\u20e3' then some (0, keycapJoined)
  else if Text.indicators.has c then some (1, indicatorJoined)
  else if emojiModifiers.has c then some (0, modifier)
  else if tagEnd.has c then some (0, tagsJoined 0 0)
  else if emojiByDefault.has c then some (0, emoji)
  else none

/-- The same for the tags of a flag. -/
def beforeTags (c : Char) (letters digits : Nat) : Option (Int × Front) :=
  if tagLetters.has c then
    if digits = 0 ∧ letters < 6 then some (0, tagsJoined (letters + 1) 0) else none
  else if tagDigits.has c then
    if digits < 3 ∧ (letters ≤ 4 ∨ 0 < digits) then some (0, tagsJoined letters (digits + 1))
    else none
  else if blackFlag.has c ∧ (digits = 3 ∨ (digits = 0 ∧ 3 ≤ letters)) then some (0, emoji)
  else none

/-- What a text begins with if it is put behind a character that joins it, and the columns that
the character adds. -/
def behind (front : Front) (c : Char) : Option (Int × Front) :=
  match front with
  | plain => none
  | alef =>
    if lams.has c then some (0, plain)
    else if columns c = 0 ∧ !parting.has c then some (0, alef)
    else none
  | ligature l =>
    if c = joiner then some (0, ligature l.join)
    else if ligatureMarks.has c then some (0, ligature l)
    else beforeEnd c l
  | vowelE =>
    if c.toNat = 0x16d63 ∨ c.toNat = 0x16d69 then some (0, plain)
    else if c.toNat = 0x16d67 then some (0, vowelAi)
    else none
  | vowelAi => if c.toNat = 0x16d63 then some (0, plain) else none
  | wideSelector => if quotationMarks.has c then some (2, plain) else none
  | modifier =>
    if emojiModifierBase.has c then some (0, emoji)
    else if c = joiner then some (0, joined)
    else none
  | indicator => if Text.indicators.has c then some (1, indicators) else none
  | indicators =>
    if Text.indicators.has c then some (1, indicators)
    else if c = joiner then some (0, joined)
    else none
  | emoji => if c = joiner then some (0, joined) else none
  | joined => beforeJoined c
  | keycapJoined => none
  | indicatorJoined => if Text.indicators.has c then some (-1, flagsJoined) else none
  | flagsJoined =>
    if Text.indicators.has c then some (3, flagsIndicatorJoined)
    else if c = joiner then some (0, joined)
    else none
  | flagsIndicatorJoined =>
    if Text.indicators.has c then some (-1, flagsJoined)
    else if c = joiner then some (0, joined)
    else none
  | tagsJoined letters digits => beforeTags c letters digits

end Front

/-- The styles that a selector can give to the character before it. -/
inductive Style
  | text | emoji
  deriving DecidableEq, Repr

/-- A text that has been measured: its columns, what it begins with, and the style that its first
character asks for. -/
structure Measure where
  total : Int
  front : Front
  style : Option Style
  deriving DecidableEq, Repr

namespace Measure

def empty : Measure := ⟨0, .plain, none⟩

/-- The text without regard to the style it asks for. -/
def unstyled (m : Measure) : Measure :=
  { m with front := if m.front.isLetter ∨ m.style = none then m.front else .plain, style := none }

/-- The text with a selector before it. -/
def select (m : Measure) (style : Style) : Measure :=
  let m := m.unstyled
  let kept := m.front.isLetter ∨ (style = .emoji ∧ m.front.joinsStyled)
  { m with front := if kept then m.front else .plain, style := some style }

/-- The text with a character before it, where no style is asked for. -/
def putPlain (m : Measure) (c : Char) : Measure :=
  match m.front.behind c with
  | some (added, front) => ⟨m.total + added, front, none⟩
  | none => ⟨m.total + columns c, .ofChar c, none⟩

def put (c : Char) (m : Measure) : Measure :=
  if m.style = some .emoji ∧ emojiStyled.has c then
    ⟨m.total + (if m.front.joinsStyled then 0 else 2), .emoji, none⟩
  else if c ≤ '\u00a0' then ⟨m.total + 1, .plain, none⟩
  else if c = '\ufe0f' then m.select .emoji
  else if c = '\ufe0e' then m.select .text
  else if m.style = some .text ∧ textStyled c then ⟨m.total + 1, .plain, none⟩
  else m.unstyled.putPlain c

end Measure

/-- The columns of a text of one line. -/
def width (cs : List Char) : Nat := (cs.foldr Measure.put .empty).total.toNat

end DocFilter.Text
