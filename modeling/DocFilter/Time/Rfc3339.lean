import DocFilter.Text.Reader
import DocFilter.Time.Timestamp

/-!
The text form of timestamps, after RFC 3339. A fraction is written with none, three, six or nine
digits, whichever is the least that loses nothing; digits after the ninth are read and dropped.
A year outside 0..9999 is written with its sign.
-/

namespace DocFilter

open Text

namespace Civil

def yearText (year : Int) : List Char :=
  if year < 0 then '-' :: padded 4 year.natAbs
  else if 9999 < year then '+' :: padded 4 year.natAbs
  else padded 4 year.natAbs

def fractionText (nano : Nat) : List Char :=
  if nano = 0 then []
  else if nano % 1000000 = 0 then '.' :: padded 3 (nano / 1000000)
  else if nano % 1000 = 0 then '.' :: padded 6 (nano / 1000)
  else '.' :: padded 9 nano

/-- Date and time without an offset. -/
def toText (c : Civil) : List Char :=
  yearText c.date.year ++ '-' :: padded 2 c.date.month ++ '-' :: padded 2 c.date.day ++
    'T' :: padded 2 c.hour ++ ':' :: padded 2 c.minute ++ ':' :: padded 2 c.second ++
    fractionText c.nano

/-- A time read as UTC. -/
def toUtcText (c : Civil) : String := String.ofList (c.toText ++ ['Z'])

end Civil

namespace Timestamp

def offsetText (offset : Int) : List Char :=
  if offset = 0 then ['Z']
  else (if offset < 0 then '-' else '+') ::
    (padded 2 (offset.natAbs / 60) ++ ':' :: padded 2 (offset.natAbs % 60))

def toText (t : Timestamp) : String := String.ofList (t.civil.toText ++ offsetText t.offset)

/-- Why a text denotes no timestamp. -/
inductive ReadError
  | malformed
  | outOfRange
  deriving DecidableEq, Repr

def ReadError.message : ReadError → String
  | malformed => "input contains invalid characters"
  | outOfRange => "input is out of range"

/-- The nanoseconds that the digits of a fraction denote. -/
def nanoseconds (fraction : List Char) : Nat :=
  let kept := fraction.take 9
  decimalValue kept * Nat.pow 10 (9 - kept.length)

def readFraction : Reader Nat :=
  (do
    Reader.char '.'
    nanoseconds <$> Reader.run1 Char.isDigit)
  <|> pure 0

def readOffset : Reader Int := do
  let sign ← Reader.one (['Z', 'z', '+', '-', '\u2212'].contains ·)
  if sign.toUpper = 'Z' then pure 0 else do
    let hours ← Reader.digits 2
    Reader.char ':'
    let minutes ← Reader.digits 2
    -- an offset of 60 minutes or more past the hour lies beyond every valid one
    let size : Int := if minutes ≤ 59 then 60 * hours + minutes else 1440
    pure (if sign = '+' then size else -size)

/-- A timestamp whose fields may be out of range. -/
def reader : Reader Timestamp := do
  let year ← Reader.digits 4
  Reader.char '-'
  let month ← Reader.digits 2
  Reader.char '-'
  let day ← Reader.digits 2
  let _ ← Reader.one (['T', 't', ' '].contains ·)
  let hour ← Reader.digits 2
  Reader.char ':'
  let minute ← Reader.digits 2
  Reader.char ':'
  let second ← Reader.digits 2
  let nano ← readFraction
  let offset ← readOffset
  pure ⟨⟨⟨year, month, day⟩, hour, minute, second, nano⟩, offset⟩

def ofText (s : String) : Except ReadError Timestamp :=
  match reader.whole? s.toList with
  | none => .error .malformed
  | some t => if t.Valid then .ok t else .error .outOfRange

end Timestamp

end DocFilter
