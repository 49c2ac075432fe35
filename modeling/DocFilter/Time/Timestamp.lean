import DocFilter.Time.Date

/-!
Points in time. A timestamp is a local time with its offset from UTC; two timestamps denote the
same instant when they read the same in UTC.
-/

namespace DocFilter

/-- What a calendar and a clock show. The second 60 is a leap second. -/
structure Civil where
  date : Date
  hour : Nat
  minute : Nat
  second : Nat
  nano : Nat
  deriving DecidableEq, Repr

namespace Civil

def Valid (c : Civil) : Prop :=
  c.date.Valid ∧ c.hour ≤ 23 ∧ c.minute ≤ 59 ∧ c.second ≤ 60 ∧ c.nano < 1000000000

instance (c : Civil) : Decidable c.Valid := inferInstanceAs (Decidable (_ ∧ _))

end Civil

structure Timestamp where
  civil : Civil
  /-- Whole minutes east of UTC. An offset that is written has no seconds, and those of any other
  offset are left out. -/
  offset : Int
  deriving DecidableEq, Repr

namespace Timestamp

/-- A time that exists, at an offset of less than a day. -/
def Valid (t : Timestamp) : Prop := t.civil.Valid ∧ t.offset.natAbs < 1440

instance (t : Timestamp) : Decidable t.Valid := inferInstanceAs (Decidable (_ ∧ _))

/-- The minute of the local day, counted from its midnight, at which UTC stands. -/
def utcMinute (t : Timestamp) : Int := 60 * t.civil.hour + t.civil.minute - t.offset

/-- The same time in UTC. An offset of less than a day leads at most to a neighbouring day. -/
def utc (t : Timestamp) : Civil :=
  let date := if t.utcMinute < 0 then t.civil.date.prev
    else if t.utcMinute < 1440 then t.civil.date
    else t.civil.date.next
  let minute := (t.utcMinute % 1440).toNat
  ⟨date, minute / 60, minute % 60, t.civil.second, t.civil.nano⟩

/-- Denotes the same instant. -/
def same (s t : Timestamp) : Bool := s.utc = t.utc

end Timestamp

end DocFilter
