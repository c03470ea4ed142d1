import ContentQuery.Calendar
import ContentQuery.Text

/-!
# ContentQuery.Timestamp

Points in time to the microsecond, in the years 1 to 9999 of universal time.
-/

namespace ContentQuery

/-- The number of microseconds in the years 1 to 9999. -/
def Timestamp.limit : Nat := 3652059 * 86400000000

/-- A point in time, counted in microseconds from the beginning of year 1. -/
structure Timestamp where
  micros : Nat
  micros_lt : micros < Timestamp.limit
  deriving DecidableEq

namespace Timestamp

/-- The point in time that lies a number of microseconds after the beginning of year 1, if it lies
in the years that timestamps cover. -/
def ofMicros? (micros : Int) : Option Timestamp :=
  if h : 0 ≤ micros ∧ micros < limit then some ⟨micros.toNat, by omega⟩ else none

/-- The calendar date. -/
def date (t : Timestamp) : Date := Date.ofDayNumber (t.micros / 86400000000)

def hour (t : Timestamp) : Nat := t.micros / 3600000000 % 24

def minute (t : Timestamp) : Nat := t.micros / 60000000 % 60

def second (t : Timestamp) : Nat := t.micros / 1000000 % 60

/-- The part of a second, in microseconds. -/
def fraction (t : Timestamp) : Nat := t.micros % 1000000

/-- The time of day as `hh:mm:ss`. -/
def clockText (t : Timestamp) : Text :=
  Text.ofNatPadded 2 t.hour ++ ":" ++ Text.ofNatPadded 2 t.minute ++ ":"
    ++ Text.ofNatPadded 2 t.second

/-- The date as `yyyy-mm-dd`, the year filled up to `width` digits. -/
def dateText (width : Nat) (t : Timestamp) : Text :=
  Text.ofNatPadded width t.date.year ++ "-" ++ Text.ofNatPadded 2 t.date.month ++ "-"
    ++ Text.ofNatPadded 2 t.date.day

/-- The part of a second after a point, in six digits; nothing for whole seconds. -/
def fractionText (t : Timestamp) : Text :=
  if t.fraction = 0 then [] else '.' :: Text.ofNatPadded 6 t.fraction

/-- The full text of a point in time, with the offset of universal time. -/
def text (t : Timestamp) : Text :=
  t.dateText 4 ++ "T" ++ t.clockText ++ t.fractionText ++ "+00:00"

/-- Date and time of day to the second, for a table; the year has only the digits it needs. -/
def brief (t : Timestamp) : Text := t.dateText 1 ++ " " ++ t.clockText

end Timestamp

end ContentQuery
