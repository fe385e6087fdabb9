import ChargePoint.Text.Digits
import ChargePoint.Text.Diagnostic
import ChargePoint.Time.Calendar

/-!
# Instants

Points in time to the nanosecond, counted in seconds from the beginning of 1970 in universal time.
A leap second has no number of its own: it belongs to the last second of its minute, whose
nanoseconds then run past a thousand million.

## Main definitions

* `Instant`: a second and the nanoseconds in it.
* `Instant.ofUnix?`: the instant of two numbers, where there is one.
* `Instant.stamp`: an instant as it is written, with a given zone.
-/

namespace ChargePoint

/-- **An instant**: a second since the beginning of 1970 and nanoseconds in it, within the years
from `-262143` to `262142`.

Nanoseconds past a thousand million are a leap second, and only after the last second of a minute is
there one.  A clock that counts them after any other second, as a program may make one by hand, is
left out: no text is read as such an instant, and what it would be written as is read as another. -/
structure Instant where
  second : Int
  nano : Nat
  inRange : -8334601228800 ≤ second ∧ second ≤ 8210266876799
  subsecond : nano < 10 ^ (9 : Nat) ∨ (second % 60 = 59 ∧ nano < 2 * 10 ^ (9 : Nat))
  deriving DecidableEq

namespace Instant

/-- The instant of a second and nanoseconds in it, where there is one. -/
def ofUnix? (second : Int) (nano : Nat) : Option Instant :=
  if h : (-8334601228800 ≤ second ∧ second ≤ 8210266876799) ∧
      (nano < 10 ^ (9 : Nat) ∨ (second % 60 = 59 ∧ nano < 2 * 10 ^ (9 : Nat))) then
    some ⟨second, nano, h.1, h.2⟩
  else none

/-! ### How an instant is written -/

/-- A year: four digits from `0` to `9999`, else a sign and at least four digits. -/
def yearText (year : Int) : List Char :=
  let size := year.natAbs
  let digits :=
    if size < 10 ^ (4 : Nat) then fixedDigits 4 size
    else if size < 10 ^ (5 : Nat) then fixedDigits 5 size
    else fixedDigits 6 size
  if year < 0 then '-' :: digits
  else if year < 10 ^ (4 : Nat) then digits
  else '+' :: digits

/-- A fraction of a second: as many of three, six or nine digits as lose nothing, none for zero. -/
def fractionText (nano : Nat) : List Char :=
  if nano = 0 then []
  else if nano % 10 ^ (6 : Nat) = 0 then '.' :: fixedDigits 3 (nano / 10 ^ (6 : Nat))
  else if nano % 10 ^ (3 : Nat) = 0 then '.' :: fixedDigits 6 (nano / 10 ^ (3 : Nat))
  else '.' :: fixedDigits 9 nano

/-- The time of day: hours, minutes and seconds, a leap second as the sixtieth. -/
def clockText (secondOfDay nano : Nat) : List Char :=
  let leap := 10 ^ (9 : Nat) ≤ nano
  let second := secondOfDay % 60 + if leap then 1 else 0
  fixedDigits 2 (secondOfDay / 3600) ++ ':' :: fixedDigits 2 (secondOfDay / 60 % 60) ++
    ':' :: fixedDigits 2 second ++ fractionText (if leap then nano - 10 ^ (9 : Nat) else nano)

/-- The date in universal time. -/
def dateText (date : Date) : List Char :=
  yearText date.year ++ '-' :: fixedDigits 2 date.month ++ '-' :: fixedDigits 2 date.day

/-- **An instant in writing**: the date, `T`, the time of day in universal time, and the zone. -/
def stamp (zone : String) (t : Instant) : String :=
  String.ofList (dateText (Date.ofDayNumber (t.second / 86400)) ++
    'T' :: clockText (t.second % 86400).toNat t.nano ++ zone.toList)

/-- An instant in a payload, and to someone looking for a fault. -/
def wireText (t : Instant) : String := t.stamp "Z"

/-- An instant in the representation of a message. -/
def plainText (t : Instant) : String := t.stamp "+00:00"

instance : Diagnostic Instant := ⟨wireText⟩

end Instant

end ChargePoint
