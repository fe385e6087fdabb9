import ChargePoint.Text.Blank
import ChargePoint.Time.Instant

/-!
# Reading instants

A written instant is a date, a time of day and an offset from universal time.  Numbers may have
fewer digits than usual, blanks may stand before each number and sign, the letter between date and
time may be a blank, and the offset may be written in several ways.

Every number is held against its range when it is read, before anything after it is looked at;
whether the date exists and whether the instant can be held is decided once all has been read and
nothing follows.

## Main definitions

* `TimeFault`: what is wrong with a written instant.
* `Moment`: the parts of a written instant.
* `Moment.read`, `Moment.toInstant`: the two stages.
* `Instant.read`: the instant of a text.
-/

namespace ChargePoint

/-- **What is wrong with a written instant.** -/
inductive TimeFault where
  | premature
  | invalid
  | outOfRange
  | trailing
  | impossible
  deriving DecidableEq, Repr

/-- The wording of a fault. -/
def TimeFault.message : TimeFault → String
  | premature => "premature end of input"
  | invalid => "input contains invalid characters"
  | outOfRange => "input is out of range"
  | trailing => "trailing input"
  | impossible => "no possible date and time matching input"

/-- **The parts of a written instant**: the date, the time of day, and the offset from universal
time in seconds. -/
structure Moment where
  date : Date
  hour : Nat
  minute : Nat
  second : Nat
  nano : Nat
  offset : Int
  deriving DecidableEq, Repr

namespace Moment

/-- What a step of reading finds: a part, and the text after it. -/
abbrev Found (α : Type) : Type := α × List Char

/-- The digits at the start of a text, at most `width` of them, and what follows; at least one is
needed. -/
def readDigits (width : Nat) : List Char → Except TimeFault (Found (List Char))
  | [] => .error .premature
  | c :: rest =>
    if c.isDigit then
      let found := ((c :: rest).take width).takeWhile Char.isDigit
      .ok (found, (c :: rest).drop found.length)
    else .error .invalid

/-- A number of one or two digits within bounds, after blanks. -/
def readBounded (least greatest : Nat) (text : List Char) : Except TimeFault (Found Nat) := do
  let (found, rest) ← readDigits 2 (trimStart text)
  let n := digitsValue 0 found
  if least ≤ n ∧ n ≤ greatest then return (n, rest) else .error .outOfRange

/-- A mark that must stand next, after blanks. -/
def readMark (c : Char) (text : List Char) : Except TimeFault (List Char) :=
  match trimStart text with
  | [] => .error .premature
  | d :: rest => if d = c then .ok rest else .error .invalid

/-- The year, after blanks: up to four digits, or a sign and any number of them. -/
def readYear (text : List Char) : Except TimeFault (Found Int) := do
  let (n, rest) ←
    match trimStart text with
    | '-' :: tail => do
      let (found, rest) ← readDigits tail.length tail
      pure (-Int.ofNat (digitsValue 0 found), rest)
    | '+' :: tail => do
      let (found, rest) ← readDigits tail.length tail
      pure (Int.ofNat (digitsValue 0 found), rest)
    | tail => do
      let (found, rest) ← readDigits 4 tail
      pure (Int.ofNat (digitsValue 0 found), rest)
  if -(2 ^ (31 : Nat)) ≤ n ∧ n < 2 ^ (31 : Nat) then return (n, rest) else .error .outOfRange

/-- A fraction of a second in nanoseconds, where there is a point: nine digits count, and those
after them are passed over. -/
def readFraction : List Char → Except TimeFault (Found Nat)
  | '.' :: tail => do
    let (found, rest) ← readDigits 9 tail
    return (digitsValue 0 found * 10 ^ (9 - found.length), rest.dropWhile Char.isDigit)
  | rest => .ok (0, rest)

/-- Two digits side by side: their values. -/
def readPair : List Char → Except TimeFault (Found (Nat × Nat))
  | [] => .error .premature
  | [c] => .error (if c.utf8Size = 1 then .premature else .invalid)
  | tens :: units :: rest =>
    if tens.isDigit && units.isDigit then .ok ((digitValue tens, digitValue units), rest)
    else .error .invalid

/-- The size of an offset in seconds: two digits of hours, colons or blanks, two of minutes. -/
def readSize (text : List Char) : Except TimeFault (Found Nat) := do
  let ((tens, units), rest) ← readPair text
  let ((tens', units'), rest) ← readPair (rest.dropWhile fun c => c = ':' || isBlank c)
  if 6 ≤ tens' then .error .outOfRange
  else return ((10 * tens + units) * 3600 + (10 * tens' + units') * 60, rest)

/-- Whether a text begins with `UTC` in any case. -/
def beginsWithUtc : List Char → Bool
  | u :: t :: c :: _ => u.toLower = 'u' && t.toLower = 't' && c.toLower = 'c'
  | _ => false

/-- The offset from universal time in seconds, after blanks. -/
def readOffset (text : List Char) : Except TimeFault (Found Int) :=
  let text := trimStart text
  if beginsWithUtc text then .ok (0, text.drop 3)
  else
    match text with
    | [] => .error .premature
    | c :: rest =>
      if c = 'Z' ∨ c = 'z' then .ok (0, rest)
      else if c = '+' then do
        let (size, rest) ← readSize rest
        return (Int.ofNat size, rest)
      else if c = '-' ∨ c = '\u2212' then do
        let (size, rest) ← readSize rest
        return (-Int.ofNat size, rest)
      else .error .invalid

/-- What stands between the date and the time of day: `T`, `t` or a blank space. -/
def readSeparator : List Char → Except TimeFault (List Char)
  | [] => .error .premature
  | c :: rest => if c = 'T' ∨ c = 't' ∨ c = ' ' then .ok rest else .error .invalid

/-- The date at the start of a text. -/
def readDate (text : List Char) : Except TimeFault (Found Date) := do
  let (year, text) ← readYear text
  let (month, text) ← readBounded 1 12 (← readMark '-' text)
  let (day, text) ← readBounded 1 31 (← readMark '-' text)
  return (⟨year, month, day⟩, text)

/-- **The parts of a written instant**, with nothing but blanks after them. -/
def read (text : String) : Except TimeFault Moment := do
  let (date, text) ← readDate text.toList
  let (hour, text) ← readBounded 0 23 (← readSeparator text)
  let (minute, text) ← readBounded 0 59 (← readMark ':' text)
  let (second, text) ← readBounded 0 60 (← readMark ':' text)
  let (nano, text) ← readFraction text
  let (offset, text) ← readOffset text
  if (trimStart text).isEmpty then return { date, hour, minute, second, nano, offset }
  else .error .trailing

/-- **The instant that the parts denote.**  The sixtieth second is a leap second, in any minute. -/
def toInstant (m : Moment) : Except TimeFault Instant :=
  let inYears : Bool := -262143 ≤ m.date.year && m.date.year ≤ 262142
  if ¬ (inYears ∧ m.date.Valid) then .error .outOfRange
  else if 86400 ≤ m.offset.natAbs then .error .outOfRange
  else
    let leap := m.second = 60
    let secondOfDay := 3600 * m.hour + 60 * m.minute + if leap then 59 else m.second
    let second := 86400 * m.date.dayNumber + secondOfDay - m.offset
    match Instant.ofUnix? second (m.nano + if leap then 10 ^ (9 : Nat) else 0) with
    | some t => .ok t
    | none => .error .impossible

end Moment

/-- **The instant of a text.** -/
def Instant.read (text : String) : Except TimeFault Instant := do
  (← Moment.read text).toInstant

end ChargePoint
