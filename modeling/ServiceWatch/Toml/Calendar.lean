import ServiceWatch.Toml.Value

/-!
# Dates and times

A date is written as year, month and day, a time of day as hour, minute and second with an
optional fraction; a date may be followed by a time, and that by an offset from universal time.
Days are checked against the calendar; a minute may have a sixty-first second.
-/

namespace ServiceWatch.Toml

/-- The value of a decimal digit. -/
def digitValue (c : Char) : Nat := c.toNat - '0'.toNat

/-- The number at the beginning of a text that is written with exactly so many digits. -/
def fixedNumber (acc : Nat) : Nat → List Char → Option (Nat × List Char)
  | 0, cs => some (acc, cs)
  | _ + 1, [] => none
  | count + 1, c :: r =>
    if c.isDigit then fixedNumber (10 * acc + digitValue c) count r else none

/-- A character at the beginning of a text. -/
def expect (c : Char) : List Char → Option (List Char)
  | [] => none
  | d :: r => if d = c then some r else none

/-- Whether a year has a leap day. -/
def isLeap (year : Nat) : Bool := year % 4 = 0 && (year % 100 ≠ 0 || year % 400 = 0)

/-- How many days a month has. -/
def monthLength (year month : Nat) : Nat :=
  if month = 2 then if isLeap year then 29 else 28
  else if month ∈ [4, 6, 9, 11] then 30
  else 31

/-- Whether there is such a day. -/
def Date.exists (d : Date) : Bool :=
  1 ≤ d.month && d.month ≤ 12 && 1 ≤ d.day && d.day ≤ monthLength d.year d.month

/-- A date at the beginning of a text. -/
def Date.read (cs : List Char) : Option (Date × List Char) := do
  let (year, cs) ← fixedNumber 0 4 cs
  let (month, cs) ← fixedNumber 0 2 (← expect '-' cs)
  let (day, cs) ← fixedNumber 0 2 (← expect '-' cs)
  let d : Date := ⟨year, month, day⟩
  if d.exists then some (d, cs) else none

/-- The fraction of a second at the beginning of a text. -/
def readFraction : List Char → List Char × List Char
  | '.' :: c :: r =>
    if c.isDigit then (c :: r.takeWhile Char.isDigit, r.dropWhile Char.isDigit)
    else ([], '.' :: c :: r)
  | cs => ([], cs)

/-- A time of day at the beginning of a text. -/
def Time.read (cs : List Char) : Option (Time × List Char) := do
  let (hour, cs) ← fixedNumber 0 2 cs
  let (minute, cs) ← fixedNumber 0 2 (← expect ':' cs)
  let (second, cs) ← fixedNumber 0 2 (← expect ':' cs)
  let (fraction, cs) := readFraction cs
  let t : Time := ⟨hour, minute, second, fraction⟩
  if hour ≤ 23 && minute ≤ 59 && second ≤ 60 then some (t, cs) else none

/-- Hours and minutes at the beginning of a text. -/
def readHours (cs : List Char) : Option ((Nat × Nat) × List Char) := do
  let (hour, cs) ← fixedNumber 0 2 cs
  let (minute, cs) ← fixedNumber 0 2 (← expect ':' cs)
  if hour ≤ 23 && minute ≤ 59 then some ((hour, minute), cs) else none

/-- An offset at the beginning of a text, if there is one; a sign must be followed by one. -/
def Offset.read : List Char → Option (Option Offset × List Char)
  | [] => some (none, [])
  | c :: r =>
    if c = 'Z' ∨ c = 'z' then some (some universal, r)
    else if c = '+' then (readHours r).map fun ((h, m), rest) => (some (ahead h m), rest)
    else if c = '-' then (readHours r).map fun ((h, m), rest) => (some (behind h m), rest)
    else some (none, c :: r)

/-- Whether a character can stand between a date and a time. -/
def joinsTime (c : Char) : Bool := c = 'T' || c = 't' || c = ' '

/-- What may follow a date: a time and an offset, or nothing. -/
def DateTime.complete (d : Date) : List Char → Option (DateTime × List Char)
  | [] => some (date d, [])
  | c :: r =>
    if joinsTime c then
      match Time.read r with
      | some (t, rest) => (Offset.read rest).map fun (offset, rest) => (both d t offset, rest)
      | none => some (date d, c :: r)
    else some (date d, c :: r)

/-- A point in time at the beginning of a text. -/
def DateTime.read (cs : List Char) : Option (DateTime × List Char) :=
  match Date.read cs with
  | some (d, rest) => DateTime.complete d rest
  | none => (Time.read cs).map fun (t, rest) => (time t, rest)

end ServiceWatch.Toml
