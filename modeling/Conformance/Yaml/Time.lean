import Conformance.Json.Reader
import Conformance.Yaml.Cursor

/-! # Dates and times in YAML

* `TimeText`: the parts of a written date or time.
* `TimeText.read?`: the parts, if the text looks like a time.
* `TimeText.scalar`: the value, if there is such a time.
-/

namespace Conformance.Yaml
set_option autoImplicit false

inductive ZoneText where
  | universal
  | away (west : Bool) (hours minutes : List Char)

structure ClockText where
  hour : List Char
  minute : List Char
  second : List Char
  fraction : List Char
  zone : Option ZoneText

structure TimeText where
  year : List Char
  month : List Char
  day : List Char
  clock : Option ClockText

namespace TimeText

/-! ## Reading -/

/-- At least `least` and at most `most` digits. -/
def digits? (least most : Nat) (cs : List Char) : Option (List Char × List Char) :=
  let found := (cs.take most).takeWhile Char.isDigit
  if least ≤ found.length then some (found, cs.drop found.length) else none

def isBlank (c : Char) : Bool := c == ' ' || c == '\t'

/-- Hours away from universal time, and perhaps minutes. -/
def away? (west : Bool) (cs : List Char) : Option ZoneText := do
  let (hours, r) ← digits? 1 2 cs
  match r with
  | [] => some (.away west hours [])
  | ':' :: r =>
    let (minutes, r) ← digits? 2 2 r
    if r.isEmpty then some (.away west hours minutes) else none
  | _ => none

def zone? (cs : List Char) : Option ZoneText :=
  match cs with
  | ['Z'] => some .universal
  | '+' :: r => away? false r
  | '-' :: r => away? true r
  | _ => none

def clock? (cs : List Char) : Option ClockText := do
  let (hour, r) ← digits? 1 2 cs
  let r ← Text.after? [':'] r
  let (minute, r) ← digits? 2 2 r
  let r ← Text.after? [':'] r
  let (second, r) ← digits? 2 2 r
  let (fraction, r) := match r with
    | '.' :: r => (r.takeWhile Char.isDigit, r.dropWhile Char.isDigit)
    | _ => ([], r)
  if r.isEmpty then some ⟨hour, minute, second, fraction, none⟩
  else (zone? (r.dropWhile isBlank)).map fun z => ⟨hour, minute, second, fraction, some z⟩

/-- The parts of a time. Month and day of a date that stands alone may have one digit only if
`lenient` is set. -/
def read? (lenient : Bool) (cs : List Char) : Option TimeText := do
  let (year, r) ← digits? 4 4 cs
  let r ← Text.after? ['-'] r
  let (month, r) ← digits? 1 2 r
  let r ← Text.after? ['-'] r
  let (day, r) ← digits? 1 2 r
  match r with
  | [] =>
    if lenient || (month.length = 2 && day.length = 2) then some ⟨year, month, day, none⟩ else none
  | c :: rest =>
    if c == 'T' || c == 't' then (clock? rest).map fun t => ⟨year, month, day, some t⟩
    else if isBlank c then (clock? (rest.dropWhile isBlank)).map fun t => ⟨year, month, day, some t⟩
    else none

/-! ## Values -/

def isLeap (year : Nat) : Bool := year % 4 = 0 && (year % 100 ≠ 0 || year % 400 = 0)

def daysIn (year month : Nat) : Nat :=
  if month = 2 then (if isLeap year then 29 else 28)
  else if [4, 6, 9, 11].contains month then 30 else 31

def checkDate (year month day : Nat) : Except Fault PUnit :=
  if year = 0 then .error (.noSuchTime (.year year))
  else if month = 0 || 12 < month then .error (.noSuchTime .month)
  else if day = 0 || daysIn year month < day then .error (.noSuchTime .day)
  else .ok ⟨⟩

def checkClock (hour minute second : Nat) : Except Fault PUnit :=
  if 23 < hour then .error (.noSuchTime .hour)
  else if 59 < minute then .error (.noSuchTime .minute)
  else if 59 < second then .error (.noSuchTime .second)
  else .ok ⟨⟩

/-- The distance from universal time in minutes, less than a day. -/
def zoneMinutes : ZoneText → Except Fault Int
  | .universal => .ok 0
  | .away west hours minutes =>
    let away : Int := Json.naturalOf hours * 60 + Json.naturalOf minutes
    let signed := if west then -away else away
    if away < 1440 then .ok signed else .error (.noSuchTime (.zone signed))

/-- Fractions of a second beyond microseconds are cut off. -/
def scalar (t : TimeText) : Except Fault Scalar :=
  let n := Json.naturalOf
  let (year, month, day) := (n t.year, n t.month, n t.day)
  match t.clock with
  | none => do
    checkDate year month day
    pure (.date year month day)
  | some c => do
    let zone ← match c.zone with
      | none => pure none
      | some z => some <$> zoneMinutes z
    let (hour, minute, second) := (n c.hour, n c.minute, n c.second)
    checkDate year month day
    checkClock hour minute second
    let microsecond := n ((c.fraction ++ List.replicate 6 '0').take 6)
    pure (.moment ⟨year, month, day, hour, minute, second, microsecond, zone⟩)

end TimeText

end Conformance.Yaml
