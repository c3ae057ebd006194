import Conformance.Value
import Conformance.Number.Text
import Conformance.Text.Quoted

/-! # Values in messages

How a value is shown when a setting refuses it.
-/

namespace Conformance
open Text Number
set_option autoImplicit false

namespace Moment

/-- A distance in days and seconds, days negative if it leads back; parts that are zero are left
out. -/
def distanceText (minutes : Int) : String :=
  let seconds := minutes * 60
  let days := seconds.fdiv 86400
  let rest := seconds.fmod 86400
  let parts := (if days = 0 then [] else ["days=" ++ toString days]) ++
    (if rest = 0 then [] else ["seconds=" ++ toString rest])
  "datetime.timedelta(" ++ String.intercalate ", " parts ++ ")"

/-- A time zone: universal time, or a distance from it. -/
def zoneText (minutes : Int) : String :=
  if minutes = 0 then "datetime.timezone.utc"
  else "datetime.timezone(" ++ distanceText minutes ++ ")"

/-- The parts, without seconds and microseconds that are zero. -/
def literal (m : Moment) : String :=
  let clock :=
    if m.microsecond ≠ 0 then [m.second, m.microsecond]
    else if m.second ≠ 0 then [m.second] else []
  let parts := ([m.year, m.month, m.day, m.hour, m.minute] ++ clock).map toString
  let zone := m.zone.toList.map fun z => "tzinfo=" ++ zoneText z
  "datetime.datetime(" ++ String.intercalate ", " (parts ++ zone) ++ ")"

end Moment

def Scalar.literal : Scalar → String
  | null => "None"
  | bool true => "True"
  | bool false => "False"
  | int n => toString n
  | float x => floatText x
  | str s => quoted s
  | bytes b => quotedBytes b
  | date y m d =>
    "datetime.date(" ++ String.intercalate ", " [toString y, toString m, toString d] ++ ")"
  | moment m => m.literal

namespace Value

mutual

def literal : Value → String
  | .scalar s => s.literal
  | .list items => "[" ++ String.intercalate ", " (literals items) ++ "]"
  | .tuple [item] => "(" ++ literal item ++ ",)"
  | .tuple items => "(" ++ String.intercalate ", " (literals items) ++ ")"
  | .set members =>
    if members.isEmpty then "set()"
    else "\x7b" ++ String.intercalate ", " (members.map Scalar.literal) ++ "\x7d"
  | .map entries => "\x7b" ++ String.intercalate ", " (entryLiterals entries) ++ "\x7d"
  | .cycle isMap => if isMap then "\x7b...\x7d" else "[...]"

def literals : List Value → List String
  | [] => []
  | v :: rest => literal v :: literals rest

def entryLiterals : List (Scalar × Value) → List String
  | [] => []
  | (key, v) :: rest => (key.literal ++ ": " ++ literal v) :: entryLiterals rest

end

end Value

end Conformance
