import SchemaDoc.Text.Basic

/-!
Contract: calendar dates, times of day, and both together with an optional distance from
universal time.
-/

namespace SchemaDoc

structure Date where
  year : Nat
  month : Nat
  day : Nat
deriving DecidableEq, Repr

structure Clock where
  hour : Nat
  minute : Nat
  second : Nat
  microsecond : Nat
deriving DecidableEq, Repr

namespace Date

/-- The year has a day more. -/
def isLeap (year : Nat) : Bool :=
  year % 4 = 0 && (year % 100 != 0 || year % 400 = 0)

def daysIn (year month : Nat) : Nat :=
  if month = 2 then (if isLeap year then 29 else 28)
  else if month = 4 || month = 6 || month = 9 || month = 11 then 30
  else 31

/-- The date exists in the years from 1 to 9999. -/
def isValid (date : Date) : Bool :=
  1 ≤ date.year && date.year ≤ 9999 && 1 ≤ date.month && date.month ≤ 12 &&
    1 ≤ date.day && date.day ≤ daysIn date.year date.month

/-- A number with zeros in front up to a width. -/
def padded (width value : Nat) : Text :=
  let digits := Text.ofNat value
  List.replicate (width - digits.length) '0' ++ digits

def render (date : Date) : Text :=
  padded 4 date.year ++ '-' :: padded 2 date.month ++ '-' :: padded 2 date.day

end Date

namespace Clock

def isValid (clock : Clock) : Bool :=
  clock.hour < 24 && clock.minute < 60 && clock.second < 60 && clock.microsecond < 1000000

/-- The time of day; a fraction of a second has six digits. -/
def render (clock : Clock) : Text :=
  Date.padded 2 clock.hour ++ ':' :: Date.padded 2 clock.minute ++ ':' ::
    Date.padded 2 clock.second ++
    if clock.microsecond = 0 then [] else '.' :: Date.padded 6 clock.microsecond

/-- The parts of the time; seconds and their fraction are left out when they are zero. -/
def parts (clock : Clock) : List Nat :=
  [clock.hour, clock.minute] ++
    if clock.microsecond != 0 then [clock.second, clock.microsecond]
    else if clock.second != 0 then [clock.second] else []

end Clock

/-- A point in time. The offset counts minutes east of universal time. -/
inductive Moment where
  | date (day : Date)
  | time (clock : Clock)
  | stamp (day : Date) (clock : Clock) (offset : Option Int)
deriving DecidableEq, Repr

namespace Moment

/-- The name of the kind of a moment. -/
def kindName : Moment → Text
  | .date _ => "date"
  | .time _ => "time"
  | .stamp _ _ _ => "datetime"

/-- An offset as signed hours and minutes. -/
def offsetText (offset : Int) : Text :=
  let size := offset.natAbs
  (if offset < 0 then '-' else '+') :: Date.padded 2 (size / 60) ++ ':' ::
    Date.padded 2 (size % 60)

def render : Moment → Text
  | .date day => day.render
  | .time clock => clock.render
  | .stamp day clock offset =>
    day.render ++ ' ' :: clock.render ++
      match offset with
      | some offset => offsetText offset
      | none => []

/-- An offset as messages quote it: whole days are split off, so that the seconds are positive. -/
def offsetQuoted (offset : Int) : Text :=
  let days := Int.fdiv offset 1440
  let seconds := Int.fmod offset 1440 * 60
  if offset = 0 then "datetime.timezone.utc"
  else
    let parts : List Text :=
      (if days = 0 then [] else ["days=" ++ Text.ofInt days]) ++
        if seconds = 0 then [] else ["seconds=" ++ Text.ofInt seconds]
    "datetime.timezone(datetime.timedelta(" ++ Text.join ", " parts ++ "))"

/-- The moment as messages quote it. -/
def quoted (moment : Moment) : Text :=
  let numbers (values : List Nat) : List Text := values.map Text.ofNat
  match moment with
  | .date day =>
    "datetime.date(" ++ Text.join ", " (numbers [day.year, day.month, day.day]) ++ ")"
  | .time clock => "datetime.time(" ++ Text.join ", " (numbers clock.parts) ++ ")"
  | .stamp day clock offset =>
    let zone : List Text := match offset with
      | some offset => ["tzinfo=" ++ offsetQuoted offset]
      | none => []
    "datetime.datetime(" ++
      Text.join ", " (numbers ([day.year, day.month, day.day] ++ clock.parts) ++ zone) ++ ")"

end Moment

end SchemaDoc
