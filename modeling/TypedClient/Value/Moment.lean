import TypedClient.Number.Shortest

/-! Calendar dates and points in time, as documents may hold them. -/

namespace TypedClient

/-- A time of day to the microsecond, with the distance from universal time in minutes if it is known. -/
structure TimeOfDay where
  hour : Nat
  minute : Nat
  second : Nat
  microsecond : Nat
  offset : Option Int
  deriving DecidableEq, Repr

/-- A calendar date, possibly with a time of day. -/
structure Moment where
  year : Nat
  month : Nat
  day : Nat
  time : Option TimeOfDay
  deriving DecidableEq, Repr

namespace Moment

/-- A number in decimal, padded with zeros to the given width. -/
def padded (width n : Nat) : String :=
  let digits := Double.digitText n
  String.ofList (List.replicate (width - digits.length) '0' ++ digits)

/-- Whether a year has a 29th of February. -/
def isLeap (year : Nat) : Bool :=
  year % 4 == 0 && (year % 100 != 0 || year % 400 == 0)

/-- The number of days of a month. -/
def daysIn (year month : Nat) : Nat :=
  if month == 2 then (if isLeap year then 29 else 28)
  else if month == 4 || month == 6 || month == 9 || month == 11 then 30
  else 31

/-- Whether the calendar has the date, and the clock the time. -/
def isValid (m : Moment) : Bool :=
  1 ≤ m.year && 1 ≤ m.month && m.month ≤ 12 && 1 ≤ m.day && m.day ≤ daysIn m.year m.month &&
    match m.time with
    | none => true
    | some t =>
      t.hour < 24 && t.minute < 60 && t.second < 60 &&
        -- A distance from universal time stays below a day.
        match t.offset with
        | none => true
        | some minutes => minutes.natAbs < 1440

/-- The date alone, year first. -/
def dateText (m : Moment) : String :=
  joinParts "-" [padded 4 m.year, padded 2 m.month, padded 2 m.day]
where
  /-- Three fields with a mark between each two of them. -/
  joinParts (mark : String) (parts : List String) : String := mark.intercalate parts

/-- The distance from universal time, signed, in hours and minutes. -/
def offsetText : Option Int → String
  | none => ""
  | some minutes =>
    (if minutes < 0 then "-" else "+")
      ++ padded 2 (minutes.natAbs / 60) ++ ":" ++ padded 2 (minutes.natAbs % 60)

/-- The time of day, with microseconds only if there are any. -/
def timeText (t : TimeOfDay) : String :=
  ":".intercalate [padded 2 t.hour, padded 2 t.minute, padded 2 t.second]
    ++ (if t.microsecond == 0 then "" else "." ++ padded 6 t.microsecond)
    ++ offsetText t.offset

/-- The international standard form, with a mark of choice between date and time. -/
def standardText (mark : String) (m : Moment) : String :=
  match m.time with
  | none => m.dateText
  | some t => m.dateText ++ mark ++ timeText t

/-- The number of days before a date, from the first day of the first year on. -/
def daysBefore (m : Moment) : Nat :=
  let years := m.year - 1
  let months := (List.range m.month).map fun month => if month == 0 then 0 else daysIn m.year month
  365 * years + years / 4 - years / 100 + years / 400 + months.foldl (· + ·) 0 + (m.day - 1)

/-- The microsecond of universal time at which a moment is, if its distance from it is known. -/
def instant? (m : Moment) : Option Int :=
  match m.time with
  | some { hour, minute, second, microsecond, offset := some offset } =>
    let minutes : Int := 60 * (24 * m.daysBefore + hour) + minute - offset
    some ((60 * minutes + second) * 1000000 + microsecond)
  | _ => none

/-- Equality of moments, which are compared in universal time where it is known. -/
def same (a b : Moment) : Bool :=
  match a.instant?, b.instant? with
  | some x, some y => x == y
  | none, none => a == b
  | _, _ => false

/-- The time zone as a constructor call. -/
def zoneCall : Int → String
  | 0 => "datetime.timezone.utc"
  | minutes =>
    -- A negative distance is written as whole days back and seconds forward.
    let days := if minutes < 0 then "days=-1, " else ""
    let seconds := (if minutes < 0 then minutes + 1440 else minutes) * 60
    "datetime.timezone(datetime.timedelta(" ++ days ++ "seconds=" ++ toString seconds ++ "))"

/-- The moment as a constructor call, which is how messages quote it. -/
def call (m : Moment) : String :=
  let date := [m.year, m.month, m.day]
  match m.time with
  | none => "datetime.date(" ++ ", ".intercalate (date.map toString) ++ ")"
  | some t =>
    -- Seconds and microseconds are left out from the end when they are zero.
    let clock :=
      if t.microsecond != 0 then [t.hour, t.minute, t.second, t.microsecond]
      else if t.second != 0 then [t.hour, t.minute, t.second]
      else [t.hour, t.minute]
    let zone := match t.offset with
      | none => []
      | some minutes => ["tzinfo=" ++ zoneCall minutes]
    "datetime.datetime(" ++ ", ".intercalate ((date ++ clock).map toString ++ zone) ++ ")"

end Moment

end TypedClient
