/-! # Dates and moments

A moment is a date with a time of day and, when it is tied to a zone, an offset from universal
time in minutes. Each has a plain text and a constructor-like one.
-/

namespace ClusterLaunch

/-- A number in decimal, filled up with zeros to `width` digits. -/
def padded (width n : Nat) : String :=
  let ds := Nat.toDigits 10 n
  String.ofList (List.replicate (width - ds.length) '0' ++ ds)

structure Date where
  year : Nat
  month : Nat
  day : Nat
  deriving DecidableEq, Repr

namespace Date

def isLeap (year : Nat) : Bool := year % 4 == 0 && (year % 100 != 0 || year % 400 == 0)

def monthLength (year month : Nat) : Nat :=
  if month = 2 then (if isLeap year then 29 else 28)
  else if month = 4 ∨ month = 6 ∨ month = 9 ∨ month = 11 then 30 else 31

/-- Whether the calendar has this day; it begins with year 1. -/
def isValid (d : Date) : Bool :=
  1 ≤ d.year && d.year ≤ 9999 && 1 ≤ d.month && d.month ≤ 12 && 1 ≤ d.day &&
    d.day ≤ monthLength d.year d.month

/-- The days from the beginning of the calendar to this one. -/
def ordinal (d : Date) : Nat :=
  let y := d.year - 1
  365 * y + y / 4 - y / 100 + y / 400 +
    ((List.range (d.month - 1)).map fun m => monthLength d.year (m + 1)).foldl (· + ·) 0 + d.day

def text (d : Date) : String :=
  padded 4 d.year ++ "-" ++ padded 2 d.month ++ "-" ++ padded 2 d.day

def shown (d : Date) : String :=
  s!"datetime.date({d.year}, {d.month}, {d.day})"

end Date

structure Moment where
  date : Date
  hour : Nat
  minute : Nat
  second : Nat
  micro : Nat
  offset : Option Int
  deriving DecidableEq, Repr

namespace Moment

/-- Whether the clock shows this time and the offset is less than a day. -/
def isValid (m : Moment) : Bool :=
  m.date.isValid && m.hour < 24 && m.minute < 60 && m.second < 60 &&
    (match m.offset with
      | some minutes => minutes.natAbs < 1440
      | none => true)

/-- Seconds from the beginning of the calendar, by universal time when the offset is known. -/
def seconds (m : Moment) : Int :=
  ((m.date.ordinal * 24 + m.hour) * 60 + m.minute : Nat) * 60 + m.second -
    m.offset.getD 0 * 60

/-- Two moments are the same when they tell the same time, either both with a zone or both
without. -/
def same (a b : Moment) : Bool :=
  a.offset.isSome == b.offset.isSome && a.seconds == b.seconds && a.micro == b.micro

def offsetText (minutes : Int) : String :=
  (if minutes < 0 then "-" else "+") ++ padded 2 (minutes.natAbs / 60) ++ ":" ++
    padded 2 (minutes.natAbs % 60)

def text (m : Moment) : String :=
  m.date.text ++ " " ++ padded 2 m.hour ++ ":" ++ padded 2 m.minute ++ ":" ++
    padded 2 m.second ++ (if m.micro = 0 then "" else "." ++ padded 6 m.micro) ++
    (match m.offset with
      | some minutes => offsetText minutes
      | none => "")

/-- A zone by its offset, in days and seconds. -/
def zoneShown (minutes : Int) : String :=
  if minutes = 0 then "datetime.timezone.utc"
  else if 0 < minutes then
    "datetime.timezone(datetime.timedelta(seconds=" ++ toString (minutes * 60) ++ "))"
  else
    "datetime.timezone(datetime.timedelta(days=-1, seconds=" ++
      toString (86400 + minutes * 60) ++ "))"

def shown (m : Moment) : String :=
  let seconds :=
    if m.micro ≠ 0 then [m.second, m.micro] else if m.second ≠ 0 then [m.second] else []
  let parts := [m.date.year, m.date.month, m.date.day, m.hour, m.minute] ++ seconds
  "datetime.datetime(" ++ ", ".intercalate (parts.map toString) ++
    (match m.offset with
      | some minutes => ", tzinfo=" ++ zoneShown minutes
      | none => "") ++ ")"

end Moment

end ClusterLaunch
