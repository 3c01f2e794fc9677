/-!
# Dates of dumps

A dump says when it was made, in the form of mail headers and in universal
time. The moment is given in seconds since the start of 1970.

Years are counted from March, so that a leap day is the last day of its year
and the months before it have fixed lengths: five months have 153 days, and
four hundred years have 146097.
-/

namespace SchemaDdl

structure Date where
  year : Int
  month : Nat
  day : Nat
deriving DecidableEq

namespace Date

/-- The day in a year that begins in March, as month from March and day of the month. -/
def monthAndDay (dayOfYear : Nat) : Nat × Nat :=
  let month := (5 * dayOfYear + 2) / 153
  (month, dayOfYear - (153 * month + 2) / 5 + 1)

/-- The year from March and the day in it, of a day among the 146097 days of four hundred years. -/
def yearAndDay (day : Nat) : Nat × Nat :=
  let year := (day - day / 1460 + day / 36524 - day / 146096) / 365
  (year, day - (365 * year + year / 4 - year / 100))

/-- The date a number of days after the start of 1970. -/
def ofDays (days : Int) : Date :=
  let fromMarch := days + 719468
  let (year, dayOfYear) := yearAndDay (fromMarch % 146097).toNat
  let (month, day) := monthAndDay dayOfYear
  { year := fromMarch / 146097 * 400 + year + if month < 10 then 0 else 1
    month := if month < 10 then month + 3 else month - 9
    day }

def weekdays : List String := ["Sun", "Mon", "Tue", "Wed", "Thu", "Fri", "Sat"]

def months : List String :=
  ["Jan", "Feb", "Mar", "Apr", "May", "Jun", "Jul", "Aug", "Sep", "Oct", "Nov", "Dec"]

/-- The day of the week; 1970 began on a Thursday. -/
def weekday (days : Int) : String := weekdays.getD ((days + 4) % 7).toNat ""

def padded (width n : Nat) : String :=
  .ofList ((Nat.toDigits 10 n).leftpad width '0')

/-- The text of a moment, such as `Thu, 1 Jan 1970 00:00:00 +0000`. -/
def mailText (seconds : Int) : String :=
  let days := seconds / 86400
  let second := (seconds % 86400).toNat
  let d := ofDays days
  weekday days ++ ", " ++ toString d.day ++ " " ++ months.getD (d.month - 1) "" ++ " " ++
    padded 4 d.year.toNat ++ " " ++ padded 2 (second / 3600) ++ ":" ++
    padded 2 (second / 60 % 60) ++ ":" ++ padded 2 (second % 60) ++ " +0000"

end Date

end SchemaDdl
