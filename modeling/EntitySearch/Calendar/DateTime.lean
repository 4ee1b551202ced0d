import EntitySearch.Calendar.Date

/-!
# Dates with a time of day

A time of day has nanoseconds, and its second may be 60: a leap second is kept as it is written. The
text of a time leaves out a zero fraction and otherwise shows three, six or nine places.
-/

namespace EntitySearch

namespace Calendar

/-- Whether the parts of a time are in range; second 60 is a leap second. -/
def isTime (hour minute second nano : Nat) : Bool :=
  hour < 24 && minute < 60 && second ≤ 60 && nano < 1000000000

end Calendar

open Calendar

/-- **A time of day.** -/
structure TimeOfDay where
  hour : Nat
  minute : Nat
  second : Nat
  nano : Nat
  real : isTime hour minute second nano = true
  deriving DecidableEq

/-- **A date and a time of day**, without a zone. -/
structure DateTime where
  date : Date
  time : TimeOfDay
  deriving DecidableEq

namespace TimeOfDay

/-- The time with the given parts, if they are in range. -/
def of? (hour minute second nano : Nat) : Option TimeOfDay :=
  if h : isTime hour minute second nano = true then some ⟨hour, minute, second, nano, h⟩ else none

/-- The start of a day. -/
def midnight : TimeOfDay := ⟨0, 0, 0, 0, rfl⟩

/-- The fraction of a second with the fewest of zero, three, six or nine places that show it. -/
def fractionDigits (nano : Nat) : List Char :=
  if nano = 0 then []
  else if nano % 1000000 = 0 then '.' :: Number.padded 3 (nano / 1000000)
  else if nano % 1000 = 0 then '.' :: Number.padded 6 (nano / 1000)
  else '.' :: Number.padded 9 nano

/-- The characters of a time: hour, minute and second with colons, and the fraction. -/
def digits (t : TimeOfDay) : List Char :=
  Number.padded 2 t.hour ++ ':' :: (Number.padded 2 t.minute ++ ':' :: (Number.padded 2 t.second ++
    fractionDigits t.nano))

end TimeOfDay

namespace DateTime

/-- The first moment of a day. -/
def ofDate (d : Date) : DateTime := ⟨d, .midnight⟩

/-- The moment an offset of minutes earlier, for offsets of less than a day. Seconds and fraction
stay as they are. -/
def minusMinutes? (dt : DateTime) (offset : Int) : Option DateTime :=
  let minutes : Int := dt.time.hour * 60 + dt.time.minute - offset
  let ofDay := (minutes % 1440).toNat
  let day? :=
    if minutes < 0 then dt.date.previous?
    else if 1440 ≤ minutes then dt.date.next?
    else some dt.date
  match day?, TimeOfDay.of? (ofDay / 60) (ofDay % 60) dt.time.second dt.time.nano with
  | some date, some time => some ⟨date, time⟩
  | _, _ => none

/-- The characters of a date and time. -/
def digits (dt : DateTime) : List Char := dt.date.digits ++ 'T' :: dt.time.digits

/-- **The text of a date and time**, such as `2024-03-01T09:30:00.500`. -/
def text (dt : DateTime) : String := String.ofList dt.digits

end DateTime

end EntitySearch
