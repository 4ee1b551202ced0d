import EntitySearch.Calendar.DateTime
import EntitySearch.Text.Blank

/-!
# Reading dates and times

A layout lists the parts of a date or time and the marks between them. White space may stand in
front of every number. A date and time may also be written with an offset from UTC in the fixed
form of RFC 3339, and is then converted to UTC.
-/

namespace EntitySearch.Calendar

/-- A part of a layout. -/
inductive LayoutPart where
  | year
  | month
  | day
  | hour
  | minute
  | second
  | fraction
  | blanks
  | mark (c : Char)

/-- The numbers that a text gives for the parts of a layout. -/
structure Moment where
  year : Int := 0
  month : Nat := 0
  day : Nat := 0
  hour : Nat := 0
  minute : Nat := 0
  second : Nat := 0
  nano : Nat := 0

/-- Takes up to `most` digits, at least one, from the start of a text. -/
def takeNumber? (most : Nat) (s : List Char) : Option (Nat × List Char) :=
  let digits := (s.take most).takeWhile Char.isDigit
  if digits.isEmpty then none else some (Number.ofDigits 0 digits, s.drop digits.length)

/-- Takes all digits, at least one, from the start of a text. -/
def takeLongNumber? (s : List Char) : Option (Nat × List Char) := takeNumber? s.length s

/-- Takes a year: up to four digits, or a sign and any number of digits. -/
def takeYear? : List Char → Option (Int × List Char)
  | '-' :: s => (takeLongNumber? s).map fun (n, rest) => (-(n : Int), rest)
  | '+' :: s => (takeLongNumber? s).map fun (n, rest) => ((n : Int), rest)
  | s => (takeNumber? 4 s).map fun (n, rest) => ((n : Int), rest)

/-- Takes a fraction of a second behind its point, in nanoseconds. Places behind the ninth are
dropped. -/
def takeNanos? (s : List Char) : Option (Nat × List Char) :=
  let digits := s.takeWhile Char.isDigit
  if digits.isEmpty then none
  else
    let kept := digits.take 9
    some (Number.ofDigits 0 kept * Nat.pow 10 (9 - kept.length), s.drop digits.length)

/-- Takes an optional fraction of a second. -/
def takeFraction? (s : List Char) : Option (Nat × List Char) :=
  match s with
  | '.' :: rest => takeNanos? rest
  | _ => some (0, s)

/-- Takes a mark. -/
def takeMark? (mark : Char) : List Char → Option (List Char)
  | c :: rest => if c = mark then some rest else none
  | [] => none

/-- Takes one part of a layout from the start of a text. -/
def LayoutPart.take? (part : LayoutPart) (m : Moment) (s : List Char) :
    Option (Moment × List Char) :=
  let number := takeNumber? 2 (Text.trimStart s)
  match part with
  | .year => (takeYear? (Text.trimStart s)).map fun (n, rest) => ({ m with year := n }, rest)
  | .month => number.map fun (n, rest) => ({ m with month := n }, rest)
  | .day => number.map fun (n, rest) => ({ m with day := n }, rest)
  | .hour => number.map fun (n, rest) => ({ m with hour := n }, rest)
  | .minute => number.map fun (n, rest) => ({ m with minute := n }, rest)
  | .second => number.map fun (n, rest) => ({ m with second := n }, rest)
  | .fraction => (takeFraction? s).map fun (n, rest) => ({ m with nano := n }, rest)
  | .blanks => some (m, Text.trimStart s)
  | .mark c => (takeMark? c s).map fun rest => (m, rest)

/-- Takes all parts of a layout; the text has to end with the last one. -/
def takeAll? : List LayoutPart → Moment → List Char → Option Moment
  | [], m, s => if s.isEmpty then some m else none
  | part :: parts, m, s => (part.take? m s).bind fun (m, rest) => takeAll? parts m rest

/-- The date of a moment, if there is such a day. -/
def Moment.date? (m : Moment) : Option Date := Date.of? m.year m.month m.day

/-- The date and time of a moment, if its parts are in range. -/
def Moment.dateTime? (m : Moment) : Option DateTime :=
  match m.date?, TimeOfDay.of? m.hour m.minute m.second m.nano with
  | some date, some time => some ⟨date, time⟩
  | _, _ => none

/-- Year, month and day with hyphens between them. -/
def dateLayout : List LayoutPart := [.year, .mark '-', .month, .mark '-', .day]

/-- Hour, minute, second and an optional fraction with colons between them. -/
def timeLayout : List LayoutPart :=
  [.hour, .mark ':', .minute, .mark ':', .second, .fraction]

/-- **The layouts of a date and time**: with a `T` or a blank between date and time, and with a time
of hour and minute only. -/
def dateTimeLayouts : List (List LayoutPart) :=
  [dateLayout ++ .mark 'T' :: timeLayout,
   dateLayout ++ .blanks :: timeLayout,
   dateLayout ++ [.mark 'T', .hour, .mark ':', .minute]]

/-- **Reading a date.** -/
def readDate? (s : List Char) : Option Date := (takeAll? dateLayout {} s).bind Moment.date?

/-! ### RFC 3339 -/

/-- Takes exactly `count` digits. -/
def takeExactly? (count : Nat) (s : List Char) : Option (Nat × List Char) :=
  let digits := s.take count
  if digits.length = count then (Number.readNat? digits).map fun n => (n, s.drop count) else none

/-- Takes an offset from UTC in minutes: `Z`, or a sign and hours and minutes with a colon. The
minus sign U+2212 counts as a hyphen. -/
def takeOffset? : List Char → Option (Int × List Char)
  | [] => none
  | c :: rest =>
    if c = 'Z' || c = 'z' then some (0, rest)
    else if c = '+' || c = '-' || c = '\u2212' then do
      let (hours, rest) ← takeExactly? 2 rest
      let rest ← takeMark? ':' rest
      let (minutes, rest) ← takeExactly? 2 rest
      if hours < 24 && minutes < 60 then
        let offset : Int := hours * 60 + minutes
        some (if c = '+' then offset else -offset, rest)
      else none
    else none

/-- Reads a date and time with an offset in the fixed form, and converts it to UTC. -/
def readOffsetDateTime? (s : List Char) : Option DateTime := do
  let (year, s) ← takeExactly? 4 s
  let s ← takeMark? '-' s
  let (month, s) ← takeExactly? 2 s
  let s ← takeMark? '-' s
  let (day, s) ← takeExactly? 2 s
  let s ←
    match s with
    | c :: rest => if c = 'T' || c = 't' || c = ' ' then some rest else none
    | [] => none
  let (hour, s) ← takeExactly? 2 s
  let s ← takeMark? ':' s
  let (minute, s) ← takeExactly? 2 s
  let s ← takeMark? ':' s
  let (second, s) ← takeExactly? 2 s
  let (nano, s) ← takeFraction? s
  let (offset, s) ← takeOffset? s
  if s.isEmpty then
    let shown ← Moment.dateTime? ⟨year, month, day, hour, minute, second, nano⟩
    shown.minusMinutes? offset
  else none

/-- **Reading a date and time**: with an offset, in one of the layouts, or as a bare date, which
stands for its first moment. -/
def readDateTime? (s : List Char) : Option DateTime :=
  match readOffsetDateTime? s with
  | some dt => some dt
  | none =>
    match dateTimeLayouts.findSome? fun layout => (takeAll? layout {} s).bind Moment.dateTime? with
    | some dt => some dt
    | none => (readDate? s).map DateTime.ofDate

end EntitySearch.Calendar
