import EntitySearch.Json.Basic

/-!
# Reading JSON

A reader for JSON texts. Members of objects are kept in the order of the text, repeated names
included. Nesting deeper than 127 levels is refused, and so are numbers beyond the range of doubles.
Every reader takes a value off the front of a text and returns what follows it.
-/

namespace EntitySearch.Json

/-- Whether a character is white space between the tokens of a JSON text. -/
def isGap (c : Char) : Bool := c = ' ' || c = '\n' || c = '\t' || c = '\r'

/-- The text behind leading white space. -/
def skipGap (s : List Char) : List Char := s.dropWhile isGap

/-! ### Strings -/

/-- The number that four hexadecimal digits stand for. -/
def hexFour? (a b c d : Char) : Option Nat := do
  let a ← Number.hexValue? a
  let b ← Number.hexValue? b
  let c ← Number.hexValue? c
  let d ← Number.hexValue? d
  some (((a.val * 16 + b) * 16 + c) * 16 + d)

/-- The character that an escape letter stands for. -/
def escapeOf? (c : Char) : Option Char :=
  if c = '\x22' || c = '\\' || c = '/' then some c
  else if c = 'b' then some '\x08'
  else if c = 'f' then some '\x0c'
  else if c = 'n' then some '\n'
  else if c = 'r' then some '\r'
  else if c = 't' then some '\t'
  else none

/-- Reads a string behind its opening quotation mark; `read` holds the characters read so far, the
last one first. A pair of escaped surrogates is one character and a lone one is refused. -/
def readString? (read : List Char) : List Char → Option (String × List Char)
  | [] => none
  | '\\' :: 'u' :: a :: b :: c :: d :: '\\' :: 'u' :: e :: f :: g :: h :: rest =>
    match hexFour? a b c d with
    | none => none
    | some high =>
      if 0xD800 ≤ high && high < 0xDC00 then
        match hexFour? e f g h with
        | some low =>
          if 0xDC00 ≤ low && low < 0xE000 then
            let c := Char.ofNat (0x10000 + (high - 0xD800) * 1024 + (low - 0xDC00))
            readString? (c :: read) rest
          else none
        | none => none
      else if 0xDC00 ≤ high && high < 0xE000 then none
      else readString? (Char.ofNat high :: read) ('\\' :: 'u' :: e :: f :: g :: h :: rest)
  | '\\' :: 'u' :: a :: b :: c :: d :: rest =>
    match hexFour? a b c d with
    | some point =>
      if 0xD800 ≤ point && point < 0xE000 then none
      else readString? (Char.ofNat point :: read) rest
    | none => none
  | '\\' :: c :: rest =>
    match escapeOf? c with
    | some meant => readString? (meant :: read) rest
    | none => none
  | c :: rest =>
    if c = '\x22' then some (String.ofList read.reverse, rest)
    else if c.toNat < 32 || c = '\\' then none
    else readString? (c :: read) rest

/-! ### Numbers -/

/-- Drops digits from the front of a text and counts them. -/
def dropDigits (s : List Char) : Nat × List Char :=
  ((s.takeWhile Char.isDigit).length, s.dropWhile Char.isDigit)

/-- Takes digits into an unsigned 64-bit number as long as they fit, and counts them. The first
digit that does not fit stays in front of the rest. -/
def takeDigits64 : Nat → Nat → List Char → Nat × Nat × List Char
  | number, count, [] => (number, count, [])
  | number, count, c :: rest =>
    if c.isDigit then
      let next := 10 * number + Number.digitValue c
      if next ≤ Number.maxNat64 then takeDigits64 next (count + 1) rest
      else (number, count, c :: rest)
    else (number, count, c :: rest)

/-- The greatest power of ten that is multiplied in one step. -/
def maxPower : Nat := 308

/-- **The double for a number**: the digits as a double, multiplied with a power of ten or divided
by one, each operation rounded. Powers beyond `10 ^ 308` are divided out in several steps. A number
past the range of doubles is refused. -/
def scaledDouble? : Nat → Bool → Nat → Int → Option Double
  | 0, _, _, _ => none
  | fuel + 1, negative, units, exponent =>
    let power (n : Nat) : Nat := Double.roundUnits (Nat.pow 10 n * Double.one) 1
    if exponent.natAbs ≤ maxPower then
      let scaled :=
        if 0 ≤ exponent then Double.mulUnits units (power exponent.natAbs)
        else Double.divUnits units (power exponent.natAbs)
      if scaled < Double.limit then some (.finite negative scaled) else none
    else if units = 0 then some (.finite negative 0)
    else if 0 ≤ exponent then none
    else scaledDouble? fuel negative (Double.divUnits units (power maxPower)) (exponent + maxPower)

/-- The double for digits and an exponent. Three steps leave nothing of a 64-bit number. -/
def doubleOf? (negative : Bool) (digits : Nat) (exponent : Int) : Option Double :=
  scaledDouble? 8 negative (Double.roundUnits (digits * Double.one) 1) exponent

/-- Reads the exponent of a number behind its letter and completes the number. -/
def readExponent? (negative : Bool) (digits : Nat) (exponent : Int) (s : List Char) :
    Option (Json × List Char) :=
  let (below, s) :=
    match s with
    | '+' :: rest => (false, rest)
    | '-' :: rest => (true, rest)
    | _ => (false, s)
  let power := s.takeWhile Char.isDigit
  let rest := s.dropWhile Char.isDigit
  if power.isEmpty then none
  else
    let n := Number.ofDigits 0 power
    if 2147483647 < n then
      if digits ≠ 0 && !below then none else some (.real (.finite negative 0), rest)
    else
      (doubleOf? negative digits (if below then exponent - n else exponent + n)).map fun x =>
        (.real x, rest)

/-- Completes a number that is a double: with an exponent, or as it stands. -/
def readDouble? (negative : Bool) (digits : Nat) (exponent : Int) (s : List Char) :
    Option (Json × List Char) :=
  match s with
  | 'e' :: rest => readExponent? negative digits exponent rest
  | 'E' :: rest => readExponent? negative digits exponent rest
  | _ => (doubleOf? negative digits exponent).map fun x => (.real x, s)

/-- Reads the places of a number behind its point. Places that do not fit into 64 bits any more are
dropped. -/
def readPlaces? (negative : Bool) (digits : Nat) (exponent : Int) (s : List Char) :
    Option (Json × List Char) :=
  let (digits, count, rest) := takeDigits64 digits 0 s
  let (dropped, rest) := dropDigits rest
  if count = 0 && dropped = 0 then none else readDouble? negative digits (exponent - count) rest

/-- Reads a number behind its sign. An integer in the 64-bit range, signed when it is negative,
stays an integer; negative zero is a double. -/
def readNumber? (negative : Bool) (s : List Char) : Option (Json × List Char) :=
  let (digits, count, rest) := takeDigits64 0 0 s
  let (dropped, rest) := dropDigits rest
  if count = 0 then none
  else if s.head? = some '0' && 1 < count then none
  else
    match rest with
    | '.' :: places => readPlaces? negative digits dropped places
    | 'e' :: _ | 'E' :: _ => readDouble? negative digits dropped rest
    | _ =>
      if dropped = 0 && !negative then some (.int digits, rest)
      else if dropped = 0 && digits ≠ 0 && digits ≤ 9223372036854775808 then
        some (.int (-(digits : Int)), rest)
      else readDouble? negative digits dropped rest

/-! ### Values -/

/-- A reader of one value. -/
abbrev ValueReader := List Char → Option (Json × List Char)

/-- Reads the items of an array behind its first one, up to the closing bracket; `read` holds the
items read so far, the last one first. -/
def readItems? (value : ValueReader) : Nat → List Json → ValueReader
  | 0, _, _ => none
  | fuel + 1, read, s =>
    match skipGap s with
    | ']' :: rest => some (.array read.reverse, rest)
    | ',' :: rest =>
      match value (skipGap rest) with
      | some (item, rest) => readItems? value fuel (item :: read) rest
      | none => none
    | _ => none

/-- Reads a name, a colon and a value. -/
def readMember? (value : ValueReader) (s : List Char) : Option ((String × Json) × List Char) :=
  match skipGap s with
  | c :: rest =>
    if c = '\x22' then
      match readString? [] rest with
      | some (name, rest) =>
        match skipGap rest with
        | ':' :: rest => (value (skipGap rest)).map fun (item, rest) => ((name, item), rest)
        | _ => none
      | none => none
    else none
  | [] => none

/-- Reads the members of an object behind its first one, up to the closing brace. -/
def readMembers? (value : ValueReader) : Nat → List (String × Json) → ValueReader
  | 0, _, _ => none
  | fuel + 1, read, s =>
    match skipGap s with
    | c :: rest =>
      if c = '\x7d' then some (.object read.reverse, rest)
      else if c = ',' then
        match readMember? value rest with
        | some (member, rest) => readMembers? value fuel (member :: read) rest
        | none => none
      else none
    | [] => none

/-- Reads one of the words of JSON. -/
def readWord? : ValueReader
  | 'n' :: 'u' :: 'l' :: 'l' :: rest => some (.null, rest)
  | 't' :: 'r' :: 'u' :: 'e' :: rest => some (.bool true, rest)
  | 'f' :: 'a' :: 'l' :: 's' :: 'e' :: rest => some (.bool false, rest)
  | _ => none

/-- Reads a value with at most `levels` levels of nesting, from a text without white space in front
and of at most `fuel` characters. -/
def readValue? (fuel : Nat) : Nat → ValueReader
  | 0, _ => none
  | levels + 1, s =>
    match s with
    | [] => none
    | c :: rest =>
      if c = '\x22' then (readString? [] rest).map fun (value, rest) => (.text value, rest)
      else if c = '-' then readNumber? true rest
      else if c.isDigit then readNumber? false s
      else if c = '[' then
        match skipGap rest with
        | ']' :: rest => if levels = 0 then none else some (.array [], rest)
        | inner =>
          match readValue? fuel levels inner with
          | some (item, rest) => readItems? (readValue? fuel levels) fuel [item] rest
          | none => none
      else if c = '\x7b' then
        match skipGap rest with
        | d :: rest' =>
          if d = '\x7d' then if levels = 0 then none else some (.object [], rest')
          else
            match readMember? (readValue? fuel levels) (d :: rest') with
            | some (member, rest) => readMembers? (readValue? fuel levels) fuel [member] rest
            | none => none
        | [] => none
      else readWord? s

/-- The levels of nesting that a text may have, counting its innermost value. -/
def maxLevels : Nat := 128

/-- **Reading a JSON text.** -/
def read? (s : String) : Option Json :=
  let chars := s.toList
  match readValue? chars.length maxLevels (skipGap chars) with
  | some (value, rest) => if (skipGap rest).isEmpty then some value else none
  | none => none

end EntitySearch.Json
