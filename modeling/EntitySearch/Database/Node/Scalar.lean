import EntitySearch.Database.Node.Quoted

/-!
# Scalars

The numbers and words of a JSON text that the engine reads. A number may carry a plus sign, may
lack the digits on one side of its point, and may be written in hexadecimal; infinity and
not-a-number have words. A hexadecimal number of more than sixteen digits has no value.
-/

namespace EntitySearch.Database

/-! ### Words -/

/-- The text behind a word in any case, if no letter or digit follows the word. -/
def afterWord? (word : String) (s : List Char) : Option (List Char) :=
  let n := word.length
  if Text.equalsIgnoringCase (s.take n) word.toList && !(s.drop n).head?.any Char.isAlphanum then
    some (s.drop n)
  else none

/-- The text behind a word in exactly this case, if no letter or digit follows the word. -/
def afterExact? (word : String) (s : List Char) : Option (List Char) :=
  if s.take word.length = word.toList then afterWord? word s else none

/-- The node of null. -/
def nullNode : Node := .scalar (.ok .null) "null".toList

/-- The node of an infinity. -/
def infiniteNode (negative : Bool) : Node :=
  .scalar (.ok (.real (.infinite negative))) (Number.signed negative "9e999".toList)

/-- The words and what they stand for. -/
def words : List ((List Char → Option (List Char)) × Node) :=
  [(afterExact? "true", .scalar (.ok (.integer 1)) "true".toList),
   (afterExact? "false", .scalar (.ok (.integer 0)) "false".toList),
   (afterExact? "null", nullNode), (afterWord? "inf", infiniteNode false),
   (afterWord? "infinity", infiniteNode false), (afterWord? "nan", nullNode),
   (afterWord? "qnan", nullNode), (afterWord? "snan", nullNode)]

/-- Reads one of the words. -/
def readWord? (s : List Char) : Option (Node × List Char) :=
  words.findSome? fun (after?, node) => (after? s).map fun rest => (node, rest)

/-! ### Numbers -/

/-- The integer that hexadecimal digits stand for in 64 bits with a sign bit. -/
def wrapped (digits : List Char) : Int :=
  let n := ofHex digits
  if n < Nat.pow 2 63 then n else n - Nat.pow 2 64

/-- The node of a hexadecimal number. -/
def hexNode (negative : Bool) (digits : List Char) : Node :=
  let significant := digits.dropWhile (· = '0')
  if 16 < significant.length then
    .scalar (.error .malformedJson) (Number.signed negative "9.0e999".toList)
  else
    let n := wrapped significant
    .scalar (.ok (.integer (if negative && n ≠ Number.minInt64 then -n else n)))
      (Number.signed negative (Number.natDigits (ofHex significant)))

/-- The node of an integer in decimal. One that has no room in 64 bits is read as a double. -/
def integerNode (negative : Bool) (digits : List Char) : Node :=
  let n : Int := Number.ofDigits 0 digits
  let signed := if negative then -n else n
  .scalar
    (.ok (if Number.isInt64 signed then .integer signed
      else .real (Numeral.toDouble ⟨negative, digits, [], 0⟩)))
    (Number.signed negative digits)

/-- Digits, or a zero where there are none. -/
def digitsOrZero (digits : List Char) : List Char := if digits.isEmpty then ['0'] else digits

/-- The node of a number with a point or an exponent, which is kept as it is written. -/
def realNode (negative pointed : Bool) (whole places exponent : List Char) : Node :=
  .scalar (.ok (.real (Numeral.toDouble ⟨negative, whole, places, Numeral.exponentOf exponent⟩)))
    (Number.signed negative
      (digitsOrZero whole ++ (if pointed then '.' :: digitsOrZero places else []) ++ exponent))

/-- Takes an exponent off the front of a text; there is none if the text goes on otherwise, and a
letter without digits is not one. -/
def takeExponent? : List Char → Option (List Char × List Char)
  | e :: rest =>
    if e = 'e' || e = 'E' then
      let (sign, rest) :=
        match rest with
        | '+' :: rest => (['+'], rest)
        | '-' :: rest => (['-'], rest)
        | _ => ([], rest)
      let (digits, rest) := Double.takeDigits rest
      if digits.isEmpty then none else some (e :: (sign ++ digits), rest)
    else some ([], e :: rest)
  | [] => some ([], [])

/-- Reads a decimal number behind its sign. -/
def readDecimal? (negative : Bool) (s : List Char) : Option (Node × List Char) :=
  let (whole, rest) := Double.takeDigits s
  let (pointed, places, rest) :=
    match rest with
    | '.' :: rest => (true, Double.takeDigits rest)
    | _ => (false, [], rest)
  if whole.isEmpty && places.isEmpty then none
  else if whole.head? = some '0' && 1 < whole.length then none
  else
    (takeExponent? rest).map fun (exponent, rest) =>
      if pointed || !exponent.isEmpty then (realNode negative pointed whole places exponent, rest)
      else (integerNode negative whole, rest)

/-- Reads a number behind its sign: hexadecimal behind `0x`, and otherwise decimal. -/
def readMagnitude? (negative : Bool) : List Char → Option (Node × List Char)
  | '0' :: x :: rest =>
    if (x = 'x' || x = 'X') && rest.head?.any isHex then
      some (hexNode negative (rest.takeWhile isHex), rest.dropWhile isHex)
    else readDecimal? negative ('0' :: x :: rest)
  | s => readDecimal? negative s

/-- Reads a signed number or infinity; the word may go on. -/
def readSigned? (negative : Bool) (s : List Char) : Option (Node × List Char) :=
  if Text.equalsIgnoringCase (s.take 8) "infinity".toList then
    some (infiniteNode negative, s.drop 8)
  else if Text.equalsIgnoringCase (s.take 3) "inf".toList then
    some (infiniteNode negative, s.drop 3)
  else readMagnitude? negative s

/-! ### Scalars -/

/-- **Reading a scalar** off the front of a text without a leading gap. -/
def readScalar? : List Char → Option (Node × List Char)
  | [] => none
  | c :: rest =>
    if c = '\x22' || c = '\'' then
      (readPieces? c [] rest).map fun (pieces, rest) => (.ofQuoted (.ofPieces pieces), rest)
    else if c = '-' then readSigned? true rest
    else if c = '+' then readSigned? false rest
    else if c.isDigit || c = '.' then readMagnitude? false (c :: rest)
    else readWord? (c :: rest)

/-- Reads the name of a member. A bare name must not be a word. -/
def readKey? : List Char → Option (Quoted × List Char)
  | [] => none
  | c :: rest =>
    if c = '\x22' || c = '\'' then
      (readPieces? c [] rest).map fun (pieces, rest) => (.ofPieces pieces, rest)
    else if (readWord? (c :: rest)).isSome then none
    else
      match readName [] (c :: rest) with
      | ([], _) => none
      | (pieces, behind) =>
        if c.isDigit then none else some (.ofPieces pieces, behind)

end EntitySearch.Database
