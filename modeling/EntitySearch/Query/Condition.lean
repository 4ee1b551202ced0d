import EntitySearch.Literal
import EntitySearch.Query.Level
import EntitySearch.Text.Alphanumeric
import EntitySearch.Text.Ascii

/-!
# Conditions

A condition compares an attribute with a value: `attribute IS [NOT] NULL`, `attribute [NOT] IN
(…)`, or one of the eight comparison symbols between an attribute and a value. A quoted value is
text; of the other values the words `true`, `false` and `null` and numbers are recognised, and all
else is text.
-/

namespace EntitySearch.Query

/-- **A condition.** -/
structure Condition where
  path : String
  operation : Operation
  value : Literal
  deriving BEq, Repr

/-! ### Values -/

/-- A text with the backslashes in front of quotation marks taken out. -/
def unescape : List Char → List Char
  | '\\' :: c :: rest => if isQuote c then c :: unescape rest else '\\' :: unescape (c :: rest)
  | c :: rest => c :: unescape rest
  | [] => []

/-- What stands between a quotation mark at the start of a text and the same mark at its end. -/
def quotedBy? (mark : Char) : List Char → Option (List Char)
  | [] => none
  | c :: rest => if c = mark && rest.getLast? == some mark then some rest.dropLast else none

/-- What stands between quotation marks that begin and end a text. -/
def quoted? (s : List Char) : Option (List Char) :=
  match quotedBy? '\x27' s with
  | some inner => some inner
  | none => quotedBy? '\x22' s

/-- A value without quotes: a word, an integer in the 64-bit range, a number with a point, or text.
-/
def bareValue (s : List Char) : Literal :=
  if Text.equalsIgnoringCase s "true".toList then .bool true
  else if Text.equalsIgnoringCase s "false".toList then .bool false
  else if Text.equalsIgnoringCase s "null".toList then .null
  else
    match Number.readInt? Number.minInt64 Number.maxInt64 s with
    | some n => .integer n
    | none =>
      match if s.contains '.' then Double.read? s else none with
      | some x => .float x
      | none => .text (String.ofList s)

/-- **The value of a comparison**, from the trimmed text behind the symbol. -/
def readValue (s : List Char) : Except SyntaxFault Literal :=
  if s.isEmpty then .error .missingValue
  else
    match quoted? s with
    | some inner => .ok (.text (String.ofList (unescape inner)))
    | none => .ok (bareValue s)

/-! ### Null checks and membership -/

/-- Whether a character may stand in an attribute in front of a keyword. -/
def isAttributeChar (c : Char) : Bool :=
  Text.isAlphanumeric c || c = '_' || c = '.' || c = '[' || c = ']'

/-- What follows a keyword in any case, if white space or a parenthesis follows it. -/
def afterKeyword? (keyword s : List Char) : Option (List Char) :=
  let rest := s.drop keyword.length
  if Text.equalsIgnoringCase (s.take keyword.length) keyword
      && rest.head?.any (fun c => Text.isBlank c || c = '(') then
    some rest
  else none

/-- Whether a character of a list of values belongs to no value: an unescaped quotation mark, or a
backslash that escapes. -/
def isDelimiter : Quoting → Char → Bool
  | .outside, c => isQuote c
  | .inside _, c => isQuote c || c = '\\'
  | .escaped _, _ => false

/-- Puts a character in front of the first text of a list. -/
def growFirst (c : Char) : List (List Char) → List (List Char)
  | [] => [[c]]
  | text :: rest => (c :: text) :: rest

/-- The texts between the plain commas of a list of values, without their delimiters. -/
def splitValues : Quoting → List Char → List (List Char)
  | _, [] => [[]]
  | state, c :: rest =>
    if state.isPlain c && c = ',' then [] :: splitValues (state.next c) rest
    else if isDelimiter state c then splitValues (state.next c) rest
    else growFirst c (splitValues (state.next c) rest)

/-- **The values of a list**: trimmed texts, of which empty ones do not count. -/
def readValues (s : List Char) : Except SyntaxFault (List Literal) :=
  let texts := ((splitValues .outside s).map Text.trim).filter fun text => !text.isEmpty
  if texts.isEmpty then .error .emptyMembership
  else .ok (texts.map fun text => .text (String.ofList text))

/-- The operation of a null check. -/
def nullCheck? (words : List (List Char)) : Option Operation :=
  match words.map Text.lower with
  | [is, null] => if is = "is".toList && null = "null".toList then some .isNull else none
  | [is, not, null] =>
    if is = "is".toList && not = "not".toList && null = "null".toList then some .isNotNull else none
  | _ => none

/-- The operation of a membership test and what follows its keyword. -/
def membership? (s : List Char) : Option (Operation × List Char) :=
  match afterKeyword? "not".toList s with
  | some rest => (afterKeyword? "in".toList (Text.trimStart rest)).map fun rest => (.noneOf, rest)
  | none => (afterKeyword? "in".toList s).map fun rest => (.oneOf, rest)

/-- What stands between a parenthesis at the start of a text and one at its end. -/
def inParentheses? : List Char → Option (List Char)
  | c :: rest => if c = '(' then Text.before? ')' rest else none
  | [] => none

/-- Reads a null check or a membership test; none when the condition is neither. -/
def keywordCondition? (s : List Char) : Except SyntaxFault (Option Condition) :=
  let path := s.takeWhile isAttributeChar
  let rest := s.dropWhile isAttributeChar
  if path.isEmpty || !rest.head?.any Text.isBlank then .ok none
  else
    match nullCheck? (Text.words rest) with
    | some operation => .ok (some ⟨String.ofList path, operation, .null⟩)
    | none =>
      match membership? (Text.trimStart rest) with
      | none => .ok none
      | some (operation, list) =>
        match inParentheses? (Text.trim list) with
        | none => .ok none
        | some inner =>
          match readValues inner with
          | .ok values => .ok (some ⟨String.ofList path, operation, .list values⟩)
          | .error fault => .error fault

/-! ### Comparison symbols -/

/-- **The comparison symbols**, in the order in which they are looked for. -/
def symbols : List (List Char × Operation) :=
  [(['!', '~'], .notLike), (['!', '='], .notEquals), (['>', '='], .greaterEqual),
   (['<', '='], .lessEqual), (['~'], .like), (['='], .equals), (['>'], .greater), (['<'], .less)]

/-- Whether a symbol between two characters is part of a longer symbol. -/
def isPartOfLonger (symbol : List Char) (previous following : Option Char) : Bool :=
  match symbol with
  | ['='] => previous.any fun c => c = '!' || c = '>' || c = '<'
  | ['~'] => previous == some '!'
  | ['>'] | ['<'] => following == some '='
  | _ => false

/-- Divides a text at the first plain occurrence of a symbol that is no part of a longer one. -/
def divideAt? (symbol : List Char) :
    Quoting → Option Char → List Char → Option (List Char × List Char)
  | _, _, [] => none
  | state, previous, c :: rest =>
    match if state.isPlain c then Text.after? symbol (c :: rest) else none with
    | some behind =>
      if isPartOfLonger symbol previous behind.head? then
        (divideAt? symbol (state.next c) (some c) rest).map fun (front, back) => (c :: front, back)
      else some ([], behind)
    | none =>
      (divideAt? symbol (state.next c) (some c) rest).map fun (front, back) => (c :: front, back)

/-- Divides a text at a symbol; none when the symbol stands at its start. -/
def dividedBy? (symbol s : List Char) : Option (List Char × List Char) :=
  (divideAt? symbol .outside none s).filter fun (front, _) => !front.isEmpty

/-- The operation of the first symbol in the list of symbols that divides a text, and the texts in
front of the symbol and behind it. -/
def divided? (s : List Char) : Option (Operation × List Char × List Char) :=
  symbols.findSome? fun (symbol, operation) =>
    (dividedBy? symbol s).map fun (front, back) => (operation, front, back)

/-- Reads a comparison with a symbol. -/
def symbolCondition (s : List Char) : Except SyntaxFault Condition :=
  match divided? s with
  | none => .error (.invalidCondition (String.ofList s))
  | some (operation, front, back) =>
    match readValue (Text.trim back) with
    | .ok value => .ok ⟨String.ofList (Text.trim front), operation, value⟩
    | .error fault => .error fault

/-- **Reading a condition** from a trimmed text. -/
def readCondition (s : List Char) : Except SyntaxFault Condition :=
  match keywordCondition? s with
  | .error fault => .error fault
  | .ok (some condition) => .ok condition
  | .ok none => symbolCondition s

end EntitySearch.Query
