import EntitySearch.Json.Basic

/-!
# Compact JSON text

The text of a JSON value without white space. Only quotation marks, backslashes and control
characters are escaped.
-/

namespace EntitySearch.Json

/-- A character as it stands inside a JSON string. -/
def escaped (c : Char) : List Char :=
  if c = '\x22' then ['\\', '\x22']
  else if c = '\\' then ['\\', '\\']
  else if c = '\n' then ['\\', 'n']
  else if c = '\r' then ['\\', 'r']
  else if c = '\t' then ['\\', 't']
  else if c = '\x08' then ['\\', 'b']
  else if c = '\x0c' then ['\\', 'f']
  else if c.toNat < 32 then
    ['\\', 'u', '0', '0', Number.hexDigit (Fin.ofNat 16 (c.toNat / 16)),
      Number.hexDigit (Fin.ofNat 16 c.toNat)]
  else [c]

/-- A string in quotation marks. -/
def quoted (s : String) : String :=
  String.ofList ('\x22' :: (s.toList.flatMap escaped ++ ['\x22']))

mutual

/-- **The compact text** of a value. -/
def compact : Json → String
  | null => "null"
  | bool value => if value then "true" else "false"
  | int value => Number.intText value
  | real value => value.json
  | text value => quoted value
  | array items => "[" ++ compactItems items ++ "]"
  | object members => "\x7b" ++ compactMembers members ++ "\x7d"

/-- The texts of the items of an array, with commas between them. -/
def compactItems : List Json → String
  | [] => ""
  | [item] => compact item
  | item :: next :: rest => compact item ++ "," ++ compactItems (next :: rest)

/-- The texts of the members of an object, with commas between them. -/
def compactMembers : List (String × Json) → String
  | [] => ""
  | [(name, value)] => quoted name ++ ":" ++ compact value
  | (name, value) :: next :: rest =>
    quoted name ++ ":" ++ compact value ++ "," ++ compactMembers (next :: rest)

end

end EntitySearch.Json
