import EntitySearch.Database.Node.Scalar

/-!
# Reading nodes

The engine's reader for JSON texts. It takes more than the strict grammar of JSON: gaps with
comments, a comma behind the last item, bare names, and the wider strings, numbers and words.
Arrays and objects may be nested a thousand levels deep. Every reader takes a value off the front
of a text and returns what follows it.
-/

namespace EntitySearch.Database.Node

/-- A reader of one value, from a text without a leading gap. -/
abbrev ValueReader := List Char → Option (Node × List Char)

/-- Reads the items of an array up to its closing bracket; `read` holds those read so far, the last
one first. A comma stands behind every item but the last, and may stand there, too. -/
def readItems? (value : ValueReader) : Nat → List Node → ValueReader
  | 0, _, _ => none
  | fuel + 1, read, s =>
    match skipGap s with
    | ']' :: rest => some (.array read.reverse, rest)
    | inner =>
      match value inner with
      | none => none
      | some (item, rest) =>
        match skipGap rest with
        | ',' :: rest => readItems? value fuel (item :: read) rest
        | ']' :: rest => some (.array (item :: read).reverse, rest)
        | _ => none

/-- Reads a name, a colon and a value. -/
def readMember? (value : ValueReader) (s : List Char) : Option ((Quoted × Node) × List Char) :=
  match readKey? s with
  | none => none
  | some (name, rest) =>
    match skipGap rest with
    | ':' :: rest => (value (skipGap rest)).map fun (item, rest) => ((name, item), rest)
    | _ => none

/-- Reads the members of an object up to its closing brace, as the items of an array are read. -/
def readMembers? (value : ValueReader) : Nat → List (Quoted × Node) → ValueReader
  | 0, _, _ => none
  | fuel + 1, read, s =>
    match skipGap s with
    | [] => none
    | c :: rest =>
      if c = '\x7d' then some (.object read.reverse, rest)
      else
        match readMember? value (c :: rest) with
        | none => none
        | some (member, rest) =>
          match skipGap rest with
          | [] => none
          | d :: rest =>
            if d = ',' then readMembers? value fuel (member :: read) rest
            else if d = '\x7d' then some (.object (member :: read).reverse, rest)
            else none

/-- Reads a value with at most `levels` levels of nesting, from a text without a leading gap and of
at most `fuel` characters. -/
def readValue? (fuel : Nat) : Nat → ValueReader
  | 0, s => readScalar? s
  | _ + 1, [] => none
  | levels + 1, c :: rest =>
    if c = '[' then readItems? (readValue? fuel levels) fuel [] rest
    else if c = '\x7b' then readMembers? (readValue? fuel levels) fuel [] rest
    else readScalar? (c :: rest)

/-- The levels of nesting that a text may have. -/
def maxLevels : Nat := 1000

/-- **Reading a JSON text**, which ends at a NUL. -/
def read? (s : String) : Option Node :=
  let chars := s.toList.takeWhile fun c => c.toNat ≠ 0
  match readValue? chars.length maxLevels (skipGap chars) with
  | some (node, rest) => if (skipGap rest).isEmpty then some node else none
  | none => none

end EntitySearch.Database.Node
