import EntitySearch.Database.Path
import EntitySearch.Error

/-!
# Nodes

A text inside a document can be a JSON document of its own. The engine keeps it as a tree of nodes
in which numbers and strings stand as they are written: a scalar is read when its value is asked
for, and an array or object is asked for as the text that is written for its nodes. Members stand
in the order of the text, and of two with one name the first one counts.
-/

namespace EntitySearch.Database

/-- **A quoted text**: the code points it stands for, and how it is written in a JSON text. -/
structure Quoted where
  points : List Nat
  written : List Char

/-- **A node.** The value of a scalar can be one that cannot be read. -/
inductive Node where
  | scalar (value : Except DatabaseFault Value) (written : List Char)
  | array (items : List Node)
  | object (members : List (Quoted × Node))

namespace Node

/-- The node of a quoted text. -/
def ofQuoted (quoted : Quoted) : Node := scalar (.ok (.text quoted.points)) quoted.written

/-- The first member of an object that a name in a path finds. -/
def member? (name : String) : Node → Option Node
  | object members =>
    (members.find? fun member => finds name member.1.points).map Prod.snd
  | _ => none

/-- **The node at a path** of member names. -/
def at? : List String → Node → Option Node
  | [], node => some node
  | name :: path, node => (node.member? name).bind (at? path)

mutual

/-- **The text that is written** for a node. -/
def written : Node → List Char
  | scalar _ text => text
  | array items => '[' :: (writtenItems items ++ [']'])
  | object members => '\x7b' :: (writtenMembers members ++ ['\x7d'])

/-- The texts of the items of an array, with commas between them. -/
def writtenItems : List Node → List Char
  | [] => []
  | [item] => written item
  | item :: next :: rest => written item ++ ',' :: writtenItems (next :: rest)

/-- The texts of the members of an object, with commas between them. -/
def writtenMembers : List (Quoted × Node) → List Char
  | [] => []
  | [(name, item)] => name.written ++ ':' :: written item
  | (name, item) :: next :: rest =>
    name.written ++ ':' :: (written item ++ ',' :: writtenMembers (next :: rest))

end

/-- **The value of a node**, or of a path that finds none. -/
def value : Option Node → Except DatabaseFault Value
  | none => .ok .null
  | some (scalar value _) => value
  | some node => .ok (.ofChars node.written)

end Node

end EntitySearch.Database
