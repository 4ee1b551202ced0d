import EntitySearch.Database.Node
import EntitySearch.Database.Node.Gap

/-!
# Quoted texts

The strings and names of a JSON text that the engine reads. A string stands in double or single
quotation marks; a name may also stand bare. A text is a list of pieces: characters and escapes.
From the pieces follow the code points that the text stands for and the way in which it is written
again.
-/

namespace EntitySearch.Database

/-- **A piece of a quoted text.** An escape of a line end joins two lines. -/
inductive Piece where
  | plain (c : Char)
  | escape (letter : Char)
  | unicode (digits : List Char)
  | byte (digits : List Char)
  | joint

/-- Whether a character is a hexadecimal digit. -/
def isHex (c : Char) : Bool := (Number.hexValue? c).isSome

/-- The number that hexadecimal digits stand for. -/
def ofHex (digits : List Char) : Nat :=
  digits.foldl (fun n c => 16 * n + (Number.hexValue? c).elim 0 Fin.val) 0

/-- The code point of an escape by a letter; none of other characters. -/
def escapeOf? (letter : Char) : Option Nat :=
  match letter with
  | 'b' => some 8
  | 't' => some 9
  | 'n' => some 10
  | 'v' => some 11
  | 'f' => some 12
  | 'r' => some 13
  | '0' => some 0
  | '\x22' | '\'' | '\\' | '/' => some letter.toNat
  | _ => none

/-! ### Reading -/

/-- Reads the pieces of a string up to its closing quotation mark; `read` holds those read so far,
the last one first. -/
def readPieces? (mark : Char) (read : List Piece) : List Char → Option (List Piece × List Char)
  | [] => none
  | '\\' :: '\r' :: '\n' :: rest => readPieces? mark (.joint :: read) rest
  | '\\' :: 'u' :: a :: b :: c :: d :: rest =>
    if [a, b, c, d].all isHex then readPieces? mark (.unicode [a, b, c, d] :: read) rest else none
  | '\\' :: 'x' :: a :: b :: rest =>
    if [a, b].all isHex then readPieces? mark (.byte [a, b] :: read) rest else none
  | '\\' :: c :: rest =>
    if endsLine c then readPieces? mark (.joint :: read) rest
    else if (escapeOf? c).isSome then readPieces? mark (.escape c :: read) rest
    else none
  | c :: rest =>
    if c = mark then some (read.reverse, rest)
    else if c = '\\' then none
    else readPieces? mark (.plain c :: read) rest

/-- Whether a character may begin a bare name. -/
def beginsName (c : Char) : Bool := c.isAlpha || c = '_' || c = '$' || (128 ≤ c.toNat && !isBlank c)

/-- Reads the pieces of a bare name as far as it goes. -/
def readName (read : List Piece) : List Char → List Piece × List Char
  | [] => (read.reverse, [])
  | '\\' :: 'u' :: a :: b :: c :: d :: rest =>
    if [a, b, c, d].all isHex then readName (.unicode [a, b, c, d] :: read) rest
    else (read.reverse, '\\' :: 'u' :: a :: b :: c :: d :: rest)
  | c :: rest =>
    if beginsName c || c.isDigit then readName (.plain c :: read) rest
    else (read.reverse, c :: rest)

/-! ### Meaning -/

/-- Whether a number is the first half of a surrogate pair. -/
def isHigh (n : Nat) : Bool := 0xD800 ≤ n && n < 0xDC00

/-- Whether a number is the second half of a surrogate pair. -/
def isLow (n : Nat) : Bool := 0xDC00 ≤ n && n < 0xE000

/-- **The code points** of a text. Two escapes that are a surrogate pair are one point; a joint at
the end is a NUL, and any other is nothing. -/
def pointsOfPieces : List Piece → List Nat
  | [] => []
  | .plain c :: rest => c.toNat :: pointsOfPieces rest
  | .escape letter :: rest => (escapeOf? letter).getD 0 :: pointsOfPieces rest
  | .byte digits :: rest => ofHex digits :: pointsOfPieces rest
  | .unicode high :: .unicode low :: rest =>
    if isHigh (ofHex high) && isLow (ofHex low) then
      (0x10000 + (ofHex high - 0xD800) * 1024 + (ofHex low - 0xDC00)) :: pointsOfPieces rest
    else ofHex high :: pointsOfPieces (.unicode low :: rest)
  | .unicode digits :: rest => ofHex digits :: pointsOfPieces rest
  | [.joint] => [0]
  | .joint :: rest => pointsOfPieces rest

/-- A piece as it is written in a JSON text: a vertical tab is written as the escape of a tab. -/
def Piece.written : Piece → List Char
  | plain c => Json.escaped c
  | escape '\'' => ['\'']
  | escape 'v' => "\\u0009".toList
  | escape '0' => "\\u0000".toList
  | escape letter => ['\\', letter]
  | unicode digits => '\\' :: 'u' :: digits
  | byte digits => '\\' :: 'u' :: '0' :: '0' :: digits
  | joint => []

/-- The quoted text of pieces. -/
def Quoted.ofPieces (pieces : List Piece) : Quoted :=
  ⟨pointsOfPieces pieces, '\x22' :: (pieces.flatMap Piece.written ++ ['\x22'])⟩

end EntitySearch.Database
