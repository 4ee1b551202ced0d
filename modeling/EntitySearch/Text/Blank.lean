/-!
# Blanks

White space is the Unicode property White_Space. Trimming removes it at both ends of a text, and
the words of a text are its maximal runs without it.
-/

namespace EntitySearch.Text

/-- **The White_Space code points**, in rising order. -/
def blankPoints : List Nat :=
  [0x9, 0xA, 0xB, 0xC, 0xD, 0x20, 0x85, 0xA0, 0x1680, 0x2000, 0x2001, 0x2002, 0x2003, 0x2004,
   0x2005, 0x2006, 0x2007, 0x2008, 0x2009, 0x200A, 0x2028, 0x2029, 0x202F, 0x205F, 0x3000]

/-- Whether a character is white space. -/
def isBlank (c : Char) : Bool := blankPoints.contains c.toNat

/-- The text without the white space at its start. -/
def trimStart (s : List Char) : List Char := s.dropWhile isBlank

/-- The text without the white space at its end. -/
def trimEnd (s : List Char) : List Char := (s.reverse.dropWhile isBlank).reverse

/-- The text without the white space at either end. -/
def trim (s : List Char) : List Char := trimEnd (trimStart s)

/-- Trimming leaves out characters and changes none. -/
theorem trim_sublist (s : List Char) : (trim s).Sublist s := by
  have back : (trim s).Sublist (trimStart s).reverse.reverse :=
    (List.dropWhile_sublist _).reverse
  rw [List.reverse_reverse] at back
  exact back.trans (List.dropWhile_sublist _)

/-- Trimming keeps a text without white space. -/
theorem trim_of_plain {s : List Char} (plain : ∀ c ∈ s, ¬ isBlank c) : trim s = s := by
  have keeps : ∀ t : List Char, (∀ c ∈ t, ¬ isBlank c) → t.dropWhile isBlank = t := by
    intro t plain
    cases t with
    | nil => rfl
    | cons c t => exact List.dropWhile_cons_of_neg (plain c List.mem_cons_self)
  rw [trim, trimStart, keeps s plain, trimEnd,
    keeps s.reverse fun c mem => plain c (List.mem_reverse.1 mem), List.reverse_reverse]

/-- Puts a character in front of the first word of a list of words. -/
def growFirst (c : Char) : List (List Char) → List (List Char)
  | [] => [[c]]
  | word :: rest => (c :: word) :: rest

/-- The maximal runs of characters that are not white space, in order. -/
def words : List Char → List (List Char)
  | [] => []
  | [c] => if isBlank c then [] else [[c]]
  | c :: d :: rest =>
    if isBlank c then words (d :: rest)
    else if isBlank d then [c] :: words (d :: rest)
    else growFirst c (words (d :: rest))

/-- A string without the white space at either end. -/
def trimmed (s : String) : String := String.ofList (trim s.toList)

/-- Whether a string holds nothing but white space. -/
def isBlankText (s : String) : Bool := s.toList.all isBlank

end EntitySearch.Text
