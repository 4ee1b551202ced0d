/-!
# Cutting and comparing text

Cutting a text at a separator, taking off an expected beginning, and comparison without regard to
the case of the ASCII letters (other letters keep their case here).
-/

namespace EntitySearch.Text

/-- The pieces of a text between the occurrences of a separator; always at least one piece. -/
def splitAt (separator : Char) : List Char → List (List Char)
  | [] => [[]]
  | c :: rest =>
    if c = separator then [] :: splitAt separator rest
    else
      match splitAt separator rest with
      | [] => [[c]]
      | piece :: pieces => (c :: piece) :: pieces

/-- What follows an expected beginning, or nothing when the text does not begin with it. -/
def after? : List Char → List Char → Option (List Char)
  | [], s => some s
  | _ :: _, [] => none
  | e :: expected, c :: s => if e = c then after? expected s else none

/-- What precedes an expected end, or nothing when the text does not end with it. -/
def before? (last : Char) (s : List Char) : Option (List Char) :=
  match s.reverse with
  | c :: rest => if c = last then some rest.reverse else none
  | [] => none

/-- The text in lower case, as far as its letters are ASCII letters. -/
def lower (s : List Char) : List Char := s.map Char.toLower

/-- Whether two texts are equal when the case of ASCII letters is ignored. -/
def equalsIgnoringCase (a b : List Char) : Bool := lower a == lower b

/-- Whether two strings are equal when the case of ASCII letters is ignored. -/
def sameIgnoringCase (a b : String) : Bool := equalsIgnoringCase a.toList b.toList

/-- The strings joined by a separator. -/
def joined (separator : String) (parts : List String) : String := separator.intercalate parts

end EntitySearch.Text
