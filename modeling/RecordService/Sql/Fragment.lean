import RecordService.Json.Basic
/-!
# Fragments of SQL

SQL is built from fixed words, quoted names and holes for values.  Writing a fragment numbers its holes
from left to right, and the values stand beside the text in the same order, never in it.
-/
namespace RecordService

inductive Piece where
  | words (text : String)
  | name (identifier : String)
  | hole (cast : Option String) (value : Json)

abbrev Fragment := List Piece

namespace Fragment

/-! ## Names -/

/-- A quote inside a name is written twice. -/
def doubleQuotes : List Char → List Char
  | [] => []
  | c :: cs => if c = '"' then '"' :: '"' :: doubleQuotes cs else c :: doubleQuotes cs

def quoteName (s : String) : List Char := '"' :: doubleQuotes s.toList ++ ['"']

/-! ## Text and parameters -/

def castText : Option String → List Char
  | some type => ':' :: ':' :: type.toList
  | none => []

/-- The text of a fragment after `bound` holes. -/
def write : Nat → Fragment → List Char
  | _, [] => []
  | bound, .words text :: rest => text.toList ++ write bound rest
  | bound, .name identifier :: rest => quoteName identifier ++ write bound rest
  | bound, .hole cast _ :: rest => '$' :: (toString (bound + 1)).toList ++ castText cast ++ write (bound + 1) rest

def sql (f : Fragment) : String := String.ofList (write 0 f)

def params : Fragment → List Json
  | [] => []
  | .words _ :: rest => params rest
  | .name _ :: rest => params rest
  | .hole _ value :: rest => value :: params rest

/-! ## Joining -/

def joined (separator : String) : List Fragment → Fragment
  | [] => []
  | [f] => f
  | f :: g :: rest => f ++ [.words separator] ++ joined separator (g :: rest)

def commas (fs : List Fragment) : Fragment := joined ", " fs

def parenthesized (f : Fragment) : Fragment := [.words "("] ++ f ++ [.words ")"]

end Fragment

end RecordService
