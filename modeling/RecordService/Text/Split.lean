/-!
# Cutting text at a character

`pieces` cuts at every separator, so that a text without one is a single piece; `cutOnce` cuts at the
first.
-/
namespace RecordService.Text

def pieces (separator : Char) : List Char → List (List Char)
  | [] => [[]]
  | c :: cs =>
    if c = separator then [] :: pieces separator cs
    else
      match pieces separator cs with
      | [] => [[c]]
      | p :: ps => (c :: p) :: ps

def cutOnce (separator : Char) : List Char → Option (List Char × List Char)
  | [] => none
  | c :: cs =>
    if c = separator then some ([], cs) else (cutOnce separator cs).map fun (a, b) => (c :: a, b)

end RecordService.Text
