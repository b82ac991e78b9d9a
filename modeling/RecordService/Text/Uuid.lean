/-!
# UUID text

A UUID is thirty-two hexadecimal digits in any letter case.  They may be written without marks, in
groups of 8, 4, 4, 4 and 12 with hyphens between them, in that form between braces, or in that form
after `urn:uuid:` in any letter case.  The canonical text has hyphens and lower-case digits.
-/
namespace RecordService.Uuid

def isHexDigit (c : Char) : Bool := c.isDigit || ('a' ≤ c && c ≤ 'f') || ('A' ≤ c && c ≤ 'F')

/-- The digits of the hyphenated form. -/
def ungroup (cs : List Char) : Option (List Char) :=
  let hyphens := [8, 13, 18, 23].all fun i => cs[i]? == some '-'
  if cs.length = 36 && hyphens then
    some (cs.take 8 ++ (cs.drop 9).take 4 ++ (cs.drop 14).take 4 ++ (cs.drop 19).take 4 ++ cs.drop 24)
  else none

def urn : List Char := "urn:uuid:".toList

def plainDigits (cs : List Char) : Option (List Char) :=
  if cs.length = 32 then some cs
  else if (cs.take 9).map Char.toLower = urn then ungroup (cs.drop 9)
  else
    match cs with
    | '\x7b' :: rest => if rest.getLast? == some '\x7d' then ungroup rest.dropLast else none
    | cs => ungroup cs

def canonical (digits : List Char) : List Char :=
  let ds := digits.map Char.toLower
  ds.take 8 ++ ['-'] ++ (ds.drop 8).take 4 ++ ['-'] ++ (ds.drop 12).take 4 ++ ['-'] ++ (ds.drop 16).take 4 ++
    ['-'] ++ ds.drop 20

/-- The canonical text of the UUID that `s` denotes. -/
def parse (s : String) : Option String :=
  match plainDigits s.toList with
  | some digits => if digits.all isHexDigit then some (String.ofList (canonical digits)) else none
  | none => none

end RecordService.Uuid
