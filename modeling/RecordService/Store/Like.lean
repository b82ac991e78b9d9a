import RecordService.Regex.Size
import RecordService.Text.Fold
/-!
# Patterns for text

In a pattern `%` stands for any run of characters, `_` for any one character, and every other character
for itself; a pattern covers the whole text.  The characters of the pattern are taken from its end: for
each one, and every place in the text, it is known whether the rest of the pattern fits from there on.
A pattern whose automata are too large fits nothing.
-/
namespace RecordService.Like

/-! ## Fitting -/

/-- Turns the answers for each place into the answers for that place or a later one. -/
def fromSomewhere : List Bool → List Bool
  | [] => []
  | b :: rest =>
    match fromSomewhere rest with
    | [] => [b]
    | later :: more => (b || later) :: later :: more

/-- The character at a place is accepted and the rest fits behind it. -/
def afterOne (accepts : Char → Bool) : List Char → List Bool → List Bool
  | c :: text, _ :: fits => (accepts c && fits.headD false) :: afterOne accepts text fits
  | _, _ => [false]

/-- For every place in the text, from its start to its end, whether the pattern fits from there. -/
def fits (text : List Char) : List Char → List Bool
  | [] => text.map (fun _ => false) ++ [true]
  | p :: pattern =>
    if p = '%' then fromSomewhere (fits text pattern)
    else if p = '_' then afterOne (fun _ => true) text (fits text pattern)
    else afterOne (· == p) text (fits text pattern)

def matches? (pattern text : List Char) : Bool := (fits text pattern).headD false

/-! ## Size -/

def anySize : Regex.Size := Regex.partSize false (.chars .all)

def runSize : Regex.Size := Regex.partSize false (.repeated (.chars .all) 0 none)

def charSize (ignoreCase : Bool) (c : Char) : Regex.Size :=
  if c = '%' then runSize
  else if c = '_' then anySize
  else Regex.setSize (if ignoreCase then .ofList (Text.caseVariants c.toNat) else .single c)

/-- A pattern is held at both ends of the text. -/
def size (ignoreCase : Bool) (pattern : List Char) : Regex.Size :=
  pattern.foldl (fun total c => total + charSize ignoreCase c) ⟨192, 128⟩

/-- Characters are compared exactly, or up to case by comparing what they fold to. -/
def comparable (ignoreCase : Bool) (s : String) : List Char :=
  if ignoreCase then s.toList.map Text.foldCase else s.toList

def holds (ignoreCase : Bool) (pattern text : String) : Bool :=
  !(size ignoreCase pattern.toList).isTooLarge &&
    matches? (comparable ignoreCase pattern) (comparable ignoreCase text)

end RecordService.Like
