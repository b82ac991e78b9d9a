import RecordService.Json.Printer
import RecordService.Number.Text
import RecordService.Store.Like
/-!
# Comparing cells

A number is compared with anything that denotes a number, so that `"10"` equals `10`; two values that
are not numbers are compared as values of their kind.  Null sorts after everything.
-/
namespace RecordService.Cell

def real? : Json → Option ExtendedDouble
  | .num n => some (.finite n.toDouble)
  | .str s => readDouble s
  | _ => none

def isNumber : Json → Bool
  | .num _ => true
  | _ => false

def equal (a b : Json) : Bool :=
  if isNumber a || isNumber b then
    match real? a, real? b with
    | some x, some y => x.equals y
    | _, _ => false
  else a.same b

/-- None when the values are not of one ordered kind. -/
def compare? (a b : Json) : Option Ordering :=
  if isNumber a || isNumber b then
    match real? a, real? b with
    | some x, some y => x.compare? y
    | _, _ => none
  else
    match a, b with
    | .str x, .str y => some (compare x y)
    | .bool x, .bool y => some (compare x y)
    | _, _ => none

def sortOrder (a b : Json) : Ordering :=
  if a.isNull then (if b.isNull then .eq else .gt)
  else if b.isNull then .lt
  else (compare? a b).getD .eq

/-- What a pattern is compared with: the text of a string, the document of anything else. -/
def patternText : Json → String
  | .str s => s
  | v => v.compact

def like (ignoreCase : Bool) (cell pattern : Json) : Bool :=
  match pattern with
  | .str p => Like.holds ignoreCase p (patternText cell)
  | _ => false

end RecordService.Cell
