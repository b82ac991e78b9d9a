import RecordService.Regex.Class
/-!
# Regular expressions

An expression relates places of a text: from a place before one of its characters, or from its end, it
reaches the places behind the parts it fits.  Sets of places are lists of truth values, one for each
place, and `reach` takes a set of places to the set of places reached from them.  A text matches when
some place can be reached at all.
-/
namespace RecordService

/-- A condition on a place that takes no character. -/
inductive Assertion where
  | textStart
  | textEnd
  | lineStart
  | lineEnd
  | lineStartAny
  | lineEndAny
  | wordBoundary (unicode : Bool)
  | notWordBoundary (unicode : Bool)
  | wordStart (unicode : Bool)
  | wordEnd (unicode : Bool)
  | wordStartHalf (unicode : Bool)
  | wordEndHalf (unicode : Bool)

inductive Regex where
  | empty
  | chars (set : CharSet)
  | assertion (a : Assertion)
  /-- What the parentheses of a group hold. -/
  | group (r : Regex)
  | cat (first second : Regex)
  | alt (first second : Regex)
  /-- At least `least` times, and at most `most` times when it is given. -/
  | repeated (r : Regex) (least : Nat) (most : Option Nat)

namespace Assertion

def wordSet (unicode : Bool) : CharSet := if unicode then Regex.wordChars else Regex.asciiWord

def isWord (unicode : Bool) (c : Option Char) : Bool := (c.map (wordSet unicode).contains).getD false

/-- Whether the condition holds between a character before the place and one after it.  Where lines may
end with a carriage return, none starts or ends within such a pair. -/
def holds (before after : Option Char) : Assertion → Bool
  | textStart => before.isNone
  | textEnd => after.isNone
  | lineStart => before.isNone || before == some '\n'
  | lineEnd => after.isNone || after == some '\n'
  | lineStartAny => before.isNone || before == some '\n' || (before == some '\r' && after != some '\n')
  | lineEndAny => after.isNone || after == some '\r' || (after == some '\n' && before != some '\r')
  | wordBoundary u => isWord u before != isWord u after
  | notWordBoundary u => isWord u before == isWord u after
  | wordStart u => !isWord u before && isWord u after
  | wordEnd u => isWord u before && !isWord u after
  | wordStartHalf u => !isWord u before
  | wordEndHalf u => !isWord u after

end Assertion

namespace Regex

/-! ## Sets of places -/

def either (a b : List Bool) : List Bool := List.zipWith (· || ·) a b

/-- The places behind the accepted characters; none is before the first character. -/
def shift (set : CharSet) (text : List Char) (places : List Bool) : List Bool :=
  false :: List.zipWith (fun c here => here && set.contains c) text places

def keepWhere (a : Assertion) : Option Char → List Char → List Bool → List Bool
  | _, _, [] => []
  | before, text, here :: rest => (here && a.holds before text.head?) :: keepWhere a text.head? text.tail rest

/-- Applies `step` a number of times; once nothing changes, nothing will. -/
def iterate (step : List Bool → List Bool) : Nat → List Bool → List Bool
  | 0, places => places
  | n + 1, places => if step places == places then places else iterate step n (step places)

/-- Up to a number of times; what was reached before stays reached. -/
def upTo (step : List Bool → List Bool) : Nat → List Bool → List Bool
  | 0, places => places
  | n + 1, places =>
    let more := either places (step places)
    if more == places then places else upTo step n more

/-! ## Matching -/

def reach (text : List Char) : Regex → List Bool → List Bool
  | empty, places => places
  | chars set, places => shift set text places
  | assertion a, places => keepWhere a none text places
  | group r, places => reach text r places
  | cat first second, places => reach text second (reach text first places)
  | alt first second, places => either (reach text first places) (reach text second places)
  | repeated r least most, places =>
    upTo (reach text r)
      (match most with
        | some n => n - least
        | none => text.length + 1)
      (iterate (reach text r) least places)

/-- Whether the expression fits some part of the text. -/
def isMatch (r : Regex) (text : String) : Bool :=
  (reach text.toList r (List.replicate (text.toList.length + 1) true)).contains true

end Regex

end RecordService
