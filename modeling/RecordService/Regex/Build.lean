import RecordService.Regex.Basic
/-!
# Building expressions

The parts of a pattern are put together in their simplest form: nothing beside the empty expression,
one set for a choice between sets, and no repetition that has no effect.
-/
namespace RecordService

namespace Regex

/-! ## Lengths -/

/-- The least number of characters taken, unless nothing can ever be. -/
def shortest : Regex → Option Nat
  | empty => some 0
  | chars set => if set.isEmpty then none else some 1
  | assertion _ => some 0
  | group r => r.shortest
  | cat first second => return (← first.shortest) + (← second.shortest)
  | alt first second => return min (← first.shortest) (← second.shortest)
  | repeated r least _ => r.shortest.map (· * least)

/-- The greatest number of characters taken, when there is one. -/
def longest : Regex → Option Nat
  | empty => some 0
  | chars set => if set.isEmpty then none else some 1
  | assertion _ => some 0
  | group r => r.longest
  | cat first second => return (← first.longest) + (← second.longest)
  | alt first second => return max (← first.longest) (← second.longest)
  | repeated r _ most => return (← r.longest) * (← most)

/-! ## Sequences, choices and repetitions -/

def isEmpty : Regex → Bool
  | empty => true
  | _ => false

def ofParts : List Regex → Regex
  | [] => empty
  | [r] => r
  | r :: rest => cat r (ofParts rest)

def sequence (parts : List Regex) : Regex := ofParts (parts.filter fun r => !r.isEmpty)

def set? : Regex → Option CharSet
  | chars set => some set
  | _ => none

def ofBranches : List Regex → Regex
  | [] => empty
  | [r] => r
  | r :: rest => alt r (ofBranches rest)

def choice (branches : List Regex) : Regex :=
  match branches, branches.mapM set? with
  | _ :: _ :: _, some sets => chars (sets.foldl .union .empty)
  | _, _ => ofBranches branches

/-- What takes no character is not repeated more than once. -/
def times (r : Regex) (least : Nat) (most : Option Nat) : Regex :=
  let still := r.longest == some 0
  let least := if still then min least 1 else least
  let most := if still then some (min (most.getD 1) 1) else most
  match least, most with
  | 0, some 0 => empty
  | 1, some 1 => r
  | least, most => repeated r least most

end Regex

end RecordService
