import RecordService.Number.Text
import RecordService.Regex.Property
import RecordService.Regex.Size
import RecordService.Text.Fold
import RecordService.Text.Letter
/-!
# Reading patterns

`read` gives the expression a pattern denotes, or nothing when the pattern is malformed, nested too deeply
or too large.  References to groups and conditions that look around are not part of the language.  Every
step takes a character of the pattern, so the length of the pattern bounds the steps.
-/
namespace RecordService

namespace Regex

/-! ## Flags -/

structure Flags where
  ignoreCase : Bool
  multiLine : Bool
  dotAll : Bool
  crlf : Bool
  unicode : Bool
  /-- Blanks and comments in the pattern are passed over. -/
  spaced : Bool

namespace Flags

def standard : Flags := ⟨false, false, false, false, true, false⟩

/-- Turns the flag of a letter on or off.  The preference for long or short matches has no effect on
whether there is one. -/
def set (f : Flags) (letter : Char) (value : Bool) : Option Flags :=
  match letter with
  | 'i' => some { f with ignoreCase := value }
  | 'm' => some { f with multiLine := value }
  | 's' => some { f with dotAll := value }
  | 'R' => some { f with crlf := value }
  | 'u' => some { f with unicode := value }
  | 'x' => some { f with spaced := value }
  | 'U' => some f
  | _ => none

end Flags

def afterComment (cs : List Char) : List Char := (cs.dropWhile (· ≠ '\n')).drop 1

def skipSpaced : Nat → List Char → List Char
  | 0, cs => cs
  | _ + 1, [] => []
  | steps + 1, c :: cs =>
    if Text.isBlank c then skipSpaced steps cs
    else if c = '#' then skipSpaced steps (afterComment cs)
    else c :: cs

def skip (f : Flags) (cs : List Char) : List Char := if f.spaced then skipSpaced cs.length cs else cs

/-- The characters that `accepts` takes, with what may be passed over behind each, and the rest. -/
def spanSpaced (f : Flags) (accepts : Char → Bool) : Nat → List Char → List Char × List Char
  | steps + 1, c :: cs =>
    if accepts c then
      let (taken, rest) := spanSpaced f accepts steps (skip f cs)
      (c :: taken, rest)
    else ([], c :: cs)
  | _, cs => ([], cs)

def span (f : Flags) (accepts : Char → Bool) (cs : List Char) : List Char × List Char :=
  spanSpaced f accepts cs.length cs

/-! ## Sets under flags -/

/-- Without Unicode a set has to stay within ASCII. -/
def within (f : Flags) (set : CharSet) : Option CharSet := if f.unicode || set.isBelow 128 then some set else none

def fold (f : Flags) (set : CharSet) : CharSet :=
  if !f.ignoreCase then set else if f.unicode then Text.foldClosure set else Text.asciiFoldClosure set

/-- A complement is taken after letters are made equal up to case. -/
def foldThen (f : Flags) (negated : Bool) (set : CharSet) : Option CharSet :=
  within f (if negated then (fold f set).compl else fold f set)

/-- A single character, which may lie beyond ASCII even without Unicode. -/
def literal (f : Flags) (c : Char) : CharSet :=
  if f.ignoreCase && f.unicode then .ofList (Text.caseVariants c.toNat) else fold f (.single c)

/-! ## Escapes -/

inductive Atom where
  | literal (c : Char)
  | set (s : CharSet)
  | assertion (a : Assertion)

def hexDigit? (c : Char) : Option Nat :=
  if c.isDigit then some (c.toNat - 48)
  else if 'a' ≤ c && c ≤ 'f' then some (c.toNat - 87)
  else if 'A' ≤ c && c ≤ 'F' then some (c.toNat - 55)
  else none

def charOf (digits : List Char) : Option Char :=
  let number := digits.foldl (fun n c => n.bind fun n => (hexDigit? c).map fun d => n * 16 + d) (some 0)
  number.bind fun n => if n.isValidChar then some (Char.ofNat n) else none

def takeDigits (f : Flags) : Nat → List Char → Option (List Char × List Char)
  | 0, cs => some ([], cs)
  | _ + 1, [] => none
  | count + 1, c :: cs => (takeDigits f count (skip f cs)).map fun (digits, rest) => (c :: digits, rest)

/-- A character by its number: `count` digits, or any number of them in braces.  Two digits stand for an
octet, which without Unicode has to be ASCII. -/
def readHex (f : Flags) (count : Nat) (cs : List Char) : Option (Char × List Char) :=
  match skip f cs with
  | '\x7b' :: rest =>
    match span f (· ≠ '\x7d') (skip f rest) with
    | (digits, _ :: after) => if digits.isEmpty then none else (charOf digits).map (·, after)
    | _ => none
  | cs =>
    match takeDigits f count cs with
    | some (digits, rest) =>
      (charOf digits).bind fun c =>
        if count = 2 && !f.unicode && 128 ≤ c.toNat then none else some (c, rest)
    | none => none

/-- Splits at the first place where `mark` stands. -/
def cutAt (mark : List Char) : List Char → Option (List Char × List Char)
  | [] => none
  | c :: cs =>
    if mark.isPrefixOf (c :: cs) then some ([], (c :: cs).drop mark.length)
    else (cutAt mark cs).map fun (before, after) => (c :: before, after)

/-- What stands between the braces of a property: a name, or a name and a value, which `!=` inverts. -/
def bracedProperty (body : List Char) : Option (Bool × CharSet) :=
  match cutAt ['!', '='] body with
  | some (name, value) => (Property.valued name value).map (true, ·)
  | none =>
    match (cutAt [':'] body).orElse fun _ => cutAt ['='] body with
    | some (name, value) => (Property.valued name value).map (false, ·)
    | none => (Property.named body).map (false, ·)

def readProperty (f : Flags) (negated : Bool) (cs : List Char) : Option (CharSet × List Char) :=
  if !f.unicode then none
  else
    match skip f cs with
    | [] => none
    | '\x7b' :: rest =>
      match span f (· ≠ '\x7d') (skip f rest) with
      | (body, _ :: after) =>
        (bracedProperty body).bind fun (inverted, s) => (foldThen f (negated != inverted) s).map (·, after)
      | _ => none
    | c :: rest => (Property.named [c]).bind fun s => (foldThen f negated s).map (·, rest)

def isMeta (c : Char) : Bool :=
  ['\\', '.', '+', '*', '?', '(', ')', '|', '[', ']', '\x7b', '\x7d', '^', '$', '#', '&', '-', '~'].contains c

/-- Other characters that a backslash may stand before: ASCII, but no letter, no digit, no angle. -/
def isEscapable (c : Char) : Bool := c.toNat < 128 && !c.isAlphanum && c != '<' && c != '>'

def wordAssertion (f : Flags) (name : List Char) : Option Assertion :=
  match String.ofList name with
  | "start" => some (.wordStart f.unicode)
  | "end" => some (.wordEnd f.unicode)
  | "start-half" => some (.wordStartHalf f.unicode)
  | "end-half" => some (.wordEndHalf f.unicode)
  | _ => none

/-- A condition on words may have a name in braces; braces that do not begin like one are left. -/
def readWordAssertion (f : Flags) (cs : List Char) : Option (Assertion × List Char) :=
  let isNameChar (c : Char) : Bool := c.isAlpha || c == '-'
  match cs with
  | '\x7b' :: rest =>
    match span f isNameChar (skip f rest) with
    | ([], []) => none
    | ([], _) => some (.wordBoundary f.unicode, cs)
    | (name, '\x7d' :: after) => (wordAssertion f name).map (·, after)
    | _ => none
  | cs => some (.wordBoundary f.unicode, cs)

def plainEscape (f : Flags) (c : Char) : Option Atom :=
  match c with
  | 'a' => some (.literal '\x07')
  | 'f' => some (.literal '\x0c')
  | 't' => some (.literal '\t')
  | 'n' => some (.literal '\n')
  | 'r' => some (.literal '\r')
  | 'v' => some (.literal '\x0b')
  | 'A' => some (.assertion .textStart)
  | 'z' => some (.assertion .textEnd)
  | 'B' => some (.assertion (.notWordBoundary f.unicode))
  | '<' => some (.assertion (.wordStart f.unicode))
  | '>' => some (.assertion (.wordEnd f.unicode))
  | c => if isMeta c || isEscapable c then some (.literal c) else none

/-- What follows a backslash. -/
def readEscape (f : Flags) : List Char → Option (Atom × List Char)
  | [] => none
  | c :: cs =>
    let literal (read : Option (Char × List Char)) := read.map fun (c, rest) => (.literal c, rest)
    let set (read : Option (CharSet × List Char)) := read.map fun (s, rest) => (.set s, rest)
    match c with
    | 'x' => literal (readHex f 2 cs)
    | 'u' => literal (readHex f 4 cs)
    | 'U' => literal (readHex f 8 cs)
    | 'p' => set (readProperty f false cs)
    | 'P' => set (readProperty f true cs)
    | 'b' => (readWordAssertion f cs).map fun (a, rest) => (.assertion a, rest)
    | c =>
      match letterClass f.unicode c.toLower with
      | some s => (within f (if c.isUpper then s.compl else s)).map fun s => (.set s, cs)
      | none => (plainEscape f c).map (·, cs)

/-! ## Classes in brackets -/

/-- How many levels of groups, classes, repetitions, sequences and choices a pattern may have. -/
def maxDepth : Nat := 250

inductive SetOp where
  | inter
  | diff
  | symmDiff

def SetOp.apply : SetOp → CharSet → CharSet → CharSet
  | .inter => .inter
  | .diff => .diff
  | .symmDiff => .symmDiff

/-- The items read so far: their union, the depth of the deepest one, and whether there is more than one,
which makes a level of its own. -/
structure Items where
  set : CharSet
  depth : Nat
  count : Nat

namespace Items

def none : Items := ⟨.empty, 0, 0⟩

def add (items : Items) (set : CharSet) (depth : Nat) : Items :=
  ⟨items.set.union set, max items.depth depth, items.count + 1⟩

def level (items : Items) : Nat := if items.count ≤ 1 then items.depth else items.depth + 1

end Items

/-- A class written between `[:` and `:]`; anything else is left to be read otherwise. -/
def asciiClass? (cs : List Char) : Option (Bool × CharSet × List Char) :=
  match cs with
  | '[' :: ':' :: rest =>
    let negated := rest.head? == some '^'
    let rest := if negated then rest.drop 1 else rest
    match rest.dropWhile (· ≠ ':') with
    | ':' :: ']' :: after =>
      (asciiClasses.lookup (String.ofList (rest.takeWhile (· ≠ ':')))).map (negated, ·, after)
    | _ => none
  | _ => none

def readClassItem (f : Flags) : List Char → Option (Atom × List Char)
  | '\\' :: cs => readEscape f cs
  | c :: cs => some (.literal c, cs)
  | [] => none

def itemSet (f : Flags) : Atom → Option CharSet
  | .literal c => within f (.single c)
  | .set s => some s
  | .assertion _ => none

/-- What comes behind a hyphen: blanks are passed over, and one sign of a comment. -/
def peekBehind (f : Flags) (cs : List Char) : Option Char :=
  if f.spaced then
    match cs.dropWhile Text.isBlank with
    | '#' :: rest => (rest.dropWhile Text.isBlank).head?
    | rest => rest.head?
  else cs.head?

/-- One item, or a range of characters: a hyphen between two of them. -/
def readClassRange (f : Flags) (cs : List Char) : Option (CharSet × List Char) :=
  match readClassItem f cs with
  | none => none
  | some (first, rest) =>
    match skip f rest with
    | [] => none
    | '-' :: after =>
      if peekBehind f after == some ']' || peekBehind f after == some '-' then
        (itemSet f first).map (·, '-' :: after)
      else
        match first, readClassItem f (skip f after) with
        | .literal low, some (.literal high, rest) =>
          if low ≤ high then (within f (.range low.toNat high.toNat)).map (·, rest) else none
        | _, _ => none
    | rest => (itemSet f first).map (·, rest)

/-- An operator that waits for its right side, with its left side and the depth of that. -/
structure Pending where
  op : SetOp
  left : CharSet
  depth : Nat

def combine (f : Flags) (pending : Option Pending) (items : Items) : CharSet × Nat :=
  match pending with
  | some p => (p.op.apply (fold f p.left) (fold f items.set), max p.depth items.level + 1)
  | none => (items.set, items.level)

/-- The hyphens that stand for themselves at the start of a class. -/
def readHyphens (f : Flags) (cs : List Char) : Items × List Char :=
  let (hyphens, rest) := span f (· == '-') cs
  (hyphens.foldl (fun items c => items.add (.single c) 0) .none, rest)

/-- The start of a class, after its opening bracket: a sign that inverts it, and the hyphens or the closing
bracket that stand for themselves. -/
def readClassStart (f : Flags) (cs : List Char) : Bool × Items × List Char :=
  let cs := skip f cs
  let negated := cs.head? == some '^'
  let (items, rest) := readHyphens f (if negated then skip f (cs.drop 1) else cs)
  match items.count, rest with
  | 0, ']' :: rest => (negated, items.add (.single ']') 0, skip f rest)
  | _, rest => (negated, items, rest)

/-- The rest of a class, after some items and an operator that waits for its right side.  The answer is the
set, its depth and the rest of the pattern. -/
def readClassRest (f : Flags) (negated : Bool) :
    Nat → Nat → Option Pending → Items → List Char → Option (CharSet × Nat × List Char)
  | 0, _, _, _, _ => none
  | steps + 1, levels, pending, items, cs =>
    let after (op : SetOp) (rest : List Char) :=
      let (left, depth) := combine f pending items
      readClassRest f negated steps levels (some ⟨op, left, depth⟩) .none rest
    let more (set : CharSet) (depth : Nat) (rest : List Char) :=
      readClassRest f negated steps levels pending (items.add set depth) rest
    match skip f cs with
    | [] => none
    | ']' :: rest =>
      let (set, depth) := combine f pending items
      (foldThen f negated set).map (·, depth + 1, rest)
    | '&' :: '&' :: rest => after .inter rest
    | '-' :: '-' :: rest => after .diff rest
    | '~' :: '~' :: rest => after .symmDiff rest
    | '[' :: rest =>
      match asciiClass? ('[' :: rest) with
      | some (inverted, s, rest) => (foldThen f inverted s).bind fun s => more s 0 rest
      | none =>
        match levels with
        | 0 => none
        | levels + 1 =>
          let (inverted, start, rest) := readClassStart f rest
          match readClassRest f inverted steps levels none start rest with
          | some (s, depth, rest) => more s depth rest
          | none => none
    | cs =>
      match readClassRange f cs with
      | some (s, rest) => more s 0 rest
      | none => none

/-- A class, after its opening bracket. -/
def readClass (f : Flags) (cs : List Char) : Option (CharSet × Nat × List Char) :=
  let (negated, start, rest) := readClassStart f cs
  readClassRest f negated (cs.length + 1) maxDepth none start rest

/-! ## Repetition -/

/-- A number of repetitions, with blanks around it. -/
def readCount (f : Flags) (cs : List Char) : Option (Nat × List Char) :=
  let (digits, rest) := span f Char.isDigit (cs.dropWhile Text.isBlank)
  if digits.isEmpty || 4294967295 < ofDigits digits then none
  else some (ofDigits digits, (span f Text.isBlank rest).2)

/-- The bounds between braces, after the opening one. -/
def readBounds (f : Flags) (cs : List Char) : Option ((Nat × Option Nat) × List Char) :=
  match readCount f (skip f cs) with
  | none => none
  | some (least, rest) =>
    match rest with
    | '\x7d' :: rest => some ((least, some least), rest)
    | ',' :: rest =>
      match skip f rest with
      | '\x7d' :: rest => some ((least, none), rest)
      | rest =>
        match readCount f rest with
        | some (most, '\x7d' :: rest) => if least ≤ most then some ((least, some most), rest) else none
        | _ => none
    | _ => none

/-- A question mark right behind a repetition only asks for a short match. -/
def dropLazy : List Char → List Char
  | '?' :: rest => rest
  | cs => cs

/-! ## Groups -/

def isNameStart (c : Char) : Bool := c == '_' || Text.isAlphabetic c

def isNameChar (c : Char) : Bool :=
  isNameStart c || c == '.' || c == '[' || c == ']' || Text.isNumeric c

def isGroupName : List Char → Bool
  | [] => false
  | c :: cs => isNameStart c && cs.all isNameChar

/-- The letters of a group of flags, up to the colon or the closing parenthesis. -/
def readFlags : List Char → Bool → List Char → Flags → Option (Flags × Char × Bool × List Char)
  | [], _, _, _ => none
  | c :: cs, on, seen, f =>
    if c == ':' || c == ')' then
      if !on && seen.head? == some '-' then none else some (f, c, seen.isEmpty, cs)
    else if c == '-' then if on then readFlags cs false ('-' :: seen) f else none
    else if seen.contains c then none
    else
      match f.set c on with
      | some f => readFlags cs on (c :: seen) f
      | none => none

/-- What stands at the head of a parenthesis: a group that is counted, perhaps with a name, a group with
flags of its own, or flags for what follows. -/
inductive GroupHead where
  | counted (name : Option (List Char))
  | plain (flags : Flags)
  | flags (flags : Flags)

def readGroupName (cs : List Char) : Option (GroupHead × List Char) :=
  let name := cs.takeWhile (· ≠ '>')
  match cs.dropWhile (· ≠ '>') with
  | _ :: rest => if isGroupName name then some (.counted (some name), rest) else none
  | [] => none

def readGroupHead (f : Flags) (cs : List Char) : Option (GroupHead × List Char) :=
  match skip f cs with
  | '?' :: 'P' :: '<' :: rest => readGroupName rest
  | '?' :: '<' :: rest => readGroupName rest
  | '?' :: rest =>
    match readFlags rest true [] f with
    | some (inner, ':', _, rest) => some (.plain inner, rest)
    | some (later, _, noFlags, rest) => if noFlags then none else some (.flags later, rest)
    | none => none
  | rest => some (.counted none, rest)

/-! ## Expressions -/

/-- A part of a branch, with its depth and whether it can be repeated. -/
structure Part where
  regex : Regex
  depth : Nat
  repeats : Bool

/-- Several parts or branches make a level of their own. -/
def levelOf (depths : List Nat) : Nat :=
  let deepest := depths.foldl max 0
  if depths.length ≤ 1 then deepest else deepest + 1

/-- A branch, from its parts in the order from the last one. -/
def branch (parts : List Part) : Regex × Nat :=
  (sequence (parts.reverse.map (·.regex)), levelOf (parts.map (·.depth)))

/-- A choice, from its branches in the order from the last one. -/
def choose (branches : List (Regex × Nat)) (last : List Part) : Regex × Nat :=
  let all := branch last :: branches
  (choice (all.reverse.map Prod.fst), levelOf (all.map Prod.snd))

def repeatLast (parts : List Part) (least : Nat) (most : Option Nat) : Option (List Part) :=
  match parts with
  | ⟨r, depth, true⟩ :: rest => some (⟨r.times least most, depth + 1, true⟩ :: rest)
  | _ => none

def dot (f : Flags) : Option CharSet :=
  if !f.unicode then none
  else if f.dotAll then some .all
  else if f.crlf then some ((CharSet.single '\n').union (.single '\r')).compl
  else some (CharSet.single '\n').compl

def startAssertion (f : Flags) : Assertion :=
  if !f.multiLine then .textStart else if f.crlf then .lineStartAny else .lineStart

def endAssertion (f : Flags) : Assertion :=
  if !f.multiLine then .textEnd else if f.crlf then .lineEndAny else .lineEnd

def atomRegex (f : Flags) : Atom → Regex
  | .literal c => .chars (literal f c)
  | .set s => .chars s
  | .assertion a => .assertion a

/-- One part that is neither a group nor a repetition. -/
def readPart (f : Flags) : List Char → Option (Part × List Char)
  | [] => none
  | '.' :: cs => (dot f).map fun s => (⟨.chars s, 0, true⟩, cs)
  | '^' :: cs => some (⟨.assertion (startAssertion f), 0, true⟩, cs)
  | '$' :: cs => some (⟨.assertion (endAssertion f), 0, true⟩, cs)
  | '\\' :: cs => (readEscape f cs).map fun (a, rest) => (⟨atomRegex f a, 0, true⟩, rest)
  | '[' :: cs => (readClass f cs).map fun (s, depth, rest) => (⟨.chars s, depth, true⟩, rest)
  | c :: cs => some (⟨.chars (literal f c), 0, true⟩, cs)

/-- The branches up to the end of the pattern or to a closing parenthesis, their depth, and the names of
the groups so far; at most `levels` groups may be open at a time. -/
def readBranches : Nat → Nat → Flags → List (List Char) → List (Regex × Nat) → List Part → List Char →
    Option ((Regex × Nat) × List (List Char) × List Char)
  | 0, _, _, _, _, _, _ => none
  | steps + 1, levels, f, names, branches, parts, cs =>
    let again := readBranches steps levels f names branches
    let repeating (least : Nat) (most : Option Nat) (rest : List Char) :=
      (repeatLast parts least most).bind fun parts => again parts (dropLazy rest)
    let inner (inside : Flags) (name : Option (List Char)) (close : Regex → Regex) (rest : List Char) :=
      match levels with
      | 0 => none
      | levels + 1 =>
        if (name.map names.contains).getD false then none
        else
          match readBranches steps levels inside (name.toList ++ names) [] [] rest with
          | some ((r, depth), names, ')' :: rest) =>
            readBranches steps (levels + 1) f names branches (⟨close r, depth + 1, true⟩ :: parts) rest
          | _ => none
    match skip f cs with
    | [] => some (choose branches parts, names, [])
    | ')' :: rest => some (choose branches parts, names, ')' :: rest)
    | '|' :: rest => readBranches steps levels f names (branch parts :: branches) [] rest
    | '*' :: rest => repeating 0 none rest
    | '+' :: rest => repeating 1 none rest
    | '?' :: rest => repeating 0 (some 1) rest
    | '\x7b' :: rest =>
      (readBounds f rest).bind fun ((least, most), rest) => repeating least most (skip f rest)
    | '(' :: rest =>
      match readGroupHead f rest with
      | none => none
      | some (.flags later, rest) =>
        readBranches steps levels later names branches (⟨.empty, 0, false⟩ :: parts) rest
      | some (.plain inside, rest) => inner inside none id rest
      | some (.counted name, rest) => inner f name .group rest
    | cs =>
      match readPart f cs with
      | some (part, rest) => again (part :: parts) rest
      | none => none

def read (pattern : String) : Option Regex :=
  let cs := pattern.toList
  match readBranches (cs.length + 1) maxDepth .standard [] [] [] cs with
  | some ((r, depth), _, []) => if maxDepth < depth || r.size.isTooLarge then none else some r
  | _ => none

end Regex

end RecordService
