import RecordService.Json.NumberReader
/-!
# Reading JSON

`read` accepts exactly one document, with blanks around it.  A name given twice in an object keeps
its first place and takes its last value.  Containers may be nested 127 deep.
-/
namespace RecordService.Json

def isSpace (c : Char) : Bool := c == ' ' || c == '\n' || c == '\t' || c == '\r'

def skipSpace (cs : List Char) : List Char := cs.dropWhile isSpace

/-! ## Strings -/

def hexValue? (c : Char) : Option Nat :=
  if c.isDigit then some (c.toNat - 48)
  else if 'a' ≤ c && c ≤ 'f' then some (c.toNat - 87)
  else if 'A' ≤ c && c ≤ 'F' then some (c.toNat - 55)
  else none

def readHex4 : List Char → Option (Nat × List Char)
  | a :: b :: c :: d :: rest => do
    let a ← hexValue? a
    let b ← hexValue? b
    let c ← hexValue? c
    let d ← hexValue? d
    return (((a * 16 + b) * 16 + c) * 16 + d, rest)
  | _ => none

/-- The character after `\u`; characters beyond U+FFFF are written as a pair. -/
def readEscapedCode (cs : List Char) : Option (Char × List Char) := do
  let (high, rest) ← readHex4 cs
  if 0xDC00 ≤ high && high ≤ 0xDFFF then none
  else if 0xD800 ≤ high && high ≤ 0xDBFF then
    match rest with
    | '\\' :: 'u' :: rest => do
      let (low, rest) ← readHex4 rest
      if 0xDC00 ≤ low && low ≤ 0xDFFF then
        return (Char.ofNat (0x10000 + (high - 0xD800) * 1024 + (low - 0xDC00)), rest)
      else none
    | _ => none
  else return (Char.ofNat high, rest)

def readEscape : List Char → Option (Char × List Char)
  | '"' :: cs => some ('"', cs)
  | '\\' :: cs => some ('\\', cs)
  | '/' :: cs => some ('/', cs)
  | 'b' :: cs => some (Char.ofNat 8, cs)
  | 'f' :: cs => some (Char.ofNat 12, cs)
  | 'n' :: cs => some ('\n', cs)
  | 'r' :: cs => some ('\r', cs)
  | 't' :: cs => some ('\t', cs)
  | 'u' :: cs => readEscapedCode cs
  | _ => none

/-- The characters up to the closing quote.  Each step takes at least one, so as many steps as there
are characters are enough. -/
def readChars : Nat → List Char → List Char → Option (List Char × List Char)
  | 0, _, _ => none
  | _ + 1, [], _ => none
  | steps + 1, c :: cs, done =>
    if c == '"' then some (done.reverse, cs)
    else if c == '\\' then
      match readEscape cs with
      | some (e, rest) => readChars steps rest (e :: done)
      | none => none
    else if c.toNat < 32 then none
    else readChars steps cs (c :: done)

/-- A string, after its opening quote. -/
def readString (cs : List Char) : Option (String × List Char) :=
  (readChars cs.length cs []).map fun (s, rest) => (String.ofList s, rest)

/-! ## Containers

`element` reads one value.  Again each step takes at least one character. -/

def readItems (element : List Char → Option (Json × List Char)) :
    Nat → List Char → List Json → Option (List Json × List Char)
  | 0, _, _ => none
  | steps + 1, cs, done =>
    match element (skipSpace cs) with
    | none => none
    | some (v, rest) =>
      match skipSpace rest with
      | ',' :: rest => readItems element steps rest (v :: done)
      | ']' :: rest => some ((v :: done).reverse, rest)
      | _ => none

/-- A member's name, up to and including the colon. -/
def readName (cs : List Char) : Option (String × List Char) :=
  match skipSpace cs with
  | '"' :: cs =>
    match readString cs with
    | some (name, rest) =>
      match skipSpace rest with
      | ':' :: rest => some (name, rest)
      | _ => none
    | none => none
  | _ => none

def readMembers (element : List Char → Option (Json × List Char)) :
    Nat → List Char → Row → Option (Row × List Char)
  | 0, _, _ => none
  | steps + 1, cs, done =>
    match readName cs with
    | none => none
    | some (name, rest) =>
      match element (skipSpace rest) with
      | none => none
      | some (v, rest) =>
        match skipSpace rest with
        | ',' :: rest => readMembers element steps rest (done.set name v)
        | '}' :: rest => some (done.set name v, rest)
        | _ => none

/-! ## Values -/

def readScalar : List Char → Option (Json × List Char)
  | 'n' :: 'u' :: 'l' :: 'l' :: cs => some (.null, cs)
  | 't' :: 'r' :: 'u' :: 'e' :: cs => some (.bool true, cs)
  | 'f' :: 'a' :: 'l' :: 's' :: 'e' :: cs => some (.bool false, cs)
  | '"' :: cs => (readString cs).map fun (s, rest) => (.str s, rest)
  | cs => (readNumber cs).map fun (n, rest) => (.num n, rest)

/-- One value at the head of the text, with containers at most `depth` deep. -/
def readValue : Nat → List Char → Option (Json × List Char)
  | depth + 1, '[' :: cs =>
    match skipSpace cs with
    | ']' :: rest => some (.arr [], rest)
    | cs => (readItems (readValue depth) cs.length cs []).map fun (items, rest) => (.arr items, rest)
  | depth + 1, '{' :: cs =>
    match skipSpace cs with
    | '}' :: rest => some (.obj [], rest)
    | cs => (readMembers (readValue depth) cs.length cs []).map fun (members, rest) => (.obj members, rest)
  | _, cs => readScalar cs

def maxDepth : Nat := 127

/-- The value at the head of the text, and what follows it. -/
def readFirst (cs : List Char) : Option (Json × List Char) := readValue maxDepth (skipSpace cs)

def read (s : String) : Option Json :=
  match readFirst s.toList with
  | some (v, rest) => if (skipSpace rest).isEmpty then some v else none
  | none => none

end RecordService.Json
