import RecordService.Json.Reader
/-!
# Passing over JSON

A value that nobody asks for is passed over by its form alone: escapes need not denote characters, numbers
may be of any size and containers nested without a limit.
-/
namespace RecordService.Json

/-! ## Strings and numbers -/

/-- What follows a string, after its opening quote. -/
def skipString : List Char → Option (List Char)
  | [] => none
  | '"' :: rest => some rest
  | '\\' :: 'u' :: a :: b :: c :: d :: rest =>
    if [a, b, c, d].all fun x => (hexValue? x).isSome then skipString rest else none
  | '\\' :: c :: rest =>
    if ['"', '\\', '/', 'b', 'f', 'n', 'r', 't'].contains c then skipString rest else none
  | c :: rest => if c.toNat < 32 || c == '\\' then none else skipString rest

/-- At least one digit. -/
def skipDigits (cs : List Char) : Option (List Char) :=
  if (cs.head?.map Char.isDigit).getD false then some (cs.dropWhile Char.isDigit) else none

def skipExponent : List Char → Option (List Char)
  | 'e' :: cs => skipDigits (takeSign cs).2
  | 'E' :: cs => skipDigits (takeSign cs).2
  | cs => some cs

def skipFraction : List Char → Option (List Char)
  | '.' :: cs => skipDigits cs >>= skipExponent
  | cs => skipExponent cs

def skipMagnitude : List Char → Option (List Char)
  | '0' :: cs => if (cs.head?.map Char.isDigit).getD false then none else skipFraction cs
  | cs => skipDigits cs >>= skipFraction

def skipScalar : List Char → Option (List Char)
  | 'n' :: 'u' :: 'l' :: 'l' :: cs => some cs
  | 't' :: 'r' :: 'u' :: 'e' :: cs => some cs
  | 'f' :: 'a' :: 'l' :: 's' :: 'e' :: cs => some cs
  | '"' :: cs => skipString cs
  | '-' :: cs => skipMagnitude cs
  | cs => skipMagnitude cs

/-! ## Containers

Each step takes at least one character. -/

def skipItems (element : List Char → Option (List Char)) : Nat → List Char → Option (List Char)
  | 0, _ => none
  | steps + 1, cs =>
    match (element (skipSpace cs)).map skipSpace with
    | some (',' :: rest) => skipItems element steps rest
    | some (']' :: rest) => some rest
    | _ => none

def skipName (cs : List Char) : Option (List Char) :=
  match skipSpace cs with
  | '"' :: cs =>
    match (skipString cs).map skipSpace with
    | some (':' :: rest) => some rest
    | _ => none
  | _ => none

def skipMembers (element : List Char → Option (List Char)) : Nat → List Char → Option (List Char)
  | 0, _ => none
  | steps + 1, cs =>
    match ((skipName cs).bind fun rest => element (skipSpace rest)).map skipSpace with
    | some (',' :: rest) => skipMembers element steps rest
    | some ('}' :: rest) => some rest
    | _ => none

def skipNested : Nat → List Char → Option (List Char)
  | depth + 1, '[' :: cs =>
    match skipSpace cs with
    | ']' :: rest => some rest
    | cs => skipItems (skipNested depth) cs.length cs
  | depth + 1, '{' :: cs =>
    match skipSpace cs with
    | '}' :: rest => some rest
    | cs => skipMembers (skipNested depth) cs.length cs
  | _, cs => skipScalar cs

/-- What follows the value at the head of the text. -/
def skipValue (cs : List Char) : Option (List Char) := skipNested cs.length (skipSpace cs)

end RecordService.Json
