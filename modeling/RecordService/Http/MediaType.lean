import RecordService.Text.Fold
/-!
# Media types

`type/subtype` and parameters behind semicolons, each a name and a value that is a token or stands between
quotes.  The part of the subtype behind its last `+` is its suffix.
-/
namespace RecordService.MediaType

def isToken (c : Char) : Bool := c.isAlphanum || "!#$%&'*+-.^_`|~".toList.contains c

/-! ## Parameters -/

/-- Where in the parameters the reader is. -/
inductive Place where
  | beforeName
  | inName
  | beforeValue
  | inValue
  | opened
  | quoted
  | closed
  deriving DecidableEq

def isQuotable (c : Char) : Bool := 31 < c.toNat && c.toNat != 127

/-- A quote directly behind the opening one does not close the value. -/
def step : Place → Char → Option Place
  | .beforeName, c => if c == ' ' then some .beforeName else if isToken c then some .inName else none
  | .inName, c => if c == '=' then some .beforeValue else if isToken c then some .inName else none
  | .beforeValue, c => if c == '"' then some .opened else if isToken c then some .inValue else none
  | .inValue, c => if c == ';' then some .beforeName else if isToken c then some .inValue else none
  | .opened, c => if isQuotable c then some .quoted else none
  | .quoted, c => if c == '"' then some .closed else if isQuotable c then some .quoted else none
  | .closed, c => if c == ';' then some .beforeName else if c == ' ' then some .closed else none

/-- The places where the parameters may end. -/
def mayEnd : Place → Bool
  | .beforeName => true
  | .beforeValue => true
  | .inValue => true
  | .closed => true
  | _ => false

def acceptsFrom : Place → List Char → Bool
  | place, [] => mayEnd place
  | place, c :: rest =>
    match step place c with
    | some next => acceptsFrom next rest
    | none => false

/-- Whether what follows the subtype is nothing, or parameters. -/
def hasParameters (subtype : List Char) : List Char → Bool
  | [] => true
  | ';' :: rest => !subtype.isEmpty && acceptsFrom .beforeName rest
  | _ => false

/-! ## JSON -/

def isJsonName (cs : List Char) : Bool := Text.lowerAscii (String.ofList cs) == "json"

/-- The parts before and behind the last `+`, which does not count at the beginning. -/
def cutSuffix (subtype : List Char) : Option (List Char × List Char) :=
  let suffix := (subtype.reverse.takeWhile (· != '+')).reverse
  let before := subtype.take (subtype.length - suffix.length - 1)
  if before.isEmpty then none else some (before, suffix)

def isJsonSubtype (subtype : List Char) : Bool :=
  match cutSuffix subtype with
  | some (before, suffix) => isJsonName before || isJsonName suffix
  | none => isJsonName subtype

/-- Whether a text is a media type, and one for JSON. -/
def isJson (text : String) : Bool :=
  let cs := text.toList
  match cs.dropWhile isToken with
  | '/' :: rest =>
    let subtype := rest.takeWhile isToken
    Text.lowerAscii (String.ofList (cs.takeWhile isToken)) == "application" && isJsonSubtype subtype &&
      hasParameters subtype (rest.dropWhile isToken)
  | _ => false

end RecordService.MediaType
