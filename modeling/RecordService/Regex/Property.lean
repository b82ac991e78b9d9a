import RecordService.Regex.Class
import RecordService.Regex.Property.Age
import RecordService.Regex.Property.Binary
import RecordService.Regex.Property.Boundary
import RecordService.Regex.Property.Script
/-!
# Properties of characters

A property is a name, or a name and a value.  Names are compared without regard to the case of letters,
blanks, hyphens and underscores, characters beyond ASCII are dropped from them, and so is an `is` in front.
-/
namespace RecordService.Regex.Property

def isPrefixed : List Char → Bool
  | c :: d :: _ => (c == 'i' || c == 'I') && (d == 's' || d == 'S')
  | _ => false

/-- The `isc` that is left of a prefix and a `c` is a name of its own. -/
def normalize (name : List Char) : String :=
  let rest := if isPrefixed name then name.drop 2 else name
  let kept := (rest.filter fun c => c.toNat < 128 && !(c == ' ' || c == '_' || c == '-')).map Char.toLower
  if isPrefixed name && kept == ['c'] then "isc" else String.ofList kept

/-- The entry of a table of runs, for its name or for another name of it. -/
def fromTable (aliases : List (String × String)) (table : List (String × List String)) (name : String) :
    Option CharSet :=
  (table.lookup ((aliases.lookup name).getD name)).map .ofRuns

/-! ## General categories -/

/-- General categories by their names: the major letter, and the minor one when it is a single category. -/
def categoryNames : List (String × Char × Option Char) :=
  [("l", 'L', none), ("letter", 'L', none), ("lu", 'L', some 'u'), ("uppercaseletter", 'L', some 'u'),
   ("ll", 'L', some 'l'), ("lowercaseletter", 'L', some 'l'), ("lt", 'L', some 't'),
   ("titlecaseletter", 'L', some 't'), ("lm", 'L', some 'm'), ("modifierletter", 'L', some 'm'),
   ("lo", 'L', some 'o'), ("otherletter", 'L', some 'o'), ("m", 'M', none), ("mark", 'M', none),
   ("combiningmark", 'M', none), ("mn", 'M', some 'n'), ("nonspacingmark", 'M', some 'n'),
   ("mc", 'M', some 'c'), ("spacingmark", 'M', some 'c'), ("me", 'M', some 'e'),
   ("enclosingmark", 'M', some 'e'), ("n", 'N', none), ("number", 'N', none), ("nd", 'N', some 'd'),
   ("decimalnumber", 'N', some 'd'), ("digit", 'N', some 'd'), ("nl", 'N', some 'l'),
   ("letternumber", 'N', some 'l'), ("no", 'N', some 'o'), ("othernumber", 'N', some 'o'),
   ("p", 'P', none), ("punctuation", 'P', none), ("punct", 'P', none), ("pc", 'P', some 'c'),
   ("connectorpunctuation", 'P', some 'c'), ("pd", 'P', some 'd'), ("dashpunctuation", 'P', some 'd'),
   ("ps", 'P', some 's'), ("openpunctuation", 'P', some 's'), ("pe", 'P', some 'e'),
   ("closepunctuation", 'P', some 'e'), ("pi", 'P', some 'i'), ("initialpunctuation", 'P', some 'i'),
   ("pf", 'P', some 'f'), ("finalpunctuation", 'P', some 'f'), ("po", 'P', some 'o'),
   ("otherpunctuation", 'P', some 'o'), ("s", 'S', none), ("symbol", 'S', none), ("sm", 'S', some 'm'),
   ("mathsymbol", 'S', some 'm'), ("sc", 'S', some 'c'), ("currencysymbol", 'S', some 'c'),
   ("sk", 'S', some 'k'), ("modifiersymbol", 'S', some 'k'), ("so", 'S', some 'o'),
   ("othersymbol", 'S', some 'o'), ("z", 'Z', none), ("separator", 'Z', none), ("zs", 'Z', some 's'),
   ("spaceseparator", 'Z', some 's'), ("zl", 'Z', some 'l'), ("lineseparator", 'Z', some 'l'),
   ("zp", 'Z', some 'p'), ("paragraphseparator", 'Z', some 'p'), ("c", 'C', none), ("other", 'C', none),
   ("cc", 'C', some 'c'), ("control", 'C', some 'c'), ("cntrl", 'C', some 'c'), ("cf", 'C', some 'f'),
   ("format", 'C', some 'f'), ("co", 'C', some 'o'), ("privateuse", 'C', some 'o'), ("cn", 'C', some 'n'),
   ("unassigned", 'C', some 'n')]

def hasCategory (major : Char) (minor : Option Char) (g : Text.Category) : Bool :=
  g.major == major && (minor.map (g.minor == ·)).getD true

def isCased (g : Text.Category) : Bool := g.major == 'L' && ['u', 'l', 't'].contains g.minor

def category (name : String) : Option CharSet :=
  match categoryNames.lookup name with
  | some (major, minor) => some (Text.Category.members (hasCategory major minor))
  | none =>
    match name with
    | "lc" => some (Text.Category.members isCased)
    | "casedletter" => some (Text.Category.members isCased)
    | "any" => some .all
    | "assigned" => some (Text.Category.members (· != ⟨'C', 'n'⟩))
    | "ascii" => some ascii
    | _ => none

/-! ## The other kinds -/

def binary (name : String) : Option CharSet := fromTable binaryAliases binaryRuns name

def script (name : String) : Option CharSet := fromTable scriptAliases scriptRuns name

def scriptUse (name : String) : Option CharSet := fromTable scriptAliases scriptUseRuns name

/-- What the versions up to one of them brought. -/
def age (name : String) : Option CharSet :=
  let version := (ageAliases.lookup name).getD name
  let earlier := ageRuns.takeWhile (·.1 != version)
  (ageRuns.lookup version).map fun runs =>
    earlier.foldl (fun s entry => s.union (.ofRuns entry.2)) (.ofRuns runs)

/-- A property without a value. -/
def named (name : List Char) : Option CharSet :=
  let n := normalize name
  ((binary n).orElse fun _ => category n).orElse fun _ => script n

/-- The properties that take a value, by all of their names. -/
def valued (name value : List Char) : Option CharSet :=
  let v := normalize value
  match normalize name with
  | "generalcategory" => category v
  | "gc" => category v
  | "script" => script v
  | "sc" => script v
  | "scriptextensions" => scriptUse v
  | "scx" => scriptUse v
  | "age" => age v
  | "graphemeclusterbreak" => fromTable graphemeAliases graphemeRuns v
  | "gcb" => fromTable graphemeAliases graphemeRuns v
  | "wordbreak" => fromTable wordAliases wordRuns v
  | "wb" => fromTable wordAliases wordRuns v
  | "sentencebreak" => fromTable sentenceAliases sentenceRuns v
  | "sb" => fromTable sentenceAliases sentenceRuns v
  | _ => none

end RecordService.Regex.Property
