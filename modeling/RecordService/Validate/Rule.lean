import RecordService.Config.Declaration
import RecordService.Json.Printer
import RecordService.Regex.Reader
import RecordService.Text.Fold
import RecordService.Text.Split
import RecordService.Text.Uuid
/-!
# Rules

What a rule finds wrong with a value.  Null passes every rule.  Formats, lengths and patterns are about
text, bounds are about numbers, and a list of allowed values is about all of them.
-/
namespace RecordService

/-- The message, when there is something to complain about. -/
def complaint (wrong : Bool) (message : String) : List String := if wrong then [message] else []

/-! ## Text -/

/-- Something before the first `@`, and behind it a dot that is not only at the end. -/
def isEmail (s : String) : Bool :=
  match Text.cutOnce '@' s.toList with
  | some (name, domain) => !name.isEmpty && domain.contains '.' && domain.getLast? != some '.'
  | none => false

/-- Formats are known by their names in any letter case; an unknown one accepts everything. -/
def formatFaults (format s : String) : List String :=
  match Text.lowerAscii format with
  | "email" => complaint (!isEmail s) "must be a valid email"
  | "uuid" => complaint (Uuid.parse s).isNone "must be a valid UUID"
  | _ => []

/-- A pattern may fit any part of the text. -/
def patternFaults (pattern s : String) : List String :=
  match Regex.read pattern with
  | some r => complaint (!r.isMatch s) "does not match required pattern"
  | none => ["has an invalid pattern rule"]

/-! ## All values -/

/-- Numbers are compared as doubles. -/
def Json.equals : Json → Json → Bool
  | .num a, .num b => a.toDouble.toInt == b.toDouble.toInt
  | a, b => a.same b

/-- The first five of the allowed values. -/
def allowedList (values : List Json) : String :=
  "[" ++ String.intercalate ", " ((values.take 5).map Json.describe) ++ "]"

def allowedFaults (values : List Json) (v : Json) : List String :=
  complaint (!values.any (v.equals ·)) ("must be one of: " ++ allowedList values)

namespace Rule

def lengthFaults (r : Rule) (s : String) : List String :=
  r.maxLength.elim [] (fun n => complaint (n < s.length) ("must be at most " ++ toString n ++ " characters")) ++
  r.minLength.elim [] (fun n => complaint (s.length < n) ("must be at least " ++ toString n ++ " characters"))

def boundFaults (r : Rule) (d : Double) : List String :=
  r.minimum.elim [] (fun m => complaint (d.toInt < m.toInt) ("must be at least " ++ Layout.message.write m)) ++
  r.maximum.elim [] (fun m => complaint (m.toInt < d.toInt) ("must be at most " ++ Layout.message.write m))

def faults (r : Rule) (v : Json) : List String :=
  if v.isNull then []
  else
    v.string?.elim [] (fun s =>
      r.format.elim [] (formatFaults · s) ++ r.lengthFaults s ++ r.pattern.elim [] (patternFaults · s)) ++
    r.allowed.elim [] (allowedFaults · v) ++
    v.number?.elim [] (fun n => r.boundFaults n.toDouble)

end Rule

end RecordService
