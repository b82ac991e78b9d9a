import RecordService.Http.Percent
import RecordService.Text.Split
/-!
# Forms

A form is a text of fields between `&`, each a name and perhaps `=` and a value, in which `+` is a blank and
everything else percent-encoded.  Octets that are no text are replaced.
-/
namespace RecordService

/-- The fields by name, in their order. -/
abbrev Form := List (String × String)

namespace Form

def decodeText (text : List Char) : String :=
  String.ofList
    (Text.decodeLossy (Percent.decodeOctets (Text.octets (text.map fun c => if c == '+' then ' ' else c))))

def field (text : List Char) : String × String :=
  match Text.cutOnce '=' text with
  | some (name, value) => (decodeText name, decodeText value)
  | none => (decodeText text, "")

/-- Between two `&` there may be nothing. -/
def ofText (text : String) : Form := ((Text.pieces '&' text.toList).filter (!·.isEmpty)).map field

/-! ## Looking fields up

The outer option is none when the form cannot be accepted, and the inner one when the field is left out. -/

/-- A field that may be given once. -/
def single? (form : Form) (name : String) : Option (Option String) :=
  match form.filter (·.1 == name) with
  | [] => some none
  | [(_, value)] => some (some value)
  | _ => none

/-- A field that has to be readable when it is there. -/
def readable? {α : Type} (form : Form) (name : String) (read : String → Option α) : Option (Option α) :=
  match form.single? name with
  | some (some value) => (read value).map some
  | some none => some none
  | none => none

def readFlag : String → Option Bool
  | "true" => some true
  | "false" => some false
  | _ => none

/-- A flag that is down when it is left out. -/
def flag? (form : Form) (name : String) : Option Bool := (form.readable? name readFlag).map (·.getD false)

end Form

end RecordService
