import RecordService.Json.Basic
import RecordService.Text.Quoted
/-!
# Writing JSON

`compact` is the document form: no blanks, the quote, the backslash and the control characters
escaped, everything else as it is.  `describe` is the form shown in messages, which names the kind
of each value.
-/
namespace RecordService.Json

/-! ## Strings -/

def controlEscape (c : Char) : String :=
  let digits := Nat.toDigits 16 c.toNat
  "\\u" ++ String.ofList (List.replicate (4 - digits.length) '0' ++ digits)

def escapeChar (c : Char) : String :=
  if c == '"' then "\\\""
  else if c == '\\' then "\\\\"
  else if c.toNat == 8 then "\\b"
  else if c.toNat == 9 then "\\t"
  else if c.toNat == 10 then "\\n"
  else if c.toNat == 12 then "\\f"
  else if c.toNat == 13 then "\\r"
  else if c.toNat < 32 then controlEscape c
  else c.toString

def compactString (s : String) : String := "\"" ++ String.join (s.toList.map escapeChar) ++ "\""

/-! ## Values -/

mutual
def compact : Json → String
  | .null => "null"
  | .bool true => "true"
  | .bool false => "false"
  | .num n => n.text
  | .str s => compactString s
  | .arr items => "[" ++ compactItems items ++ "]"
  | .obj members => "\x7b" ++ compactMembers members ++ "\x7d"
termination_by structural x => x

def compactItems : List Json → String
  | [] => ""
  | x :: rest => compact x ++ (if rest.isEmpty then "" else ",") ++ compactItems rest
termination_by structural x => x

def compactMembers : List (String × Json) → String
  | [] => ""
  | (k, v) :: rest =>
    compactString k ++ ":" ++ compact v ++ (if rest.isEmpty then "" else ",") ++ compactMembers rest
termination_by structural x => x
end

/-! ## Descriptions -/

mutual
def describe : Json → String
  | .null => "Null"
  | .bool b => "Bool(" ++ toString b ++ ")"
  | .num n => "Number(" ++ n.text ++ ")"
  | .str s => "String(" ++ Text.quoted s ++ ")"
  | .arr items => "Array [" ++ describeItems items ++ "]"
  | .obj members => "Object \x7b" ++ describeMembers members ++ "\x7d"
termination_by structural x => x

def describeItems : List Json → String
  | [] => ""
  | x :: rest => describe x ++ (if rest.isEmpty then "" else ", ") ++ describeItems rest
termination_by structural x => x

def describeMembers : List (String × Json) → String
  | [] => ""
  | (k, v) :: rest =>
    Text.quoted k ++ ": " ++ describe v ++ (if rest.isEmpty then "" else ", ") ++ describeMembers rest
termination_by structural x => x
end

end RecordService.Json
