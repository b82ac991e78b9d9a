import RecordService.Config.Declaration
import RecordService.Number.Text
import RecordService.Text.Blank
import RecordService.Text.Uuid
/-!
# Identifiers

An identifier arrives as JSON or as a piece of a path, and is brought into the one form its type has: the
canonical text of a UUID, an integer, or text.
-/
namespace RecordService

namespace IdType

def parseUuid : Json → Except String Json
  | .str s =>
    match Uuid.parse s with
    | some canonical => .ok (.str canonical)
    | none => .error "must be a valid UUID"
  | _ => .error "must be a valid UUID"

/-- An integer, or its decimal digits with blanks around them. -/
def integer? : Json → Option Int
  | .str s => readSigned64 (Text.trim s)
  | v => v.int64?

def parseBigint (v : Json) : Except String Json :=
  match integer? v with
  | some i => .ok (.num (.int i))
  | none => .error "must be an integer"

def parseInt (v : Json) : Except String Json :=
  match integer? v with
  | some i => if inSigned32 i then .ok (.num (.int i)) else .error "is out of range"
  | none => .error "must be an integer"

def parseText : Json → Except String Json
  | .str s => if s.isEmpty then .error "must be a non-empty string" else .ok (.str s)
  | .num n => .ok (.str n.text)
  | _ => .error "must be a non-empty string"

/-- The identifier that a value stands for, or what is wrong with it. -/
def parse : IdType → Json → Except String Json
  | .uuid => parseUuid
  | .bigint => parseBigint
  | .int => parseInt
  | .text => parseText

end IdType

end RecordService
