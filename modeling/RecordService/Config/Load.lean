import RecordService.Config.Decode
import RecordService.Error
import RecordService.Json.Reader
/-!
# Loading declarations

Declarations are kept in files, each holding one of them or an array of them.  A directory stands for
its entries whose names end in `.json`, taken in the order of their names; the others are left alone.
-/
namespace RecordService

/-- The directories and the files of a tree, each by its way from the root, name by name. -/
structure FileTree where
  directories : List (List String)
  files : List (List String × String)

namespace FileTree

def empty : FileTree := ⟨[], []⟩

def text? (t : FileTree) (way : List String) : Option String := t.files.lookup way

def isDirectory (t : FileTree) (way : List String) : Bool := way.isEmpty || t.directories.contains way

/-- The name at the end of a way that leads one step beyond a directory. -/
def nameBelow (directory way : List String) : Option String :=
  if way.dropLast = directory then way.getLast? else none

/-- The names in a directory, of files and of directories. -/
def namesIn (t : FileTree) (directory : List String) : List String :=
  (t.files.map Prod.fst ++ t.directories).filterMap (nameBelow directory)

/-! ## Paths

Two slashes are as good as one, a point stands for the same directory and two points for the one above. -/

def step (way : List String) (segment : String) : List String :=
  if segment = "" || segment = "." then way else if segment = ".." then way.dropLast else way ++ [segment]

/-- Where the segments of a path lead; each has to start from a directory. -/
def follow (t : FileTree) : List String → List String → Option (List String)
  | way, [] => some way
  | way, segment :: rest =>
    if t.isDirectory way && !(way.isEmpty && segment == "..") then t.follow (step way segment) rest else none

/-- A path that begins with a slash leads out of the tree. -/
def resolve (t : FileTree) (path : String) : Option (List String) :=
  if path.startsWith "/" then none else t.follow [] (path.splitOn "/")

/-- Adds the directories on the way. -/
def makeWay (t : FileTree) : List String → List String → FileTree
  | _, [] => t
  | way, segment :: rest =>
    let next := step way segment
    (if t.isDirectory next then t else { t with directories := next :: t.directories }).makeWay next rest

/-- Writes a file, in place of one that is there already. -/
def write (t : FileTree) (path text : String) : FileTree :=
  let segments := path.splitOn "/"
  let made := t.makeWay [] segments.dropLast
  let way := segments.foldl step []
  { made with files := (way, text) :: made.files.filter (·.1 ≠ way) }

def ofFiles (files : List (String × String)) : FileTree := files.foldl (fun t f => t.write f.1 f.2) empty

end FileTree

namespace Declaration

/-- The part of a name after its last point, when something stands before it. -/
def nameExtension (name : String) : Option String :=
  let back := name.toList.reverse
  let ending := back.takeWhile (· ≠ '.')
  match back.dropWhile (· ≠ '.') with
  | _ :: _ :: _ => some (String.ofList ending.reverse)
  | _ => none

def sortNames (names : List String) : List String := names.mergeSort fun a b => decide (a ≤ b)

def fault : DecodeError → FileFault
  | .shape => .notDeclaration
  | .explained message => .declaration message

def ofText (path text : String) : Except ConfigError (List Declaration) :=
  match Json.read text with
  | none => .error (.file path .notJson)
  | some v =>
    let decoded := match v with
      | .arr items => items.mapM decode
      | v => (decode v).map fun d => [d]
    decoded.mapError fun e => .file path (fault e)

/-- A path with another one behind it, unless that begins with a slash and so stands alone. -/
def joinPath (path behind : String) : String :=
  if behind.isEmpty then path
  else if behind.startsWith "/" then behind
  else if path.endsWith "/" then path ++ behind
  else path ++ "/" ++ behind

def loadFile (t : FileTree) (shown : String) (way : List String) : Except ConfigError (List Declaration) :=
  match t.text? way with
  | some text => ofText shown text
  | none => .error (.file shown .unreadable)

/-- The declarations at a path of the tree, which messages show below `root`. -/
def load (t : FileTree) (root path : String) : Except ConfigError (List Declaration) :=
  let shown := joinPath root path
  match t.resolve path with
  | none => .error (.file shown .unreadable)
  | some way =>
    if t.isDirectory way then do
      let names := sortNames ((t.namesIn way).filter fun n => nameExtension n == some "json")
      let loaded ← names.mapM fun n => loadFile t (joinPath shown n) (way ++ [n])
      return loaded.flatten
    else loadFile t shown way

end Declaration

end RecordService
