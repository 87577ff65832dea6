/-
A file system: a tree of directories and files, and a working directory that relative paths start
from. Every operation walks its path piece by piece and says at which piece it cannot go on.
-/
import PageTemplate.Error
import PageTemplate.Files.Path

namespace PageTemplate

/-- A file with its content, or a directory with what is in it. -/
inductive Entry where
  | file (content : ByteArray)
  | directory (entries : List (String × Entry))

namespace Entry

/-- What is found by going down the given names. -/
def find? : List String → Entry → Option Entry
  | [], entry => some entry
  | name :: names, .directory entries =>
    match Fields.get? name entries with
    | some entry => find? names entry
    | none => none
  | _ :: _, .file _ => none

/-- Puts an entry under a name into the directory that is found by going down the given names. -/
def put (name : String) (new : Entry) : List String → Entry → Entry
  | [], .directory entries => .directory (Fields.insert name new entries)
  | step :: steps, .directory entries =>
    match Fields.get? step entries with
    | some entry => .directory (Fields.insert step (put name new steps entry) entries)
    | none => .directory entries
  | _, .file content => .file content

mutual

/-- The files at and below an entry: the names that lead to each, and its content. -/
def files : Entry → List (List String × ByteArray)
  | .file content => [([], content)]
  | .directory entries => filesIn entries

/-- The files in a directory and below it. -/
def filesIn : List (String × Entry) → List (List String × ByteArray)
  | [] => []
  | (name, entry) :: rest =>
    entry.files.map (fun (names, content) => (name :: names, content)) ++ filesIn rest

end

end Entry

/-- A tree of files, and the names that lead to the working directory. -/
structure FileSystem where
  root : Entry
  working : List String := []

namespace FileSystem

/-- The longest name, in bytes. -/
def maxName : Nat := 255

/-- The longest path, in bytes. -/
def maxPath : Nat := 4095

/-- What is in the directory at a place. -/
def entriesAt (fs : FileSystem) (place : List String) : Except FileFault (List (String × Entry)) :=
  match fs.root.find? place with
  | some (.directory entries) => .ok entries
  | some (.file _) => .error .notADirectory
  | none => .error .notFound

/-- The entry of a name in the directory at a place. -/
def entry? (fs : FileSystem) (place : List String) (name : String) :
    Except FileFault (Option Entry) := do
  let entries ← fs.entriesAt place
  if name.utf8ByteSize > maxName then .error .nameTooLong
  else return Fields.get? name entries

/-- The place that the pieces of a path lead to from another place. -/
def walk (fs : FileSystem) (place : List String) : List String → Except FileFault (List String)
  | [] => .ok place
  | piece :: pieces => do
    if Path.isIdle piece then
      let _ ← fs.entriesAt place
      fs.walk place pieces
    else if piece = ".." then
      let _ ← fs.entriesAt place
      fs.walk place.dropLast pieces
    else
      match ← fs.entry? place piece with
      | some _ => fs.walk (place ++ [piece]) pieces
      | none => .error .notFound

/-- Where a path starts. A text that is no path is refused. -/
def start (fs : FileSystem) (path : String) : Except FileFault (List String) :=
  if path.toList.contains '\x00' then .error .zeroInPath
  else if path = "" then .error .notFound
  else if path.utf8ByteSize > maxPath then .error .nameTooLong
  else .ok (if Path.isAbsolute path then [] else fs.working)

/-- What a path leads to. -/
def find (fs : FileSystem) (path : String) : Except FileFault Entry := do
  let place ← fs.walk (← fs.start path) (Path.pieces path)
  match fs.root.find? place with
  | some entry => return entry
  | none => .error .notFound

/-- The text of a file. -/
def readText (fs : FileSystem) (path : String) : Except FileFault String := do
  match ← fs.find path with
  | .directory _ => .error .isADirectory
  | .file content =>
    match String.fromUTF8? content with
    | some text => return text
    | none => .error .invalidText

/-- Does the path lead to a file? -/
def isFile (fs : FileSystem) (path : String) : Bool :=
  match fs.find path with
  | .ok (.file _) => true
  | _ => false

/-- Does the path lead to a directory? -/
def isDirectory (fs : FileSystem) (path : String) : Bool :=
  match fs.find path with
  | .ok (.directory _) => true
  | _ => false

/-- Puts an entry under a name into the directory at a place. -/
def put (fs : FileSystem) (place : List String) (name : String) (new : Entry) : FileSystem :=
  { fs with root := Entry.put name new place fs.root }

/-- The last piece of a path and the place of the directory that it is looked up in; slashes at the
end are left out. A path of slashes has no last piece. -/
def lastPiece (fs : FileSystem) (path : String) : Except FileFault (List String × Option String) := do
  let place ← fs.start path
  match (Path.pieces path).reverse.dropWhile (· = "") with
  | [] => return (place, none)
  | last :: before => return (← fs.walk place before.reverse, some last)

/-- Makes one directory. -/
def makeDirectory (fs : FileSystem) (path : String) : Except FileFault FileSystem := do
  match ← fs.lastPiece path with
  | (_, none) => .error .exists
  | (place, some name) =>
    let _ ← fs.entriesAt place
    if name = "." ∨ name = ".." then .error .exists
    else
      match ← fs.entry? place name with
      | some _ => .error .exists
      | none => return fs.put place name (.directory [])

/-- Makes a directory that may be there already. -/
def ensureDirectory (fs : FileSystem) (path : String) : Except FileFault FileSystem :=
  match fs.makeDirectory path with
  | .ok fs => .ok fs
  | .error fault => if fault = .exists ∧ fs.isDirectory path then .ok fs else .error fault

/-- Makes a directory and those above it that are missing, of which at most `levels` can be made.
Those that were made stay also if one fails. -/
def ensureDirectories (path : String) : (levels : Nat) → FileSystem →
    Except FileFault Unit × FileSystem
  | 0, fs => (.error .notFound, fs)
  | levels + 1, fs =>
    match fs.ensureDirectory path with
    | .ok fs => (.ok (), fs)
    | .error .notFound =>
      match Path.parent? path with
      | none => (.error .notFound, fs)
      | some parent =>
        match ensureDirectories parent levels fs with
        | (.ok (), fs) =>
          match fs.ensureDirectory path with
          | .ok fs => (.ok (), fs)
          | .error fault => (.error fault, fs)
        | failed => failed
    | .error fault => (.error fault, fs)

/-- Makes a directory and those above it that are missing. -/
def makeDirectories (fs : FileSystem) (path : String) : Except FileFault Unit × FileSystem :=
  ensureDirectories path (Path.pieces path).length fs

/-- Writes a file, new or over its old content. -/
def write (fs : FileSystem) (path : String) (content : ByteArray) : Except FileFault FileSystem := do
  match ← fs.lastPiece path with
  | (_, none) => .error .isADirectory
  | (place, some name) =>
    let _ ← fs.entriesAt place
    if name = "." ∨ name = ".." ∨ path.toList.getLast? = some '/' then .error .isADirectory
    else
      match ← fs.entry? place name with
      | some (.directory _) => .error .isADirectory
      | _ => return fs.put place name (.file content)

end FileSystem

/-- How a program that only reads sees the files. -/
structure FileView where
  readText : String → Except FileFault String
  isFile : String → Bool

/-- The files of a file system. -/
def FileSystem.view (fs : FileSystem) : FileView := ⟨fs.readText, fs.isFile⟩

end PageTemplate
