/-
Libraries: templates held in memory, by name. One can be filled from a directory, with a template
for every file, or by registration, which reports a name that was there before.
-/
import PageTemplate.Source.Basic

namespace PageTemplate

/-- Texts of templates by name. -/
abbrev Library := Fields String

/-- Why a library cannot be filled. -/
inductive LibraryFault where
  | unreadable (path : String)
  | outside (path root : String)
  | duplicate (name : String)
  deriving DecidableEq, Repr

def LibraryFault.message : LibraryFault → String
  | .unreadable path => s!"failed to read template {path}"
  | .outside path root => s!"{path} is outside {root}"
  | .duplicate name => s!"duplicate embedded template: '{name}'"

namespace Library

/-- The templates of a library. -/
def source (library : Library) : Source := fun name =>
  match Fields.get? name library with
  | some text => .ok text
  | none => .error (.templateNotFound name)

/-- Adds a template for every file that its path leads to. The path is the root and the names of a
file behind it; a template has the name that leads from the root to there. -/
def addFiles (fs : FileSystem) (root : String) (library : Library) :
    List (List String) → Except LibraryFault Library
  | [] => .ok library
  | names :: rest =>
    let path := Path.down root names
    if fs.isFile path then
      match fs.readText path, Path.relative? root path with
      | .error _, _ => .error (.unreadable path)
      | .ok _, none => .error (.outside path root)
      | .ok text, some name => addFiles fs root (Fields.insert name text library) rest
    else addFiles fs root library rest

/-- The library of all files below a directory; where there is nothing it is empty. -/
def ofDirectory (fs : FileSystem) (root : String) : Except LibraryFault Library :=
  match fs.find root with
  | .ok entry => addFiles fs root [] (entry.files.map (·.1))
  | .error _ => .ok []

/-- Writes templates one after the other until a name was there before; that one is written too. -/
def register (library : Library) : List (String × String) → Except LibraryFault Unit × Library
  | [] => (.ok (), library)
  | (name, text) :: rest =>
    let written := Fields.insert name text library
    match Fields.get? name library with
    | some _ => (.error (.duplicate name), written)
    | none => register written rest

end Library

end PageTemplate
