/-
Where templates come from: a directory, or a table of texts in memory. A directory is never left: a
name that starts at the root of the file system or goes up names no template.
-/
import PageTemplate.Files.FileSystem

namespace PageTemplate

/-- The text of a template by its name. -/
abbrev Source := String → Except TemplateError String

namespace Source

/-- Does a name stay below the directory that it is looked up in? -/
def staysBelow (name : String) : Bool :=
  name ≠ "" && !(Path.components name).any Path.Component.escapes

/-- The path of the file that a template is in, if the name can be one. -/
def path? (root name : String) : Option String :=
  if staysBelow name then some (Path.below root name) else none

/-- The templates in the files below a directory. -/
def directory (files : FileView) (root : String) : Source := fun name =>
  match path? root name with
  | none => .error (.templateNotFound name)
  | some path =>
    match files.readText path with
    | .ok text => .ok text
    | .error .notFound => .error (.templateNotFound name)
    | .error fault => .error (.file path fault)

end Source

end PageTemplate
