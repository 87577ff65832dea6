/-
Settings from a TOML document: the whole document, or one section of it. A section can also be an
array that lists the settings by position. What is not said keeps its default, and names of no
setting are passed over.
-/
import PageTemplate.Files.FileSystem
import PageTemplate.Options.Basic
import PageTemplate.Toml.Document

namespace PageTemplate.Options

/-- The text of a string, or of a date or time. -/
def text? : Toml → Option String
  | .string s => some s
  | .moment m => some (String.ofList m.text)
  | _ => none

/-- An integer that is not negative. -/
def count? : Toml → Option Nat
  | .integer i => if i < 0 then none else some i.toInt.toNat
  | _ => none

def flag? : Toml → Option Bool
  | .boolean b => some b
  | _ => none

/-- Changes one setting by its name. -/
def set? (options : Options) (name : String) (v : Toml) : Option Options :=
  match name with
  | "templates_path" => (text? v).map fun templatesPath => { options with templatesPath }
  | "buffer_name" => (text? v).map fun bufferName => { options with bufferName }
  | "max_include_depth" => (count? v).map fun maxIncludeDepth => { options with maxIncludeDepth }
  | "format_output" => (flag? v).map fun formatOutput => { options with formatOutput }
  | _ => some options

/-- The names of the settings, in the order of an array of them. -/
def names : List String := ["templates_path", "buffer_name", "max_include_depth", "format_output"]

/-- Changes settings one after the other. -/
def setAll? (options : Options) (fields : List (String × Toml)) : Option Options :=
  fields.foldlM (fun options (name, v) => options.set? name v) options

/-- The settings of a section. -/
def ofSection? : Toml → Option Options
  | .table fields => setAll? {} fields
  | .array items => if items.length ≤ names.length then setAll? {} (names.zip items) else none
  | _ => none

/-- The settings in a document or in one section of it. -/
def ofDocument (text : Text) (part : Option String) : Except OptionsFault Options := do
  let some fields := Toml.document? text | .error .malformed
  let v ←
    match part with
    | none => .ok (.table fields)
    | some name =>
      match Fields.get? name fields with
      | some v => .ok v
      | none => .error (.sectionNotFound name)
  let some options := ofSection? v | .error .malformed
  options.validate

/-- The settings in a file or in one section of it. -/
def ofFile (files : FileView) (path : String) (part : Option String) :
    Except TemplateError Options :=
  match files.readText path with
  | .error fault => .error (.file path fault)
  | .ok text => (ofDocument text.toList part).mapError .options

end PageTemplate.Options
