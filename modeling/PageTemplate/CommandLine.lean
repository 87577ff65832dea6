/-
The command line: a template and a file of data, and perhaps a file for the page and a file of
settings. Settings come first, then the data, then the page; nothing is written before the page is
complete.
-/
import PageTemplate.Options.Reading
import PageTemplate.Render.Saving

namespace PageTemplate

/-- What a call asks for. -/
structure Invocation where
  template : String
  data : String
  output : Option String
  settings : Option String
  deriving DecidableEq, Repr

/-- What arguments ask for. -/
inductive Request where
  | help
  | render (i : Invocation)
  deriving DecidableEq, Repr

namespace Request

/-- Arguments that are read so far. -/
structure Arguments where
  /-- The arguments that stand by themselves, the last one first. -/
  plain : List String := []
  settings : Option String := none

/-- Takes an argument that stands by itself. There are at most three, and only the first can be
without text. -/
def Arguments.add? (args : Arguments) (arg : String) : Option Arguments :=
  if args.plain.length = 3 ∨ (args.plain ≠ [] ∧ arg = "") then none
  else some { args with plain := arg :: args.plain }

/-- Takes the path of the settings, which is given once. -/
def Arguments.setSettings? (args : Arguments) (path : String) : Option Arguments :=
  if args.settings.isSome ∨ path = "" then none else some { args with settings := some path }

/-- The request of complete arguments. -/
def Arguments.request? (args : Arguments) : Option Request :=
  match args.plain.reverse with
  | [template, data] => some (.render ⟨template, data, none, args.settings⟩)
  | [template, data, output] => some (.render ⟨template, data, some output, args.settings⟩)
  | _ => none

def settingsOption : Text := "--settings".toList

/-- Can the argument be the value of the option before it? -/
def isValue (arg : String) : Bool :=
  match arg.toList with
  | '-' :: _ :: _ => false
  | _ => true

/-- Reads arguments after others. Behind two dashes every argument stands by itself. -/
def read? (args : Arguments) : List String → Option Request
  | [] => args.request?
  | arg :: rest =>
    match arg.toList with
    | ['-', '-'] => rest.foldlM Arguments.add? args >>= Arguments.request?
    | '-' :: '-' :: name =>
      if arg = "--help" then some .help
      else if '-' :: '-' :: name = settingsOption then
        match rest with
        | path :: rest => if isValue path then args.setSettings? path >>= (read? · rest) else none
        | [] => none
      else
        match Text.afterPrefix? (settingsOption ++ ['=']) ('-' :: '-' :: name) with
        | some path => args.setSettings? (String.ofList path) >>= (read? · rest)
        | none => none
    | '-' :: 'h' :: _ => some .help
    | '-' :: _ :: _ => none
    | _ => args.add? arg >>= (read? · rest)

/-- The request of the arguments of a call; none if they make no sense. -/
def ofArguments? (args : List String) : Option Request := read? {} args

end Request

/-- Why a call fails. -/
inductive CommandFault where
  | template (e : TemplateError)
  | unreadableData (path : String)
  | malformedData (path : String)

def CommandFault.message : CommandFault → String
  | .template e => e.message
  | .unreadableData path => s!"failed to read data file {path}"
  | .malformedData path => s!"invalid TOML in {path}"

namespace Invocation

/-- The file of settings that is used where it is there and no other is given. -/
def defaultSettings : String := "settings.toml"

/-- The section of a file of settings that is read. -/
def settingsSection : String := "Renderer"

/-- The file that the settings are read from, if any is. -/
def settingsFile? (i : Invocation) (files : FileView) : Option String :=
  match i.settings with
  | some path => some path
  | none => if files.isFile defaultSettings then some defaultSettings else none

/-- The settings of a call. -/
def options (i : Invocation) (files : FileView) : Except TemplateError Options :=
  match i.settingsFile? files with
  | some path => Options.ofFile files path (some settingsSection)
  | none => .ok {}

/-- The data of a call. -/
def readData (i : Invocation) (files : FileView) : Except CommandFault Data :=
  match files.readText i.data with
  | .error _ => .error (.unreadableData i.data)
  | .ok text =>
    match Toml.document? text.toList with
    | some fields => .ok (Toml.table fields).toData
    | none => .error (.malformedData i.data)

/-- The renderer of a call and the state it starts from. -/
def prepare (i : Invocation) (files : FileView) (clock : Clock) :
    Except CommandFault (Renderer × RenderState) := do
  let options ← (i.options files).mapError .template
  let data ← i.readData files
  let context ← (Context.ofData clock.now data).mapError (.template ∘ .data)
  let renderer : Renderer := ⟨options, Source.directory files options.templatesPath, none⟩
  return (renderer, ⟨context, clock.tick, [], []⟩)

/-- The page of a call. -/
def page (i : Invocation) (files : FileView) (clock : Clock) : Except CommandFault String := do
  let (renderer, state) ← i.prepare files clock
  ((renderer.renderFile i.template).run state).1.mapError .template

/-- Answers a call: the page, if it is not written to a file, and the files afterwards. -/
def run (i : Invocation) (clock : Clock) (fs : FileSystem) :
    Except CommandFault (Option String) × FileSystem :=
  match i.page fs.view clock with
  | .error fault => (.error fault, fs)
  | .ok page =>
    match i.output with
    | none => (.ok (some page), fs)
    | some path =>
      let (saved, fs) := fs.save path page
      (saved.mapError .template |>.map fun _ => none, fs)

end Invocation

/-- What a program leaves: its exit code and what it printed. -/
structure Outcome where
  exitCode : Nat
  printed : String := ""
  complaint : String := ""
  deriving DecidableEq, Repr

/-- The text that explains the arguments. -/
def helpText : String := "\n".intercalate [
  "Render a site template with data from a TOML file",
  "",
  "Usage: webtpl [OPTIONS] <TEMPLATE> <DATA> [OUTPUT]",
  "",
  "Arguments:",
  "  <TEMPLATE>  Template name, relative to the templates directory",
  "  <DATA>      TOML file whose top-level table becomes the render context",
  "  [OUTPUT]    Where to save the rendered page (printed to stdout when omitted)",
  "",
  "Options:",
  "      --settings <SETTINGS>  Settings file with a [Renderer] section (defaults to ./settings.toml if present)",
  "  -h, --help                 Print help",
  ""]

/-- The text for arguments that make no sense. -/
def usageText : String :=
  "error: wrong arguments\n\nUsage: webtpl [OPTIONS] <TEMPLATE> <DATA> [OUTPUT]\n"

namespace Outcome

/-- The outcome of arguments that make no sense. -/
def refusal : Outcome := { exitCode := 2, complaint := usageText }

def help : Outcome := { exitCode := 0, printed := helpText }

/-- The outcome of a call that was answered. -/
def ofResult : Except CommandFault (Option String) → Outcome
  | .ok (some page) => { exitCode := 0, printed := page ++ "\n" }
  | .ok none => { exitCode := 0 }
  | .error fault => { exitCode := 1, complaint := s!"Error: {fault.message}\n" }

end Outcome

/-- Runs the program: what it leaves, and the files afterwards. -/
def runCommandLine (args : List String) (clock : Clock) (fs : FileSystem) : Outcome × FileSystem :=
  match Request.ofArguments? args with
  | none => (.refusal, fs)
  | some .help => (.help, fs)
  | some (.render i) =>
    let (result, fs) := i.run clock fs
    (Outcome.ofResult result, fs)

end PageTemplate
