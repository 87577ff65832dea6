/-
The program. It reads the files that a call can need, namely the settings, the data, and the templates
that directives lead to, computes the page from them, and then writes or prints it.
-/
import Std.Time
import PageTemplate.CommandLine

namespace PageTemplate

/-- The number of an error, which the system may give with either sign. -/
def errorNumber (code : UInt32) : UInt32 := min code (0 - code)

/-- The fault that a failure of the system stands for. -/
def FileFault.ofError : IO.Error → FileFault
  | .noFileOrDirectory .. => .notFound
  | .permissionDenied .. => .permissionDenied
  | .alreadyExists .. => .exists
  | .inappropriateType _ code details =>
    if errorNumber code = 21 then .isADirectory
    else if errorNumber code = 20 then .notADirectory
    else .other details
  | .invalidArgument _ code details =>
    if errorNumber code = 36 then .nameTooLong
    else if errorNumber code = 22 then .zeroInPath
    else .other details
  | e => .other (toString e)

/-- The text of a file on disk. -/
def readDisk (path : String) : IO (Except FileFault String) := do
  try
    match String.fromUTF8? (← IO.FS.readBinFile path) with
    | some text => return .ok text
    | none => return .error .invalidText
  catch e => return .error (FileFault.ofError e)

/-- What reading gave for paths that were tried. -/
abbrev Readings := Fields (Except FileFault String)

/-- Was there a file, whether it could be read or not? -/
def isFileResult : Except FileFault String → Bool
  | .ok _ => true
  | .error fault => fault = .invalidText || fault = .permissionDenied

/-- The files as far as they were read. -/
def Readings.view (readings : Readings) : FileView where
  readText path := (Fields.get? path readings).getD (.error .notFound)
  isFile path := ((Fields.get? path readings).map isFileResult).getD false

/-- Reads a file that was not tried before. -/
def Readings.add (readings : Readings) (path : String) : IO Readings := do
  match Fields.get? path readings with
  | some _ => return readings
  | none => return Fields.insert path (← readDisk path) readings

/-- Reads the templates of the given names and all that they include. -/
partial def Readings.addTemplates (readings : Readings) (root : String) :
    List String → IO Readings
  | [] => return readings
  | name :: rest => do
    match Source.path? root name with
    | none => readings.addTemplates root rest
    | some path =>
      if (Fields.get? path readings).isSome then readings.addTemplates root rest
      else
        let readings ← readings.add path
        match readings.view.readText path with
        | .ok text => readings.addTemplates root (SourcePart.inclusions text.toList ++ rest)
        | .error _ => readings.addTemplates root rest

/-- Reads all files that a call can need. -/
def Readings.ofInvocation (i : Invocation) : IO Readings := do
  let readings ← Readings.add [] (i.settings.getD Invocation.defaultSettings)
  let readings ← readings.add i.data
  match i.options readings.view with
  | .ok options => readings.addTemplates options.templatesPath [i.template]
  | .error _ => return readings

/-- Makes a directory on disk that may be there already. -/
def ensureDiskDirectory (path : String) : IO Unit := do
  try
    IO.FS.createDir path
  catch e =>
    match FileFault.ofError e with
    | .exists =>
      let full ← IO.FS.realPath path
      unless ← full.isDir do throw e
    | _ => throw e

/-- Makes a directory on disk, and first those above it if they are missing. -/
partial def makeDiskDirectories (path : String) : IO Unit := do
  try
    ensureDiskDirectory path
  catch e =>
    match FileFault.ofError e, Path.parent? path with
    | .notFound, some parent =>
      makeDiskDirectories parent
      ensureDiskDirectory path
    | _, _ => throw e

/-- Writes a page to disk, and makes the directories above it first. -/
def saveOnDisk (path page : String) : IO (Except CommandFault Unit) := do
  let parent := (Path.parent? path).getD ""
  try
    if parent ≠ "" then makeDiskDirectories parent
  catch e => return .error (.template (.file parent (FileFault.ofError e)))
  try
    IO.FS.writeFile path page
    return .ok ()
  catch e => return .error (.template (.file path (FileFault.ofError e)))

/-- A clock that stands at the present time. -/
def presentClock : IO Clock := do
  let now ← Std.Time.DateTime.now
  let here := now.toPlainDateTime
  let nanoseconds := now.toTimestamp.toNanosecondsSinceUnixEpoch.val
  let reading := Reading.ofLocal (nanoseconds / 1000000000) here.year.toInt.toNat
    here.month.toInt.toNat here.day.toInt.toNat here.hour.toInt.toNat here.minute.toInt.toNat
    here.second.toInt.toNat (here.nanosecond.toInt.toNat / 1000)
  return ⟨fun _ => reading, 0⟩

/-- Answers a call on the files of the disk. -/
def answer (i : Invocation) : IO Outcome := do
  let readings ← Readings.ofInvocation i
  match i.page readings.view (← presentClock), i.output with
  | .error fault, _ => return Outcome.ofResult (.error fault)
  | .ok page, none => return Outcome.ofResult (.ok (some page))
  | .ok page, some path => return Outcome.ofResult ((← saveOnDisk path page).map fun _ => none)

end PageTemplate

open PageTemplate

def main (args : List String) : IO UInt32 := do
  let outcome ←
    match Request.ofArguments? args with
    | none => pure Outcome.refusal
    | some .help => pure Outcome.help
    | some (.render i) => answer i
  IO.print outcome.printed
  IO.eprint outcome.complaint
  return outcome.exitCode.toUInt32
