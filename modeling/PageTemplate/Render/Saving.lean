/-
Rendering into a file. Nothing is written unless the page is complete; then the directories above
the file are made, and the file is written.
-/
import PageTemplate.Files.FileSystem
import PageTemplate.Render.Renderer

namespace PageTemplate

namespace FileSystem

/-- Writes a page to a path, and makes the directories above it first. What was made stays if
something fails. -/
def save (fs : FileSystem) (path page : String) : Except TemplateError Unit × FileSystem :=
  let parent := (Path.parent? path).getD ""
  let (made, fs) := if parent = "" then (.ok (), fs) else fs.makeDirectories parent
  match made with
  | .error fault => (.error (.file parent fault), fs)
  | .ok () =>
    match fs.write path page.toUTF8 with
    | .ok fs => (.ok (), fs)
    | .error fault => (.error (.file path fault), fs)

end FileSystem

/-- Renders a template of a name into a file. -/
def Renderer.renderFileTo (r : Renderer) (name path : String) (state : RenderState)
    (fs : FileSystem) : (Except TemplateError String × RenderState) × FileSystem :=
  match (r.renderFile name).run state with
  | (.ok page, state) =>
    match fs.save path page with
    | (.ok (), fs) => ((.ok page, state), fs)
    | (.error e, fs) => ((.error e, state), fs)
  | (.error e, state) => ((.error e, state), fs)

end PageTemplate
