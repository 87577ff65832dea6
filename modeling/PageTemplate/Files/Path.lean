/-
Paths: names of files and directories with slashes between them. Empty pieces and single dots do
not move; two dots go up. A path is known by its components, in which pieces that do not move are
left out.
-/
import PageTemplate.Text.Basic

namespace PageTemplate.Path

/-- The pieces of a path between its slashes. -/
def pieces (path : String) : List String := (path.toList.splitOn '/').map String.ofList

/-- Is the piece one that does not move? -/
def isIdle (piece : String) : Bool := piece = "" || piece = "."

/-- Does the path start at the root of the file system? -/
def isAbsolute (path : String) : Bool := path.toList.head? = some '/'

/-- What a path consists of: where it starts, and the steps from there. -/
inductive Component where
  | top
  | here
  | up
  | name (name : String)
  deriving DecidableEq, Repr

namespace Component

def text : Component → String
  | .top => "/"
  | .here => "."
  | .up => ".."
  | .name n => n

/-- The component of a piece that moves. -/
def ofPiece? (piece : String) : Option Component :=
  if isIdle piece then none else if piece = ".." then some .up else some (.name piece)

/-- Can the component lead out of the directory that a path is looked up in? -/
def escapes : Component → Bool
  | .top | .up => true
  | .here | .name _ => false

end Component

/-- The components of a path. A single dot is one only where a path starts with it. -/
def components (path : String) : List Component :=
  let start :=
    if isAbsolute path then [.top] else if (pieces path).head? = some "." then [.here] else []
  start ++ (pieces path).filterMap Component.ofPiece?

/-- The way from `root` to a path that begins with the components of `root`. -/
def relative? (root path : String) : Option String :=
  ((components root).isPrefixOf? (components path)).map fun way =>
    "/".intercalate (way.map Component.text)

/-- The path of `name` in the directory `root`. -/
def below (root name : String) : String :=
  if root = "" ∨ root.toList.getLast? = some '/' then root ++ name else root ++ "/" ++ name

/-- The path that is reached from `root` by going down names. -/
def down (root : String) (names : List String) : String := names.foldl below root

/-- The path of the directory that the last name of a path is in; no text stands for the working
directory. A path without a name has none. -/
def parent? (path : String) : Option String :=
  match pieces path with
  | [] => none
  | first :: rest =>
    match rest.reverse.dropWhile isIdle with
    | [] => if first = "" then none else some ""
    | _ :: above =>
      let above := (above.dropWhile isIdle).reverse
      some (if first = "" ∧ above = [] then "/" else "/".intercalate (first :: above))

end PageTemplate.Path
