import Multilink.Files
/-!
# Trees of files

A tree of files in memory, in which a program can run as on the files of a system. A *place* is a
list of names from the root on. A path is walked part by part, and all that is stepped through has
to be a folder, so that `a/..` leads nowhere if there is no `a`.
-/

namespace Multilink

/-- What is at a place of a tree. -/
inductive FileNode where
  | folder
  /-- A file with its text. -/
  | file (text : String)
  /-- A device that is always empty and forgets what is written to it. -/
  | void
  deriving DecidableEq, Repr

/-- A tree of files, with a folder in which a program works. -/
structure FileTree where
  /-- The place of the working folder, where relative paths begin. -/
  origin : List String := []
  /-- What there is beside the root, the working folder and the folders between. -/
  nodes : List (List String × FileNode) := []
  deriving Repr

namespace FileTree

/-- What there is at a place. -/
def node? (t : FileTree) (place : List String) : Option FileNode :=
  if place.isPrefixOf t.origin then some .folder else t.nodes.lookup place

/-- Puts something at a place. -/
def put (place : List String) (node : FileNode) (t : FileTree) : FileTree :=
  { t with nodes := (place, node) :: t.nodes.filter (·.1 != place) }

/-- A tree whose working folder holds some files, given by their names and texts. Outside of it
there is the empty device alone. -/
def ofFiles (folder : String) (files : List (String × String)) : FileTree :=
  let origin := (Path.parts folder).filter (!Path.isIdle ·)
  { origin
    nodes := (["dev"], .folder) :: (["dev", "null"], .void)
      :: files.map fun (name, text) => (origin ++ [name], .file text) }

/-! ## Walking -/

/-- The place one step on from a folder. -/
def step (place : List String) (part : String) : List String :=
  if Path.isIdle part then place
  else if part = ".." then place.dropLast
  else place ++ [part]

/-- Steps on from a place, which has to be a folder. -/
def enter (t : FileTree) (place : List String) (part : String) : Except FileError (List String) :=
  match t.node? place with
  | none => .error .notFound
  | some .folder =>
    if Path.maxNameBytes < part.utf8ByteSize then .error .nameTooLong else .ok (step place part)
  | some _ => .error .notFolder

/-- Where a path begins. -/
def start (t : FileTree) (path : String) : List String :=
  if Path.isAbsolute path then [] else t.origin

/-- The place that the parts of a path lead to. -/
def walk (t : FileTree) (start parts : List String) : Except FileError (List String) :=
  parts.foldlM t.enter start

/-- The place that some parts of a path lead to from where it begins. -/
def locate (t : FileTree) (path : String) (parts : List String) : Except FileError (List String) :=
  if Path.maxBytes < path.utf8ByteSize then .error .nameTooLong else t.walk (t.start path) parts

/-! ## Files -/

/-- Is there a file or a folder under this path? -/
def isThere (t : FileTree) (path : String) : Bool :=
  match t.locate path (Path.parts path) with
  | .ok place => (t.node? place).isSome
  | .error _ => false

/-- The text of a file. -/
def read (t : FileTree) (path : String) : Except FileError String := do
  match t.node? (← t.locate path (Path.parts path)) with
  | none => .error .notFound
  | some .folder => .error .isFolder
  | some (.file text) => .ok text
  | some .void => .ok ""

/-- Writes a file. What is before the slashes at the end of a path has to be a place where a file
can be, yet no file can be made there: the path names a folder. -/
def write (t : FileTree) (path text : String) : Except FileError FileTree := do
  let place ← t.locate path (Path.named path)
  if Path.endsInSlash path then .error .isFolder
  else
    match t.node? place with
    | some .folder => .error .isFolder
    | some .void => .ok t
    | _ => .ok (t.put place (.file text))

/-- Makes one folder. What it is to lie in has to be there. -/
def makeOne (t : FileTree) (path : String) : Except FileError FileTree := do
  let place ← t.locate path (Path.named path)
  if (t.node? place).isSome then .error .alreadyThere else .ok (t.put place .folder)

/-- An attempt to change a tree, which leaves it as it is if it fails. -/
def attempt (f : FileTree → Except FileError FileTree) : StateM FileTree (Except FileError Unit) :=
  fun t =>
    match f t with
    | .ok t => (.ok (), t)
    | .error e => (.error e, t)

instance : Files (StateM FileTree) where
  isThere path := fun t => (t.isThere path, t)
  read path := fun t => (t.read path, t)
  write path text := attempt (·.write path text)
  makeOne path := attempt (·.makeOne path)

end FileTree

end Multilink
