import Multilink.Text.Parts
/-!
# Files

What the command line asks of files, as a class of monads, so that a program over files can run on a
tree of files in memory as well as on the files of a system.
-/

namespace Multilink

/-- Why a file cannot be read or written, or a folder not be made. -/
inductive FileError where
  /-- There is no such file, or no such folder on the way. -/
  | notFound
  /-- There is a file in the place of the folder to be made. -/
  | alreadyThere
  /-- There is a file in the place of a folder on the way. -/
  | notFolder
  /-- There is a folder in the place of the file. -/
  | isFolder
  /-- A name, or the whole path, is longer than a system takes. -/
  | nameTooLong
  /-- Anything else that a system reports. -/
  | other (text : String)
  deriving DecidableEq, Repr

/-- The wording of a file error. -/
def FileError.message : FileError → String
  | notFound => "No such file or directory (os error 2)"
  | alreadyThere => "File exists (os error 17)"
  | notFolder => "Not a directory (os error 20)"
  | isFolder => "Is a directory (os error 21)"
  | nameTooLong => "File name too long (os error 36)"
  | other text => text

namespace Path

/-- The parts of a path between its slashes. -/
def parts (path : String) : List String :=
  (Parts.split (· == '/') path.toList).map String.ofList

/-- The parts of a path without the slashes at its end. -/
def named (path : String) : List String :=
  ((parts path).reverse.dropWhile (· == "")).reverse

/-- Does this part of a path stay where it is? -/
def isIdle (part : String) : Bool :=
  part == "" || part == "."

/-- Does this path begin at the root? -/
def isAbsolute (path : String) : Bool :=
  path.toList.head? == some '/'

/-- Does this path end in a slash, so that it names a folder? -/
def endsInSlash (path : String) : Bool :=
  path.toList.getLast? == some '/'

/-- A path takes at most this many bytes. -/
def maxBytes : Nat := 4095

/-- A name between slashes takes at most this many bytes. -/
def maxNameBytes : Nat := 255

/-- The path of the folder that a path lies in; empty if it is the folder of the program. -/
def parent (path : String) : String :=
  "/".intercalate ((parts path).reverse.dropWhile isIdle).reverse.dropLast

end Path

/-- What can be done with files in a monad. -/
class Files (m : Type → Type) where
  /-- Is there a file or a folder under this path? -/
  isThere : String → m Bool
  /-- The text of a file. -/
  read : String → m (Except FileError String)
  /-- Writes a text to a file, in place of what it held. -/
  write : String → String → m (Except FileError Unit)
  /-- Makes one folder, where there is nothing yet, in a folder that is there. -/
  makeOne : String → m (Except FileError Unit)

namespace Files

variable {m : Type → Type} [Monad m] [Files m]

/-- Is there a folder under this path? -/
def isFolder (path : String) : m Bool :=
  isThere (path ++ "/.")

/-- Makes one folder if it is missing. -/
def ensure (path : String) : m (Except FileError Unit) := do
  match ← makeOne path with
  | .ok () => pure (.ok ())
  | .error e => return if ← isFolder path then .ok () else .error e

/-- Makes a folder, whose parts below a root come innermost first, and those around it as far as
they are missing. They are tried from the inside out, and what is made stays if a later one cannot be
made. -/
def ensureAll (root : String) : List String → m (Except FileError Unit)
  | [] => pure (.ok ())
  | part :: around => do
    let path := root ++ "/".intercalate (part :: around).reverse
    match ← ensure path with
    | .error .notFound =>
      match ← ensureAll root around with
      | .ok () => ensure path
      | failed => pure failed
    | made => pure made

/-- Makes a folder with all folders on the way, as far as they are missing. -/
def makeFolder (path : String) : m (Except FileError Unit) :=
  let steps := (Path.parts path).filter (!Path.isIdle ·)
  ensureAll (if Path.isAbsolute path then "/" else "") steps.reverse

end Files

end Multilink
