import Multilink.Command.Run
/-!
# The program

The command line on the files of the system.
-/

namespace Multilink

/-- The number of an error, which some calls of the system give below zero. -/
def errorNumber (code : UInt32) : UInt32 :=
  min code (-code)

/-- An error of the system as a file error. -/
def fileError : IO.Error → FileError
  | .noFileOrDirectory .. => .notFound
  | .alreadyExists .. => .alreadyThere
  | .inappropriateType _ code _ => if errorNumber code = 20 then .notFolder else .isFolder
  | e@(.invalidArgument _ code _) =>
    if errorNumber code = 36 then .nameTooLong else .other (toString e)
  | e => .other (toString e)

/-- An action on files, with its error as a value. -/
def attemptFile {α : Type} (x : IO α) : BaseIO (Except FileError α) := do
  return (← x.toBaseIO).mapError fileError

instance : Files BaseIO where
  isThere path := do
    match ← (IO.FS.Handle.mk path .read).toBaseIO with
    | .ok _ => return true
    | .error e => return !(fileError e matches .notFound | .notFolder | .nameTooLong)
  read path := attemptFile (IO.FS.readFile path)
  write path text := attemptFile (IO.FS.writeFile path text)
  makeOne path := attemptFile (IO.FS.createDir path)

/-- The folder for configurations. -/
def configurationFolder : BaseIO String := do
  match ← IO.getEnv "XDG_CONFIG_HOME", ← IO.getEnv "HOME" with
  | some folder, home =>
    if folder.startsWith "/" then return folder
    return (home.map (· ++ "/.config")).getD "/tmp"
  | none, some home => return home ++ "/.config"
  | none, none => return "/tmp"

end Multilink

open Multilink in
/-- Runs the program with the arguments of its process. -/
def main (arguments : List String) : IO UInt32 := do
  let folder ← configurationFolder
  let outcome ← (Program.run folder arguments : BaseIO Outcome)
  IO.print outcome.output
  IO.eprint outcome.report
  return UInt32.ofNat outcome.status
