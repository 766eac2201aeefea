import Multilink.Command.Arguments
import Multilink.Configuration
import Multilink.Files
import Multilink.Text.Lines
import Multilink.Text.Quoted
/-!
# Outcomes of commands

A command prints a text and ends in success or in a failure. A failure has a wording, and perhaps
the causes behind it; what was printed before stays.
-/

namespace Multilink

/-- Why a command fails. -/
inductive Failure where
  /-- A document is no configuration. -/
  | malformed
  /-- A configuration is not acceptable. -/
  | configuration (e : ConfigurationError)
  /-- A file cannot be read or written. -/
  | file (e : FileError)
  /-- The file that the arguments name cannot be read. -/
  | reading (path : String) (e : FileError)
  /-- There is a file that is not to be overwritten. -/
  | alreadyThere (path : String)
  /-- A number of the configuration is too large for a document. -/
  | unwritable
  /-- A text is no address. -/
  | address (text : String)
  /-- The simulated peer has the address of the node itself. -/
  | ownAddress (own : Address)
  /-- A text is not the hexadecimal form of a frame. -/
  | hex (e : Bytes.HexError)
  /-- Bytes are no frame. -/
  | frame (e : FrameError)
  /-- An operation of a node fails. -/
  | node (e : Error)
  deriving DecidableEq, Repr

/-- The wording of what is wrong with a hexadecimal text. -/
def Bytes.HexError.message : Bytes.HexError → String
  | oddLength => "Odd number of digits"
  | notDigit found position =>
    "Invalid character " ++ Quoted.char (Char.ofNat found.toNat) ++ " at position "
      ++ Numeral.decimal position

/-- What is behind an error that another module reported first. -/
def Error.causes : Error → List String
  | .frame e => [e.message]
  | .link (.device text) => [LinkError.message (.device text), text]
  | .link e => [e.message]
  | .queue e => [e.message]
  | _ => []

namespace Failure

/-- The wording of a failure. -/
def message : Failure → String
  | malformed => "TOML parse error"
  | configuration e => e.message
  | file e => e.message
  | reading path _ => "reading " ++ path
  | alreadyThere path => path ++ " already exists (use --force to overwrite)"
  | unwritable => "a number is too large for a TOML document"
  | address text => Address.malformed text
  | ownAddress own => "peer address must differ from the local address " ++ own.text
  | hex _ => "frame is not valid hex"
  | frame e => e.message
  | node e => e.message

/-- What is behind a failure, each the cause of the one before. -/
def causes : Failure → List String
  | reading _ e => [e.message]
  | hex e => [e.message]
  | configuration (.settings e) => e.causes
  | node e => e.causes
  | _ => []

/-- The causes as lines; several are numbered. -/
def causeLines : List String → List String
  | [] => []
  | [cause] => ["", "Caused by:", "    " ++ cause]
  | several =>
    "" :: "Caused by:"
      :: several.mapIdx fun i cause => "    " ++ Numeral.decimal i ++ ": " ++ cause

/-- The text by which a failure is reported. A malformed document is reported by one line. -/
def text : Failure → String
  | malformed => Lines.join [malformed.message]
  | f => Lines.join (("Error: " ++ f.message) :: causeLines f.causes)

end Failure

/-- How a command ends. -/
structure Outcome where
  /-- What it prints. -/
  output : String := ""
  report : String := ""
  /-- The status it leaves: zero for success, one for a failure, two for wrong arguments, 101 for a
  panic. -/
  status : Nat := 0
  deriving DecidableEq, Repr

namespace Outcome

/-- A command prints some lines and fails, or not. -/
def ofLines (lines : List String) (failure : Option Failure := none) : Outcome :=
  match failure with
  | none => { output := Lines.join lines }
  | some f => { output := Lines.join lines, report := f.text, status := 1 }

/-- A command panics before it has printed anything. -/
def panic : Outcome :=
  { report := Lines.join ["capacity overflow"], status := 101 }

/-- A command ends in lines or a failure. -/
def ofResult : Except Failure (List String) → Outcome
  | .ok lines => ofLines lines
  | .error f => ofLines [] (some f)

end Outcome

end Multilink
