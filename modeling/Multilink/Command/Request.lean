import Multilink.Command.Arguments
import Multilink.Kind
import Multilink.Text.Numeral
/-!
# Requests

What can be asked on the command line. `Request.read` reads the arguments of the program.
-/

namespace Multilink

/-- How two nodes are simulated. -/
structure SimulationPlan where
  /-- The number of requests to send. -/
  messages : Nat := 5
  /-- How many sends on the CAN link fail. -/
  failures : Nat := 0
  /-- Is the CAN link down? -/
  linkDown : Bool := false
  /-- Is a priority message sent too? -/
  priority : Bool := false
  /-- Are the awake windows aligned first? -/
  orchestrate : Bool := false
  /-- The address of the peer, as text. -/
  peerAddress : String := "02:00:00:00:00:02"
  deriving DecidableEq, Repr

/-- What is asked. -/
inductive Request where
  /-- To simulate two nodes. -/
  | simulate (plan : SimulationPlan)
  /-- To build a frame. -/
  | encode (kind : Kind) (conversation : UInt16) (fields : List String)
  /-- To tell what a frame says. -/
  | decode (text : String)
  /-- To write a configuration with all defaults, even over another one. -/
  | writeDefaults (overwrite : Bool)
  | showConfiguration
  | listPeers
  deriving DecidableEq, Repr

/-- What is asked, and of which configuration. -/
structure Invocation where
  /-- The path of the configuration, if it is not at its usual place. -/
  configuration : Option String
  /-- Is the log to tell more? -/
  verbose : Bool
  /-- What is asked. -/
  request : Request
  deriving DecidableEq, Repr

namespace Request

/-- A decimal number in an argument. -/
def number? (limit : Nat) (s : String) : Option Nat :=
  match s.toList with
  | '-' :: digits =>
    if digits ≠ [] ∧ digits.all (· == '0') then some 0 else none
  | _ => Numeral.read? 10 limit s

/-- An option whose value is a number. -/
def numberOption (name : String) (letter : Option Char) (limit : Nat) : CommandOption where
  name := name
  letter := letter
  takesValue := true
  accepts s := (number? limit s).isSome

/-- The value of an option for a number. -/
def numberOf (a : Arguments) (name : String) (limit default : Nat) : Nat :=
  ((a.value? name).bind (number? limit)).getD default

/-- The first word, which has to be there. -/
def firstWord (a : Arguments) (name : String) : Except Interruption String :=
  match a.words.head? with
  | some w => .ok w
  | none => .error (.usage (.missingWord name))

/-- The largest count that an argument can give. -/
def countLimit : Nat := 0xFFFFFFFF

/-- The largest number of a conversation. -/
def conversationLimit : Nat := 0xFFFF

/-- The options for the simulation. -/
def simulationShape : CommandShape where
  options :=
    [numberOption "messages" (some 'm') countLimit, numberOption "fail" none countLimit,
     { name := "link-down" }, { name := "priority" }, { name := "orchestrate" },
     { name := "peer-address", takesValue := true }]

/-- Reads what to simulate. -/
def readSimulation (arguments : List String) : Except Interruption Request := do
  let a ← Arguments.read simulationShape arguments
  let default : SimulationPlan := {}
  pure <| .simulate
    { messages := numberOf a "messages" countLimit default.messages
      failures := numberOf a "fail" countLimit default.failures
      linkDown := a.has "link-down"
      priority := a.has "priority"
      orchestrate := a.has "orchestrate"
      peerAddress := (a.value? "peer-address").getD default.peerAddress }

/-- Reads what frame to build. -/
def readEncode (arguments : List String) : Except Interruption Request := do
  let kind : CommandOption :=
    { name := "work-type", letter := some 't', takesValue := true,
      accepts := fun s => (Kind.ofName? s).isSome }
  let a ← Arguments.read
    { options := [kind, numberOption "conversation" (some 'i') conversationLimit], words := .any }
    arguments
  pure <| .encode (((a.value? "work-type").bind Kind.ofName?).getD .data)
    (UInt16.ofNat (numberOf a "conversation" conversationLimit 0)) a.words

/-- Reads which frame is meant. -/
def readDecode (arguments : List String) : Except Interruption Request := do
  let a ← Arguments.read { words := .upTo 1 } arguments
  .decode <$> firstWord a "<HEX>"

/-- Reads that the defaults are to be written. -/
def readDefaults (arguments : List String) : Except Interruption Request := do
  let a ← Arguments.read { options := [{ name := "force" }] } arguments
  pure (.writeDefaults (a.has "force"))

/-- Reads a request that takes no arguments. -/
def readBare (r : Request) (arguments : List String) : Except Interruption Request := do
  let _ ← Arguments.read {} arguments
  pure r

/-- What reads the arguments of a command that is carried out. -/
abbrev Reader := List String → Except Interruption Request

/-- A command of the program. -/
inductive Command where
  /-- One that is carried out. -/
  | single (read : Reader)
  /-- One with subcommands. -/
  | group (subcommands : List (String × Reader))

/-- All commands by their names. -/
def commands : List (String × Command) :=
  [("simulate", .single readSimulation),
   ("frame", .group [("encode", readEncode), ("decode", readDecode)]),
   ("config", .group [("init", readDefaults), ("show", readBare .showConfiguration)]),
   ("peers", .single (readBare .listPeers))]

/-- Answers a request for help on one of these commands. -/
def helpOn (names : List String) : List String → Interruption
  | [] => .help
  | [word] => if word ∈ "help" :: names then .help else .usage (.unknownWord word)
  | _ :: word :: _ => .usage (.unknownWord word)

/-- Answers a request for help on a command or a subcommand. -/
def help (words : List String) : Interruption :=
  match words.head?.bind fun word => commands.lookup word with
  | some (.group subcommands) => helpOn (subcommands.map (·.1)) words.tail
  | _ => helpOn (commands.map (·.1)) words

/-- Reads the subcommand that the arguments name, with its own arguments. -/
def readSubcommand (subcommands : List (String × Reader)) : Reader := fun arguments => do
  let a ← Arguments.read { words := .subcommand } arguments
  let word ← firstWord a "<COMMAND>"
  match subcommands.lookup word with
  | some read => read a.rest
  | none =>
    .error (if word = "help" then helpOn (subcommands.map (·.1)) a.rest
      else .usage (.unknownWord word))

/-- Reads the command with this name. -/
def readCommand (word : String) : Reader := fun arguments =>
  match commands.lookup word with
  | some (.single read) => read arguments
  | some (.group subcommands) => readSubcommand subcommands arguments
  | none => .error (if word = "help" then help arguments else .usage (.unknownWord word))

/-- The options of the program itself. -/
def programShape : CommandShape where
  options :=
    [{ name := "verbose", letter := some 'v' },
     { name := "config", letter := some 'c', takesValue := true, accepts := (· ≠ "") },
     { name := "version", letter := some 'V' }]
  words := .subcommand

/-- Reads the arguments of the program. -/
def read (arguments : List String) : Except Interruption Invocation := do
  let a ← Arguments.read programShape arguments
  let word ← firstWord a "<COMMAND>"
  let request ← readCommand word a.rest
  pure { configuration := a.value? "config", verbose := a.has "verbose", request }

end Request

end Multilink
