import Multilink.Command.Frames
import Multilink.Command.Simulation
/-!
# Running commands

A command first finds the configuration. One that the arguments name has to be there; one at its
usual place is made if it is missing. Nothing is done under a configuration that is not acceptable,
except writing the defaults over it.
-/

namespace Multilink.Program

variable {m : Type → Type} [Monad m] [Files m]

/-- The usual place of the configuration below the folder for configurations. -/
def usualPath (configurations : String) : String :=
  configurations ++ "/sdp/config.toml"

/-- Writes a configuration, and makes the folder that it lies in. -/
def save (c : Configuration) (path : String) : m (Except Failure Unit) := do
  match c.write? with
  | none => pure (.error .unwritable)
  | some text =>
    let folder := Path.parent path
    let made ← if folder = "" then pure (.ok ()) else Files.makeFolder folder
    match made with
    | .error e => pure (.error (.file e))
    | .ok () => do
      let written ← Files.write path text
      pure (written.mapError .file)

/-- The configuration that a document holds. -/
def ofDocument (text : String) : Except Failure Configuration :=
  match Configuration.read? text with
  | some c => .ok c
  | none => .error .malformed

/-- Finds the configuration. -/
def load (named : Option String) (configurations : String) : m (Except Failure Configuration) := do
  let path := named.getD (usualPath configurations)
  if ← Files.isThere path then
    let text ← Files.read path
    pure (text.mapError .file >>= ofDocument)
  else
    match named with
    | none => do
      let saved ← save {} path
      pure (saved.map fun _ => {})
    | some _ => do
      let text ← Files.read path
      pure (text.mapError (.reading path) >>= ofDocument)

/-- Writes the defaults. -/
def writeDefaults (path : String) (overwrite : Bool) : m (Except Failure (List String)) := do
  let there ← Files.isThere path
  if there && !overwrite then pure (.error (.alreadyThere path))
  else
    let saved ← save {} path
    pure (saved.map fun _ => ["Wrote default configuration to " ++ path])

/-- The line about a peer. -/
def peerLine (p : PeerEntry) : Except Failure String := do
  let (address, media) ← p.parse.mapError fun fault => .configuration (.peer p.name fault)
  pure (Columns.left 16 p.name ++ " " ++ address.text ++ " " ++ media.text)

/-- The lines about all peers. -/
def peerLines (c : Configuration) : Except Failure (List String) :=
  if c.peers.isEmpty then .ok ["No peers provisioned"]
  else do
    let lines ← c.peers.mapM peerLine
    pure ((Columns.left 16 "NAME" ++ " " ++ Columns.left 18 "ADDRESS" ++ " MEDIA") :: lines)

/-- Carries out what is asked under a configuration. -/
def perform (c : Configuration) : Request → Outcome
  | .simulate plan => Simulation.run c.settings plan
  | .encode kind conversation fields => .ofLines [Frames.encode kind conversation fields]
  | .decode text => .ofResult (Frames.decode text)
  | .showConfiguration =>
    match c.write? with
    | some text => { output := text }
    | none => .ofLines [] (some .unwritable)
  | .listPeers => .ofResult (peerLines c)
  | .writeDefaults _ => {}

/-- Carries out an invocation. -/
def carryOut (configurations : String) (i : Invocation) : m Outcome := do
  match i.request with
  | .writeDefaults overwrite => do
    let path := i.configuration.getD (usualPath configurations)
    return .ofResult (← writeDefaults path overwrite)
  | r =>
    match ← load i.configuration configurations with
    | .error f => return .ofLines [] (some f)
    | .ok c =>
      match c.check with
      | .error e => return .ofLines [] (some (.configuration e))
      | .ok () => return perform c r

/-- The line that tells how the program is used. -/
def usage : String :=
  "Usage: sdp [--verbose] [--config PATH] <simulate|frame|config|peers|help> ..."

/-- Runs the program with arguments, where configurations usually lie in a folder. -/
def run (configurations : String) (arguments : List String) : m Outcome := do
  match Request.read arguments with
  | .ok i => carryOut configurations i
  | .error .help => return .ofLines [usage]
  | .error .version => return .ofLines ["sdp 0.4.0"]
  | .error (.usage e) =>
    return { report := Lines.join ["error: " ++ e.message, "", usage], status := 2 }

end Multilink.Program
