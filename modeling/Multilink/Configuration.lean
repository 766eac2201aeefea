import Multilink.Settings
import Multilink.Toml.Document
import Multilink.Toml.Writer
/-!
# Configurations

A configuration holds the settings of a node and the peers that it knows from the start. It is kept
as a TOML document: `Configuration.read?` reads one and `Configuration.write?` writes one. What a
document says about a peer is text; `PeerEntry.parse` finds the address and the media.
-/

namespace Multilink

/-- A peer as a configuration describes it. -/
structure PeerEntry where
  name : String
  /-- The hardware address, as text. -/
  address : String
  /-- The names of the media that the peer can be reached on. -/
  media : List String := []
  deriving DecidableEq, Repr

/-- What can be wrong with the description of a peer. -/
inductive PeerFault where
  /-- The address is none. -/
  | address (text : String)
  /-- There is no such medium. -/
  | media (name : String)
  /-- There are no media. -/
  | silent
  deriving DecidableEq, Repr

/-- Why a configuration is not acceptable. -/
inductive ConfigurationError where
  /-- A setting is not acceptable. -/
  | settings (e : Error)
  /-- There is no room for all peers. -/
  | crowded (peers room : Nat)
  /-- Something is wrong with the description of a peer. -/
  | peer (name : String) (fault : PeerFault)
  /-- A peer has the address of the node itself. -/
  | ownAddress (name : String) (address : Address)
  deriving DecidableEq, Repr

/-- The wording of what is wrong with the description of a peer. -/
def PeerFault.message (name : String) : PeerFault → String
  | address text => "peer '" ++ name ++ "': " ++ Address.malformed text
  | media medium => "peer '" ++ name ++ "': " ++ Media.unknownName medium
  | silent => "peer '" ++ name ++ "' lists no media"

/-- The wording of what is wrong with a configuration. -/
def ConfigurationError.message : ConfigurationError → String
  | settings e => e.message
  | crowded peers room =>
    Numeral.decimal peers ++ " peers configured but node.peer_capacity is " ++ Numeral.decimal room
  | peer name fault => fault.message name
  | ownAddress name address => "peer '" ++ name ++ "' uses the local address " ++ address.text

namespace PeerEntry

/-- The media with these names. -/
def readMedia : List String → Except PeerFault (List Media)
  | [] => .ok []
  | name :: rest =>
    match Media.ofName? name with
    | none => .error (.media name)
    | some m => (readMedia rest).map (m :: ·)

/-- The address and the media of a peer. -/
def parse (p : PeerEntry) : Except PeerFault (Address × MediaSet) := do
  match Address.read? p.address with
  | none => .error (.address p.address)
  | some address =>
    let media ← readMedia p.media
    if (MediaSet.ofList media).isEmpty then .error .silent else .ok (address, .ofList media)

/-- Reads the description of a peer: a record, or a list of name, address and perhaps media. -/
def ofData? : Data → Option PeerEntry
  | .record entries => do
    let name ← (← entries.lookup "name").text?
    let address ← (← entries.lookup "address").text?
    let media ← Data.entry? entries "media" (Data.list? Data.text?) []
    pure { name, address, media }
  | .list [name, address] => do
    pure { name := ← name.text?, address := ← address.text? }
  | .list (name :: address :: media :: _) => do
    pure { name := ← name.text?, address := ← address.text?, media := ← media.list? Data.text? }
  | _ => none

/-- The description of a peer as entries. -/
def toEntries (p : PeerEntry) : List (String × Data) :=
  [("name", .text p.name), ("address", .text p.address), ("media", .list (p.media.map .text))]

end PeerEntry

/-- The settings of a node with the peers that it knows from the start. -/
structure Configuration where
  settings : Settings := {}
  peers : List PeerEntry := []
  deriving DecidableEq, Repr

namespace Configuration

/-! ## Documents -/

/-- Reads a configuration. Whatever is missing has its default. -/
def ofData? (d : Data) : Option Configuration := do
  let settings ← Settings.ofData? d
  let peers ←
    match d with
    | .record entries => Data.entry? entries "peers" (Data.list? PeerEntry.ofData?) []
    | _ => some []
  pure { settings, peers }

/-- Reads a document. -/
def read? (s : String) : Option Configuration :=
  (Toml.Document.parse? s).bind ofData?

/-- The blocks of a document: the sections of the settings and then the peers. -/
def blocks (c : Configuration) : List Toml.Block :=
  (c.settings.sections.map fun (name, entries) => { several := false, name, entries })
    ++ c.peers.map fun p => { several := true, name := "peers", entries := p.toEntries }

/-- Writes a document, if every number in it has a written form. -/
def write? (c : Configuration) : Option String :=
  Toml.writeBlocks c.blocks

/-! ## Checking -/

/-- Checks the description of a peer of the node with this address. -/
def checkPeer (own : Address) (p : PeerEntry) : Except ConfigurationError Unit := do
  let (address, _) ← p.parse.mapError (.peer p.name)
  if address = own then .error (.ownAddress p.name address) else .ok ()

/-- Checks a configuration: the settings, the room for peers, and then peer after peer. -/
def check (c : Configuration) : Except ConfigurationError Unit := do
  c.settings.check.mapError .settings
  if c.settings.node.peerCapacity < c.peers.length then
    .error (.crowded c.peers.length c.settings.node.peerCapacity)
  else
    let own ← c.settings.address.mapError .settings
    c.peers.forM (checkPeer own)

end Configuration

end Multilink
