import Multilink.Toml.Value
/-!
# TOML documents

A document is read line by line. A line holds nothing but a comment, a key with a value, or a header
that opens a table. `Document.parse?` is the reader of whole documents.
-/

namespace Multilink.Toml

/-- A line that says something; a value may reach over several lines. -/
inductive Line where
  /-- A key with a value. -/
  | define (path : List String) (key : String) (d : Data)
  /-- A header in single brackets, or in double ones. -/
  | header (several : Bool) (path : List String) (key : String)

/-- A header in single brackets. -/
def singleHeader : Scan Line := do
  Scan.exactly '['
  let (path, last) ← key
  Scan.exactly ']'
  pure (.header false path last)

/-- A header in double brackets. -/
def doubleHeader : Scan Line := do
  Scan.word ['[', '[']
  let (path, last) ← key
  Scan.word [']', ']']
  pure (.header true path last)

/-- A key with a value. -/
def definition : Scan Line := do
  let ((path, last), d) ← assignment (value depthLimit)
  pure (.define path last d)

/-- A line that says something, with its end. -/
def spokenLine : Scan Line := do
  let l ← doubleHeader <|> singleHeader <|> definition
  lineRest
  pure l

/-- A line without anything, or with a comment. -/
def silentLine : Scan Unit :=
  newline <|> do
    comment
    lineEnd

/-- All lines of a document that say something. A byte order mark may stand in front. -/
def lines : Scan (List Line) := do
  let _ ← Scan.optional (Scan.exactly (Char.ofNat 0xFEFF))
  blanks
  let ls ← Scan.many do
    let l ← (some <$> spokenLine) <|> ((fun _ => none) <$> silentLine)
    blanks
    pure l
  Scan.finish
  pure (ls.filterMap id)

/-- A document that is read: the tables that are closed, and the one that is open. -/
structure Document where
  /-- The table that holds all others. -/
  root : Table := .empty
  /-- The header of the open table, if it is not the root itself. -/
  header : Option (Bool × List String × String) := none
  /-- The open table. -/
  current : Table := .empty

namespace Document

/-- Closes the open table: the root with all tables. -/
def closed? (d : Document) : Option Table :=
  match d.header with
  | none => some d.current
  | some (several, path, last) => d.root.close several path last d.current

/-- What a line does. -/
def apply (d : Document) : Line → Option Document
  | .define path last v => (d.current.define path last v).map fun t => { d with current := t }
  | .header several path last => do
    let root ← d.closed?
    let current ←
      if several then (if root.extendable path last then some .empty else none)
      else root.open? path last
    pure { root, current, header := some (several, path, last) }

/-- The data of a document. -/
def parse? (s : String) : Option Data := do
  let ls ← Scan.all? lines s.toList
  let d ← ls.foldlM apply {}
  let root ← d.closed?
  pure root.toData

end Document

end Multilink.Toml
