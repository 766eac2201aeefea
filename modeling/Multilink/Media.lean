/-!
# Media

The seven physical media a node can speak on, and sets of them. A medium is one bit on the wire,
so what a node can speak fits in one byte.
-/

namespace Multilink

/-- Two texts that agree up to the case of ASCII letters. -/
def sameIgnoringCase (a b : String) : Bool :=
  a.toList.map Char.toLower == b.toList.map Char.toLower

/-- A physical medium. -/
inductive Media where
  /-- Short-range radio. -/
  | radioShort
  | radioMesh
  /-- Long-range radio. -/
  | radioLong
  /-- Cellular modem. -/
  | cellular
  | busI2c
  | busCan
  /-- TTL serial line. -/
  | busTtl
  deriving DecidableEq, Repr

namespace Media

/-- Every medium, in the order of their bits. -/
def all : List Media :=
  [radioShort, radioMesh, radioLong, cellular, busI2c, busCan, busTtl]

/-- The bit of this medium in a set of media. -/
def bit : Media → UInt8
  | radioShort => 0x01
  | radioMesh => 0x02
  | radioLong => 0x04
  | cellular => 0x08
  | busI2c => 0x10
  | busCan => 0x20
  | busTtl => 0x40

/-- The rank that decides between media of equal score: wired before long range before short
range. -/
def priority : Media → Nat
  | busCan => 7
  | busI2c => 6
  | busTtl => 5
  | radioLong => 4
  | cellular => 3
  | radioMesh => 2
  | radioShort => 1

/-- Is this one of the wired buses? -/
def wired : Media → Bool
  | busI2c | busCan | busTtl => true
  | _ => false

/-- The name used in texts and configurations. -/
def name : Media → String
  | radioShort => "radio-short"
  | radioMesh => "radio-mesh"
  | radioLong => "radio-long"
  | cellular => "cellular"
  | busI2c => "bus-i2c"
  | busCan => "bus-can"
  | busTtl => "bus-ttl"

/-- The medium with this bit. -/
def ofBit? (b : UInt8) : Option Media :=
  all.find? (·.bit == b)

/-- The medium with this name, in any case. -/
def ofName? (s : String) : Option Media :=
  all.find? fun m => sameIgnoringCase m.name s

/-- What is reported for a name that no medium has. -/
def unknownName (s : String) : String :=
  "unknown media type: " ++ s

end Media

/-- A set of media, one bit each; the eighth bit is never set. -/
structure MediaSet where
  /-- The bits of the members. -/
  bits : UInt8
  deriving DecidableEq, Repr

namespace MediaSet

/-- No media. -/
def empty : MediaSet := ⟨0⟩

/-- The set with these bits; a bit that no medium has is dropped. -/
def ofBits (b : UInt8) : MediaSet := ⟨b &&& 0x7F⟩

/-- Is `m` a member? -/
def contains (s : MediaSet) (m : Media) : Bool :=
  s.bits &&& m.bit != 0

/-- Adds a medium. -/
def insert (s : MediaSet) (m : Media) : MediaSet :=
  ⟨s.bits ||| m.bit⟩

/-- Takes a medium out. -/
def erase (s : MediaSet) (m : Media) : MediaSet :=
  ⟨s.bits &&& ~~~m.bit⟩

/-- The media in both sets. -/
def inter (s t : MediaSet) : MediaSet :=
  ⟨s.bits &&& t.bits⟩

/-- Has the set no member? -/
def isEmpty (s : MediaSet) : Bool :=
  s.bits == 0

/-- The members, in the order of their bits. -/
def toList (s : MediaSet) : List Media :=
  Media.all.filter s.contains

/-- The set of one medium. -/
def singleton (m : Media) : MediaSet := ⟨m.bit⟩

/-- The set of the media in a list. -/
def ofList (ms : List Media) : MediaSet :=
  ms.foldl insert empty

/-- The names of the members between bars, or `none`. -/
def text (s : MediaSet) : String :=
  match s.toList with
  | [] => "none"
  | ms => "|".intercalate (ms.map Media.name)

end MediaSet

end Multilink
