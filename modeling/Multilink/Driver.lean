import Multilink.Error
/-!
# Drivers

What the engine asks of a driver, over a world `W` that drivers act on: the air, the wires, the
nodes at the other ends. Nothing is assumed about it, so what is proved of the engine holds whatever
its drivers do.
-/

namespace Multilink

/-- A driver for one or more media. -/
structure Driver (W : Type) where
  /-- Does it carry this medium? -/
  carries : Media → Bool
  /-- The longest frame that it takes. -/
  maxFrame : W → Nat
  /-- Sends one frame to an address on a medium. -/
  send : Address → Media → Bytes → W → Except LinkError Unit × W
  /-- The speed last measured towards an address, in bytes a second. -/
  speed? : Address → W → Option UInt32

namespace Driver

variable {V W : Type}

/-- A driver that acts on one part of the world. -/
def onPart (part : W → V) (put : W → V → W) (d : Driver V) : Driver W where
  carries := d.carries
  maxFrame w := d.maxFrame (part w)
  send target media bytes w :=
    let (r, v) := d.send target media bytes (part w)
    (r, put w v)
  speed? target w := d.speed? target (part w)

/-- The longest frame of a driver that sets no limit: what a 64-bit length can say. -/
def unlimited : Nat := 0xFFFFFFFFFFFFFFFF

/-- A driver for one medium whose frames all vanish. -/
def sink (media : Media) : Driver W where
  carries m := m == media
  maxFrame _ := unlimited
  send _ _ _ w := (.ok (), w)
  speed? _ _ := none

end Driver

/-- What a driver has carried. -/
structure Traffic where
  bytesSent : UInt64 := 0
  bytesReceived : UInt64 := 0
  framesSent : Nat := 0
  framesReceived : Nat := 0
  /-- The sends that failed. -/
  sendErrors : Nat := 0
  /-- The receives that failed. -/
  recvErrors : Nat := 0
  deriving DecidableEq, Repr

namespace Traffic

/-- Notes a frame sent. -/
def sent (length : Nat) (t : Traffic) : Traffic :=
  { t with bytesSent := t.bytesSent + UInt64.ofNat length, framesSent := t.framesSent + 1 }

/-- Notes a frame received. -/
def received (length : Nat) (t : Traffic) : Traffic :=
  { t with
    bytesReceived := t.bytesReceived + UInt64.ofNat length
    framesReceived := t.framesReceived + 1 }

/-- Notes a send that failed. -/
def sendFailed (t : Traffic) : Traffic :=
  { t with sendErrors := t.sendErrors + 1 }

/-- Notes a receive that failed. -/
def recvFailed (t : Traffic) : Traffic :=
  { t with recvErrors := t.recvErrors + 1 }

end Traffic

end Multilink
