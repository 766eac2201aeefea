import Multilink.Bytes
/-!
# Checksums

The 32-bit cyclic checksum that frames carry, and relation ids are made of: polynomial
`0x04C11DB7`, highest bit first, register and result inverted.
-/

namespace Multilink.Checksum

/-- The feedback polynomial, without its highest term. -/
def polynomial : BitVec 32 := 0x04C11DB7#32

/-- Shifts the register by one bit and feeds the bit that fell out back in. -/
def shift (r : BitVec 32) : BitVec 32 :=
  if r.msb then (r <<< 1) ^^^ polynomial else r <<< 1

/-- Shifts the register by the eight bits of one byte. -/
def shiftByte (r : BitVec 32) : BitVec 32 :=
  shift (shift (shift (shift (shift (shift (shift (shift r)))))))

/-- Takes one byte into the register. -/
def absorb (r : BitVec 32) (b : UInt8) : BitVec 32 :=
  shiftByte (r ^^^ (b.toBitVec.zeroExtend 32 <<< 24))

/-- The register after some bytes, started with every bit set. -/
def register (bs : Bytes) : BitVec 32 :=
  bs.foldl absorb (BitVec.allOnes 32)

end Multilink.Checksum

namespace Multilink

/-- The checksum of a byte string. -/
def checksum (bs : Bytes) : UInt32 :=
  ⟨~~~Checksum.register bs⟩

end Multilink
