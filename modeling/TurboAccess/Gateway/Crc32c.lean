import TurboAccess.Gateway.Types

/-!
# CRC-32C

The checksum of the data paths, computed with a table over the reflected
Castagnoli polynomial.
-/

namespace TurboAccess
namespace Gateway

/-- The reflected Castagnoli polynomial. -/
def crc32cPoly : UInt32 := 0x82F63B78

/-- One step of filling the table. -/
def crc32cShift (word : UInt32) : UInt32 :=
  if word &&& 1 ≠ 0 then (word >>> 1) ^^^ crc32cPoly else word >>> 1

/-- The table entry at an index below 256. -/
def crc32cTable (index : UInt32) : UInt32 := Nat.repeat crc32cShift 8 index

def crc32cInit : UInt32 := 0xFFFFFFFF

/-- Feed bytes into a checksum, one table lookup each. -/
def crc32cUpdate (state : UInt32) (data : Bytes) : UInt32 :=
  data.foldl
    (fun state byte =>
      (state >>> 8) ^^^ crc32cTable ((state ^^^ byte.toUInt32) &&& 0xFF))
    state

def crc32cFinalize (state : UInt32) : UInt32 := state ^^^ 0xFFFFFFFF

/-- Checksum of a byte string. -/
def crc32c (data : Bytes) : UInt32 :=
  crc32cFinalize (crc32cUpdate crc32cInit data)

end Gateway
end TurboAccess
