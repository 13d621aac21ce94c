import ShelfLibrary.Disk.Bytes

/-!
# Checksums

The cyclic redundancy check of 32 bits that Ethernet and ZIP use: bits are taken from the low end,
the register begins with ones, and the result is inverted.
-/

namespace ShelfLibrary.Checksum

/-- The generator polynomial with its bits reversed. -/
def generator : UInt32 := 0xEDB88320

/-- The register moved on by one bit. -/
def shift (register : UInt32) : UInt32 :=
  if register &&& 1 = 1 then (register >>> 1) ^^^ generator else register >>> 1

/-- The register moved on by some bits. -/
def shifts : Nat → UInt32 → UInt32
  | 0, register => register
  | bits + 1, register => shifts bits (shift register)

/-- The register after a byte. -/
def feed (register : UInt32) (byte : UInt8) : UInt32 :=
  shifts 8 (register ^^^ byte.toUInt32)

/-- The checksum of bytes. -/
def ofBytes (bytes : Bytes) : UInt32 :=
  ~~~ bytes.foldl feed 0xFFFFFFFF

/-- The check value of the algorithm. -/
example : ofBytes [0x31, 0x32, 0x33, 0x34, 0x35, 0x36, 0x37, 0x38, 0x39] = 0xCBF43926 := by
  decide +kernel

end ShelfLibrary.Checksum
