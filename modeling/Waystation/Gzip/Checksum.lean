import Waystation.Bytes
/-!
The 32-bit cyclic redundancy check of gzip: the remainder of the message as a polynomial over the
field of two elements, with bits reflected, the register starting and ending inverted.
-/
namespace Waystation.Gzip

/-- Divides one bit out of the register. -/
def crcShift (r : UInt32) : UInt32 :=
  if r &&& 1 = 1 then (r >>> 1) ^^^ 0xEDB88320 else r >>> 1

/-- What eight shifts make of each low byte. -/
def crcTable : Array UInt32 :=
  (Array.range 256).map fun i => (List.range 8).foldl (fun r _ => crcShift r) (UInt32.ofNat i)

/-- Takes one byte into the register. -/
def crcStep (r : UInt32) (b : UInt8) : UInt32 :=
  crcTable.getD ((r ^^^ b.toUInt32) &&& 0xFF).toNat 0 ^^^ (r >>> 8)

def crc32 (bs : Bytes) : UInt32 := bs.foldl crcStep 0xFFFFFFFF ^^^ 0xFFFFFFFF

end Waystation.Gzip
