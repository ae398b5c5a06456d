import Waystation.Gzip.Checksum
import Waystation.Gzip.Deflate
/-!
Gzip members: a header, a deflate stream, and a trailer with the checksum and the length of what was
compressed. A reader takes one member and ignores what follows it. It refuses output beyond a limit:
it inflates in windows and opens a window only while the limit lies in or behind it, so that the
trailer of an output beyond the limit is never looked at.
-/
namespace Waystation.Gzip

/-- Why bytes are not a gzip member. -/
inductive MemberFault
  | unexpectedEnd
  | badHeader
  | longHeaderField
  | corrupt
  | incomplete
  | checksum
  deriving DecidableEq, Repr

def MemberFault.message : MemberFault → String
  | unexpectedEnd => "unexpected end of file"
  | badHeader => "invalid gzip header"
  | longHeaderField => "gzip header field too long"
  | corrupt => "corrupt deflate stream"
  | incomplete => "incomplete deflate stream"
  | checksum => "corrupt gzip stream does not have a matching checksum"

/-- The bytes every member starts with. -/
def magic : Bytes := [0x1f, 0x8b]

/-- The header that is written: deflate, no flags, no time, best compression, no known system. -/
def writtenHeader : Bytes := magic ++ [0x08, 0x00, 0x00, 0x00, 0x00, 0x00, 0x02, 0xff]

/-- Compresses into one member. -/
def compress (input : Bytes) : Bytes :=
  writtenHeader ++ deflate input ++ Bytes.ofWord32 (crc32 input)
    ++ Bytes.ofWord32 (UInt32.ofNat input.length)

/-- Splits off `n` bytes. -/
def takeBytes (n : Nat) (bs : Bytes) : Except MemberFault (Bytes × Bytes) :=
  if bs.length < n then .error .unexpectedEnd else .ok (bs.take n, bs.drop n)

/-- The longest name or comment in a header. -/
def maxHeaderField : Nat := 65535

/-- Splits at the first zero byte, which is dropped. -/
def takeField (bs : Bytes) : Except MemberFault (Bytes × Bytes) :=
  let field := bs.takeWhile (· ≠ 0)
  if maxHeaderField < field.length then .error .longHeaderField
  else match bs.drop field.length with
    | [] => .error .unexpectedEnd
    | _ :: rest => .ok (field, rest)

/-- Is a flag of the header set? -/
def hasFlag (flags : UInt8) (bit : Nat) : Bool := flags.toNat.testBit bit

/-- Passes over a header. An optional checksum covers all of the header before it. -/
def skipHeader (bs : Bytes) : Except MemberFault Bytes := do
  let (fixed, rest) ← takeBytes 10 bs
  if fixed.take 2 ≠ magic then .error .badHeader
  if fixed.getD 2 0 ≠ 8 then .error .badHeader
  let flags := fixed.getD 3 0
  if 32 ≤ flags then .error .badHeader
  let mut rest := rest
  if hasFlag flags 2 then
    let (size, tail) ← takeBytes 2 rest
    rest := (← takeBytes size.toNat tail).2
  if hasFlag flags 3 then
    rest := (← takeField rest).2
  if hasFlag flags 4 then
    rest := (← takeField rest).2
  if hasFlag flags 1 then
    let covered := bs.take (bs.length - rest.length)
    let (sum, tail) ← takeBytes 2 rest
    if sum.toNat ≠ (crc32 covered).toNat % 65536 then .error .checksum
    rest := tail
  return rest

/-- The window that output is inflated in. -/
def window : Nat := 32768

/-- The end of the last window that is opened under a limit. -/
def capFor (limit : Nat) : Nat := window * (limit / window + 1)

/-- Checks the trailer of a member against its output. -/
def checkTrailer (out : Bytes) (bs : Bytes) : Except MemberFault Unit := do
  let (trailer, _) ← takeBytes 8 bs
  if trailer = Bytes.ofWord32 (crc32 out) ++ Bytes.ofWord32 (UInt32.ofNat out.length) then .ok ()
  else .error .checksum

/-- Inflates one member; `none` when more than `limit` bytes come out. -/
def decompress? (limit : Nat) (bs : Bytes) : Except MemberFault (Option Bytes) := do
  let rest ← skipHeader bs
  match inflate (capFor limit) (bitsOfBytes rest) with
  | .error .full => return none
  | .error .corrupt => .error .corrupt
  | .error (.incomplete produced) => if limit < produced then return none else .error .incomplete
  | .ok s =>
    if limit < s.out.size then return none
    else
      let out := s.out.toList
      checkTrailer out (alignedBytes s.bits)
      return some out

end Waystation.Gzip
