import Symbolication.Compression.Inflate

/-! Deflated data between a header of two bytes and a checksum of four. What follows the checksum
does not count. A stream that ends early gives what it holds so far, and of a stream that holds more
than was asked for the front is taken; only a whole stream has its checksum checked. -/

namespace Symbolication.Compression.Zlib

/-- The largest prime below `2 ^ 16`. -/
def modulus : Nat := 65521

/-- The Adler-32 checksum: the sum of the bytes plus one, and the sum of those sums. -/
def checksum (bytes : Array UInt8) : Nat :=
  let (low, high) := bytes.foldl
    (fun (low, high) b =>
      let low := (low + b.toNat) % modulus
      (low, (high + low) % modulus))
    (1, 0)
  high <<< 16 + low

/-- The header names the method, a window of at most `2 ^ 15` bytes and no dictionary, and is a
multiple of 31. -/
def isHeader (method flags : Nat) : Bool :=
  (method * 256 + flags) % 31 = 0 && !flags.testBit 5 && method % 16 = 8 && method / 16 ≤ 7

def stream (bound : Nat) : Inflating Unit := do
  let method ← Inflating.number 8
  let flags ← Inflating.number 8
  if !isHeader method flags then throw .malformed
  Inflating.blocks bound bound
  Inflating.alignToByte
  let expected ← (List.replicate 4 8).mapM fun width => Nat.toUInt8 <$> Inflating.number width
  if ByteOrder.big.value expected ≠ checksum (← get).output then throw .malformed

/-- The first bytes that a stream holds, `limit` of them at most. -/
def inflate? (bytes : Bytes) (limit : Nat) : Option Bytes :=
  match (stream (8 * bytes.length + 1)).run ⟨[], bytes, #[], limit⟩ with
  | .ok _ s => some s.output.toList
  | .error .malformed _ => none
  | .error _ s => some s.output.toList

end Symbolication.Compression.Zlib
