namespace Symbolication

/-- Bytes in the order of a file. -/
abbrev Bytes := List UInt8

def Bytes.ofAscii (s : String) : Bytes := s.toList.map fun c => c.toNat.toUInt8

/-- The part of some bytes that starts at an offset and has a length, if all of it is there. -/
def Bytes.slice? (bytes : Bytes) (offset length : Nat) : Option Bytes :=
  let part := (bytes.drop offset).take length
  if offset ≤ bytes.length ∧ part.length = length then some part else none

/-- Which byte of a number comes first. -/
inductive ByteOrder where
  | little
  | big
  deriving DecidableEq, Repr

/-- The number that some bytes spell. -/
def ByteOrder.value (order : ByteOrder) (bytes : Bytes) : Nat :=
  match order with
  | .little => bytes.foldr (fun b n => n * 256 + b.toNat) 0
  | .big => bytes.foldl (fun n b => n * 256 + b.toNat) 0

end Symbolication
