import Symbolication.Bytes
import Symbolication.Compression.PrefixCode

/-! The DEFLATE format, read up to a number of bytes that is known beforehand. Inflation ends with
the last block, where one more byte would be too many, where the input ends, or at malformed data.
-/

namespace Symbolication.Compression

/-- Why inflation ends before the last block does. -/
inductive Stop where
  /-- All bytes that were asked for are there, and more would follow. -/
  | full
  /-- The input ends. -/
  | short
  /-- The input is malformed. -/
  | malformed
  deriving DecidableEq, Repr

/-- What is left of the input, the lowest bit of a byte first, and what has been put out. -/
structure Inflation where
  bits : List Bool
  rest : Bytes
  output : Array UInt8
  limit : Nat

/-- A step of inflation. Its output stays when it stops. -/
abbrev Inflating := EStateM Stop Inflation

namespace Inflating

def bit : Inflating Bool := fun s =>
  match s.bits, s.rest with
  | b :: bits, _ => .ok b { s with bits }
  | [], byte :: rest =>
    let bits := (List.range 7).map fun i => byte.toNat.testBit (i + 1)
    .ok (byte.toNat.testBit 0) { s with bits, rest }
  | [], [] => .error .short s

/-- A number of so many bits, the lowest first. -/
def number : Nat → Inflating Nat
  | 0 => return 0
  | n + 1 => do
    let low ← bit
    return low.toNat + 2 * (← number n)

/-- Leaves out the bits up to the next byte. -/
def alignToByte : Inflating Unit := modify fun s => { s with bits := [] }

def write (byte : UInt8) : Inflating Unit := fun s =>
  if s.output.size < s.limit then .ok () { s with output := s.output.push byte }
  else .error .full s

/-- The symbol of the next codeword. Codewords of the current length start at `first`, and their
symbols at `index`. Bits that start no codeword are malformed once no longer codeword is left, and
so the first bit is read even where there are no codewords. -/
def symbolFrom (symbols : Array Nat) (code first index : Nat) : List Nat → Inflating Nat
  | [] => throw .malformed
  | count :: counts => do
    let code := 2 * code + (← bit).toNat
    let first := 2 * first
    if code < first + count then
      match symbols[index + (code - first)]? with
      | some symbol => return symbol
      | none => throw .malformed
    else if counts.all (· = 0) then throw .malformed
    else symbolFrom symbols code (first + count) (index + count) counts

def symbol (code : PrefixCode) : Inflating Nat := symbolFrom code.symbols 0 0 0 code.counts

/-- The least match length of each length symbol, and the bits that add to it. -/
def matchLengths : List (Nat × Nat) :=
  [(3, 0), (4, 0), (5, 0), (6, 0), (7, 0), (8, 0), (9, 0), (10, 0), (11, 1), (13, 1), (15, 1),
    (17, 1), (19, 2), (23, 2), (27, 2), (31, 2), (35, 3), (43, 3), (51, 3), (59, 3), (67, 4),
    (83, 4), (99, 4), (115, 4), (131, 5), (163, 5), (195, 5), (227, 5), (258, 0)]

/-- The least distance of each distance symbol, and the bits that add to it. -/
def distances : List (Nat × Nat) :=
  [(1, 0), (2, 0), (3, 0), (4, 0), (5, 1), (7, 1), (9, 2), (13, 2), (17, 3), (25, 3), (33, 4),
    (49, 4), (65, 5), (97, 5), (129, 6), (193, 6), (257, 7), (385, 7), (513, 8), (769, 8),
    (1025, 9), (1537, 9), (2049, 10), (3073, 10), (4097, 11), (6145, 11), (8193, 12), (12289, 12),
    (16385, 13), (24577, 13)]

/-- The value of a symbol with the bits that add to it. -/
def extended (table : List (Nat × Nat)) (symbol : Nat) : Inflating Nat :=
  match table[symbol]? with
  | some (least, width) => return least + (← number width)
  | none => throw .malformed

/-- Puts out bytes again that stand at a distance before the end. -/
def copy (distance : Nat) : Nat → Inflating Unit
  | 0 => return
  | n + 1 => do
    let output := (← get).output
    write (output[output.size - distance]?.getD 0)
    copy distance n

/-- Reads the symbols of a block. There are fewer of them than `bound`. -/
def symbols (literals distanceCode : PrefixCode) : (bound : Nat) → Inflating Unit
  | 0 => throw .short
  | bound + 1 => do
    let s ← symbol literals
    if s = 256 then return
    if s < 256 then write s.toUInt8
    else
      let length ← extended matchLengths (s - 257)
      let distance ← extended distances (← symbol distanceCode)
      if (← get).output.size < distance then throw .malformed
      copy distance length
    symbols literals distanceCode bound

def copyInput : Nat → Inflating Unit
  | 0 => return
  | n + 1 => do
    if (← get).rest.isEmpty then throw .short
    write (← number 8).toUInt8
    copyInput n

/-- A block that is not compressed: its length, the complement of that, and its bytes. -/
def storedBlock : Inflating Unit := do
  alignToByte
  let length ← number 16
  let complement ← number 16
  if length + complement ≠ 0xffff then throw .malformed
  copyInput length

/-- The codes of a block that brings none of its own. -/
def fixedLiterals : PrefixCode := .ofLengths <|
  List.replicate 144 8 ++ List.replicate 112 9 ++ List.replicate 24 7 ++ List.replicate 8 8

def fixedDistances : PrefixCode := .ofLengths (List.replicate 32 5)

/-- The order in which the lengths of the codeword-length code are given. -/
def lengthOrder : List Nat := [16, 17, 18, 0, 8, 7, 9, 6, 10, 5, 11, 4, 12, 3, 13, 2, 14, 1, 15]

/-- Reads codeword lengths until there are `count` of them. Each symbol stands for one length or
more. The lengths so far are in reverse. -/
def lengths (code : PrefixCode) (count : Nat) (soFar : List Nat) : (bound : Nat) →
    Inflating (List Nat)
  | 0 => throw .malformed
  | bound + 1 => do
    if count < soFar.length then throw .malformed
    if soFar.length = count then return soFar.reverse
    let s ← symbol code
    let more ← match s with
      | 16 =>
        match soFar with
        | [] => throw .malformed
        | last :: _ => (List.replicate · last) <$> (3 + ·) <$> number 2
      | 17 => (List.replicate · 0) <$> (3 + ·) <$> number 3
      | 18 => (List.replicate · 0) <$> (11 + ·) <$> number 7
      | _ => pure [s]
    lengths code count (more ++ soFar) bound

/-- The codes that a block brings. -/
def ownCodes : Inflating (PrefixCode × PrefixCode) := do
  let literalCount := 257 + (← number 5)
  let distanceCount := 1 + (← number 5)
  let lengthCount := 4 + (← number 4)
  if 286 < literalCount ∨ 30 < distanceCount then throw .malformed
  let given ← (lengthOrder.take lengthCount).mapM fun symbol => do
    return (symbol, ← number 3)
  let codeLengths := (List.range 19).map fun symbol => (given.lookup symbol).getD 0
  if !PrefixCode.isComplete codeLengths then throw .malformed
  let count := literalCount + distanceCount
  let all ← lengths (.ofLengths codeLengths) count [] (count + 1)
  let literals := all.take literalCount
  let distances := all.drop literalCount
  if !(PrefixCode.isUsable literals && PrefixCode.isUsable distances) then throw .malformed
  return (.ofLengths literals, .ofLengths distances)

/-- Reads blocks up to the last one. There are fewer of them than `bound`, and fewer symbols in
each. -/
def blocks (symbolBound : Nat) : (bound : Nat) → Inflating Unit
  | 0 => throw .short
  | bound + 1 => do
    let isLast ← bit
    match ← number 2 with
    | 0 => storedBlock
    | 1 => symbols fixedLiterals fixedDistances symbolBound
    | 2 =>
      let (literals, distances) ← ownCodes
      symbols literals distances symbolBound
    | _ => throw .malformed
    if !isLast then blocks symbolBound bound

end Inflating

end Symbolication.Compression
