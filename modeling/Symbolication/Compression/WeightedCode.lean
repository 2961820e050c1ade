import Symbolication.Compression.EntropyTable
import Symbolication.Compression.PrefixCode

/-! Prefix codes of bytes in which a symbol has a weight, and one of a higher weight a shorter
codeword. The weight of the last symbol is not given, since together they make the code complete. -/

namespace Symbolication.Compression

/-- A prefix code with codewords of `width` bits at most. Each sequence of `width` bits has the
symbol whose codeword it starts with, and the length of that. -/
structure WeightedCode where
  width : Nat
  entries : Array (UInt8 × Nat)

namespace WeightedCode

def maxWidth : Nat := 11

/-- The code of all weights but the last. -/
def ofWeights? (weights : List Nat) : Option WeightedCode :=
  let sum := (weights.map fun w => 1 <<< w / 2).foldl (· + ·) 0
  let width := sum.log2 + 1
  let rest := 1 <<< width - sum
  if weights.any (maxWidth < ·) ∨ sum = 0 ∨ maxWidth < width ∨ rest ≠ 1 <<< rest.log2 then none
  else
    let weights := weights ++ [rest.log2 + 1]
    some ⟨width, ((List.range width).flatMap fun w =>
      (PrefixCode.symbolsOfLength weights (w + 1)).flatMap fun symbol =>
        List.replicate (1 <<< w) (symbol.toUInt8, width - w)).toArray⟩

/-- The symbols of two states that take turns. It ends where there are too few bits to leave a
state, with the symbol of the other. The symbols so far are in reverse. -/
def takeTurns (table : EntropyTable) (soFar : List Nat) (here there : EntropyState) :
    (bound : Nat) → BitReader (List Nat)
  | 0 => BitReader.fail
  | bound + 1 => fun bits =>
    let soFar := here.symbol :: soFar
    match (table.next here).run bits with
    | some (moved, bits) => takeTurns table soFar there moved bound bits
    | none => some ((there.symbol :: soFar).reverse, [])

/-- Reads weights that are coded by an entropy table. -/
def codedWeights : Reader (List Nat) := do
  let table ← EntropyTable.read 256 6
  let bits ← StateT.lift (BitReader.backward? (← Reader.rest))
  let coded : BitReader (List Nat) := do
    let here ← table.start
    let there ← table.start
    takeTurns table [] here there 254
  StateT.lift (coded.run' bits)

/-- Reads a code. Its weights are coded, or have four bits each. -/
def read : Reader WeightedCode := do
  let head := (← Reader.byte).toNat
  let weights ← if head < 128 then do Reader.within (← Reader.take head) codedWeights
    else do
      let count := head - 127
      let bytes ← Reader.take ((count + 1) / 2)
      pure ((bytes.flatMap fun b => [b.toNat / 16, b.toNat % 16]).take count)
  StateT.lift (ofWeights? weights)

/-- The symbol of the next codeword. Behind the end of the bits there are zeros. -/
def symbol (code : WeightedCode) : BitReader UInt8 := fun bits => do
  let sample := bits.take code.width
  let zeros := List.replicate (code.width - sample.length) false
  let (index, _) ← (BitReader.high code.width).run (sample ++ zeros)
  let (symbol, length) ← code.entries[index]?
  if (bits.take length).length < length then none else some (symbol, bits.drop length)

/-- The symbols of all bits after others. Each takes a bit at least. -/
def decode? (code : WeightedCode) (soFar : Array UInt8) : (bound : Nat) → List Bool →
    Option (Array UInt8)
  | _, [] => some soFar
  | 0, _ => none
  | bound + 1, bits => do
    let (symbol, bits) ← (code.symbol).run bits
    code.decode? (soFar.push symbol) bound bits

end WeightedCode

end Symbolication.Compression
