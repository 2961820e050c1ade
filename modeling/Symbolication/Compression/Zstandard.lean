import Symbolication.Compression.WeightedCode

/-! What is compressed is a number of frames, and a frame is a number of blocks. A block has
literals and sequences. A sequence puts out some of the literals and then repeats bytes that were
put out before. -/

namespace Symbolication.Compression.Zstandard

/-! ## Sequences -/

/-- One of the three numbers of a sequence. A code stands for the numbers from its least one on, and
for as many as its bits can add. -/
structure Part where
  codes : List (Nat × Nat)
  maxAccuracy : Nat
  /-- The table of a block that has none of its own. -/
  table : EntropyTable

/-- Codes with so many bits each, without a gap from the least number on. -/
def codesFrom (least : Nat) : List Nat → List (Nat × Nat)
  | [] => []
  | width :: widths => (least, width) :: codesFrom (least + 1 <<< width) widths

namespace Part

/-- How many literals come before a match. -/
def literals : Part where
  codes := codesFrom 0 <|
    List.replicate 16 0 ++ [1, 1, 1, 1, 2, 2, 3, 3, 4, 6, 7, 8, 9, 10, 11, 12, 13, 14, 15, 16]
  maxAccuracy := 9
  table := .ofShares 6 [4, 3, 2, 2, 2, 2, 2, 2, 2, 2, 2, 2, 2, 1, 1, 1, 2, 2, 2, 2, 2, 2, 2, 2, 2,
    3, 2, 1, 1, 1, 1, 1, -1, -1, -1, -1]

/-- How long a match is. -/
def lengths : Part where
  codes := codesFrom 3 <| List.replicate 32 0 ++
    [1, 1, 1, 1, 2, 2, 3, 3, 4, 4, 5, 7, 8, 9, 10, 11, 12, 13, 14, 15, 16]
  maxAccuracy := 9
  table := .ofShares 6 <| [1, 4, 3, 2, 2, 2, 2, 2, 2] ++ List.replicate 37 1 ++
    List.replicate 7 (-1)

/-- Where a match starts. -/
def offsets : Part where
  codes := (List.range 32).map fun width => (1 <<< width, width)
  maxAccuracy := 8
  table := .ofShares 5 <| List.replicate 6 1 ++ [2, 2, 2] ++ List.replicate 15 1 ++
    List.replicate 5 (-1)

/-- Reads a table in one of four modes: none, a single code, a description, or again the latest. -/
def readTable (part : Part) (latest : Option EntropyTable) : (mode : Nat) → Reader EntropyTable
  | 0 => return part.table
  | 1 => return .constant (← Reader.byte).toNat
  | 2 => EntropyTable.read part.codes.length part.maxAccuracy
  | _ => StateT.lift latest

def number (part : Part) (code : Nat) : BitReader Nat := do
  let (least, width) ← StateT.lift part.codes[code]?
  return least + (← BitReader.high width)

end Part

/-- One value for each number of a sequence. -/
structure Parts (α : Type) where
  literals : α
  lengths : α
  offsets : α

/-- The sequences that the states of three tables tell. Those so far are in reverse. -/
def sequencesFrom (tables : Parts EntropyTable) (states : Parts EntropyState)
    (soFar : List (Parts Nat)) : Nat → BitReader (List (Parts Nat))
  | 0 => return soFar.reverse
  | n + 1 => do
    let offset ← Part.offsets.number states.offsets.symbol
    let length ← Part.lengths.number states.lengths.symbol
    let literals ← Part.literals.number states.literals.symbol
    let soFar := ⟨literals, length, offset⟩ :: soFar
    -- the last states lead nowhere
    if n = 0 then return soFar.reverse
    let literals ← tables.literals.next states.literals
    let lengths ← tables.lengths.next states.lengths
    let offsets ← tables.offsets.next states.offsets
    sequencesFrom tables ⟨literals, lengths, offsets⟩ soFar n

def sequences (tables : Parts EntropyTable) (count : Nat) : BitReader (List (Parts Nat)) := do
  let literals ← tables.literals.start
  let offsets ← tables.offsets.start
  let lengths ← tables.lengths.start
  sequencesFrom tables ⟨literals, lengths, offsets⟩ [] count

def sequenceCount : Reader Nat := do
  let first := (← Reader.byte).toNat
  if first < 128 then return first
  let second := (← Reader.byte).toNat
  if first < 255 then return (first - 128) * 256 + second
  return second + (← Reader.byte).toNat * 256 + 0x7f00

/-! ## Frames -/

/-- The offsets of the latest matches. -/
structure Recent where
  first : Nat
  second : Nat
  third : Nat

/-- The offset that a number stands for, and the latest offsets then. Small numbers stand for a
recent one, and count from the second where the match has no literals before it. -/
def Recent.offset (recent : Recent) (number literals : Nat) : Nat × Recent :=
  let ⟨first, second, third⟩ := recent
  if 3 < number then (number - 3, ⟨number - 3, first, second⟩)
  else
    match if literals = 0 then number + 1 else number with
    | 1 => (first, recent)
    | 2 => (second, ⟨second, first, third⟩)
    | 3 => (third, ⟨third, first, second⟩)
    | _ => (first - 1, ⟨first - 1, first, second⟩)

/-- What a frame has put out, and what a block takes over from those before it. -/
structure Frame where
  output : Array UInt8
  code : Option WeightedCode
  tables : Option (Parts EntropyTable)
  recent : Recent

/-- Puts out bytes again that stand at an offset before the end. -/
def repeatFrom (offset : Nat) (output : Array UInt8) : (length : Nat) → Array UInt8
  | 0 => output
  | n + 1 => repeatFrom offset (output.push (output[output.size - offset]?.getD 0)) n

namespace Frame

def empty : Frame := ⟨#[], none, none, ⟨1, 4, 8⟩⟩

def write (frame : Frame) (bytes : Bytes) : Frame := { frame with output := frame.output ++ bytes }

/-- Does what the sequences of a block say, and puts out the literals that they leave. -/
def replay (frame : Frame) : List (Parts Nat) → Reader Frame
  | [] => do return frame.write (← Reader.rest)
  | s :: rest => do
    let frame := frame.write (← Reader.take s.literals)
    let (offset, recent) := frame.recent.offset s.offsets s.literals
    if offset = 0 ∨ frame.output.size < offset then Reader.fail
    replay { frame with output := repeatFrom offset frame.output s.lengths, recent } rest

/-- The streams of coded literals: one, or four with the lengths of three in front. -/
def streams (single : Bool) : Reader (List Bytes) := do
  if single then return [← Reader.rest]
  let lengths ← Reader.times (Reader.number .little 2) 3
  let streams ← lengths.mapM Reader.take
  return streams ++ [← Reader.rest]

/-- Reads the literals of a block and the code for later ones: plain literals, one byte for all of
them, or coded ones, with a code of their own or the latest. -/
def literals (latest : Option WeightedCode) : Reader (Bytes × Option WeightedCode) := do
  let head := (← Reader.byte).toNat
  let kind := head % 4
  let format := head / 4 % 4
  if kind < 2 then
    let (more, unit) := match format with
      | 1 => (1, 16)
      | 3 => (2, 16)
      | _ => (0, 8)
    let size := (head + 256 * (← Reader.number .little more)) / unit
    if kind = 0 then return (← Reader.take size, latest)
    return (List.replicate size (← Reader.byte), latest)
  else
    let (more, width) := match format with
      | 2 => (3, 14)
      | 3 => (4, 18)
      | _ => (2, 10)
    let sizes := (head + 256 * (← Reader.number .little more)) / 16
    Reader.within (← Reader.take (sizes >>> width)) do
      let code ← if kind = 2 then WeightedCode.read else StateT.lift latest
      let decoded ← (← streams (format = 0)).foldlM (fun soFar stream => do
        let bits ← StateT.lift (BitReader.backward? stream)
        StateT.lift (code.decode? soFar bits.length bits)) #[]
      if decoded.size ≠ sizes % 1 <<< width then Reader.fail
      return (decoded.toList, some code)

def compressed (frame : Frame) : Reader Frame := do
  let (literals, code) ← literals frame.code
  let count ← sequenceCount
  if count = 0 then
    if 0 < (← Reader.left) then Reader.fail
    return { frame.write literals with code }
  let modes := (← Reader.byte).toNat
  let table (part : Part) (latest : Parts EntropyTable → EntropyTable) (mode : Nat) :=
    part.readTable (frame.tables.map latest) (mode % 4)
  let literalTable ← table .literals (·.literals) (modes / 64)
  let offsetTable ← table .offsets (·.offsets) (modes / 16)
  let lengthTable ← table .lengths (·.lengths) (modes / 4)
  let tables : Parts EntropyTable := ⟨literalTable, lengthTable, offsetTable⟩
  let bits ← StateT.lift (BitReader.backward? (← Reader.rest))
  let (sequences, left) ← StateT.lift ((sequences tables count).run bits)
  if !left.isEmpty then Reader.fail
  StateT.lift (({ frame with code, tables := some tables }.replay sequences).run' literals)

def maxBlock : Nat := 1 <<< 17

/-- Reads blocks up to the last one. There are fewer of them than `bound`. -/
def blocks (frame : Frame) : (bound : Nat) → Reader Frame
  | 0 => Reader.fail
  | bound + 1 => do
    let header ← Reader.number .little 3
    let size := header / 8
    if maxBlock < size then Reader.fail
    let frame ← match header / 2 % 4 with
      | 0 => do pure (frame.write (← Reader.take size))
      | 1 => do pure (frame.write (List.replicate size (← Reader.byte)))
      | 2 => do Reader.within (← Reader.take size) frame.compressed
      | _ => Reader.fail
    if header % 2 = 1 then return frame
    blocks frame bound

/-- Reads the header of a frame, and tells whether a checksum follows the blocks. Frames that need a
dictionary cannot be read. -/
def header : Reader Bool := do
  let descriptor := (← Reader.byte).toNat
  let single := descriptor.testBit 5
  let _window ← Reader.take (if single then 0 else 1)
  let dictionary ← Reader.number .little ([0, 1, 2, 4][descriptor % 4]?.getD 0)
  let _size ← Reader.take ([if single then 1 else 0, 2, 4, 8][descriptor / 64]?.getD 0)
  if descriptor.testBit 3 ∨ dictionary ≠ 0 then Reader.fail
  return descriptor.testBit 2

end Frame

def frameMagic : Nat := 0xfd2fb528

/-- Reads all frames. Those with a number that starts with `0x184d2a5` are skipped, and checksums
are not checked. There are fewer frames than `bound`. -/
def frames (soFar : Array UInt8) : (bound : Nat) → Reader (Array UInt8)
  | 0 => Reader.fail
  | bound + 1 => do
    let left ← Reader.left
    if left = 0 then return soFar
    let magic ← Reader.number .little 4
    if magic / 16 = 0x184d2a5 then
      let _ ← Reader.take (← Reader.number .little 4)
      frames soFar bound
    else if magic = frameMagic then
      let hasChecksum ← Frame.header
      let frame ← Frame.empty.blocks left
      if hasChecksum then let _ ← Reader.take 4
      frames (soFar ++ frame.output) bound
    else Reader.fail

/-- What some bytes hold in compressed form. -/
def expand? (bytes : Bytes) : Option Bytes :=
  ((frames #[] (bytes.length + 1)).run' bytes).map Array.toList

end Symbolication.Compression.Zstandard
