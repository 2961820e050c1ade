import Symbolication.Dwarf.Encoding

namespace Symbolication.Dwarf

/-- Where the bytes of a string are. -/
inductive StringPlace where
  /-- In the value itself. -/
  | inline (bytes : Bytes)
  /-- At an offset in the strings of all units. -/
  | shared (offset : Nat)
  /-- At an offset in the strings of all line programs. -/
  | sharedByLines (offset : Nat)
  /-- At the offset of a number in the unit's string offsets. -/
  | indexed (index : Nat)
  deriving DecidableEq, Repr

/-- A value, as far as it matters here. -/
inductive Value where
  | string (place : StringPlace)
  /-- A constant of so many bytes. -/
  | fixed (width n : Nat)
  | unsigned (n : Nat)
  | signed (n : Int)
  /-- An offset in another section. -/
  | offset (n : Nat)
  /-- The number of an address among the unit's addresses. -/
  | addressIndex (n : Nat)
  | other
  deriving DecidableEq, Repr

namespace Value

/-- An unsigned constant, or a signed one that is not negative. -/
def natural? : Value → Option Nat
  | fixed _ n | unsigned n => some n
  | signed n => n.toNat?
  | _ => none

/-- An offset in another section, which may be written as a constant of its size. -/
def offset? (e : Encoding) : Value → Option Nat
  | offset n => some n
  | fixed width n => if width = e.wordSize then some n else none
  | _ => none

end Value

namespace Form

/-- The form that follows it in the value. -/
def indirect : Nat := 0x16

/-- The value stands with the attribute's name. -/
def implicit : Nat := 0x21

/-- Bytes after their number. -/
def block (length : Reader Nat) : Reader Value := do
  let _ ← Reader.take (← length)
  return .other

/-- Bytes that do not matter here. -/
def skipped (length : Nat) : Reader Value := block (pure length)

/-- How to read a form that a line program header may use. -/
def common? (e : Encoding) : Nat → Option (Reader Value)
  | 0x03 => some (block (e.number 2))
  | 0x04 => some (block (e.number 4))
  | 0x05 => some (.fixed 2 <$> e.number 2)
  | 0x06 => some (.fixed 4 <$> e.number 4)
  | 0x07 => some (.fixed 8 <$> e.number 8)
  | 0x08 => some ((.string ∘ .inline) <$> Reader.untilZero)
  | 0x09 => some (block Reader.unsigned)
  | 0x0a => some (block (e.number 1))
  | 0x0b => some (.fixed 1 <$> e.number 1)
  | 0x0c => some (skipped 1)
  | 0x0d => some (.signed <$> Reader.signed)
  | 0x0e => some ((.string ∘ .shared) <$> e.word)
  | 0x0f => some (.unsigned <$> Reader.unsigned)
  | 0x17 => some (.offset <$> e.word)
  | 0x1a | 0x1f02 => some ((.string ∘ .indexed) <$> Reader.unsigned)
  | 0x1d | 0x1f21 => some (skipped e.wordSize)
  | 0x1e => some (skipped 16)
  | 0x1f => some ((.string ∘ .sharedByLines) <$> e.word)
  | 0x25 => some ((.string ∘ .indexed) <$> e.number 1)
  | 0x26 => some ((.string ∘ .indexed) <$> e.number 2)
  | 0x27 => some ((.string ∘ .indexed) <$> e.number 3)
  | 0x28 => some ((.string ∘ .indexed) <$> e.number 4)
  | _ => none

/-- How to read a form that only the entries of a unit may use. References to other entries had the
size of addresses in version 2. -/
def ofUnit? (e : Encoding) : Nat → Option (Reader Value)
  | 0x01 => some (skipped e.addressSize)
  | 0x10 => some (skipped (if e.version = 2 then e.addressSize else e.wordSize))
  | 0x11 => some (skipped 1)
  | 0x12 => some (skipped 2)
  | 0x13 | 0x1c => some (skipped 4)
  | 0x14 | 0x20 | 0x24 => some (skipped 8)
  | 0x15 | 0x22 | 0x23 => some do
    let _ ← Reader.unsigned
    return .other
  | 0x18 => some (block Reader.unsigned)
  | 0x19 => some (pure .other)
  | 0x1b | 0x1f01 => some (.addressIndex <$> Reader.unsigned)
  | 0x29 => some (.addressIndex <$> e.number 1)
  | 0x2a => some (.addressIndex <$> e.number 2)
  | 0x2b => some (.addressIndex <$> e.number 3)
  | 0x2c => some (.addressIndex <$> e.number 4)
  | 0x1f20 => some (skipped e.wordSize)
  | _ => none

/-- Reads forms up to one that is not indirect, in `bound` steps at most. -/
def direct : (bound : Nat) → Reader Nat
  | 0 => Reader.fail
  | bound + 1 => do
    let form ← Reader.unsigned16
    if form = indirect then direct bound else return form

def readInHeader (e : Encoding) (form : Nat) : Reader Value :=
  (common? e form).getD Reader.fail

def readDirect (e : Encoding) (form : Nat) : Reader Value :=
  ((common? e form).or (ofUnit? e form)).getD Reader.fail

def readInEntry (e : Encoding) (form : Nat) : Reader Value := do
  if form = indirect then readDirect e (← direct (← Reader.left)) else readDirect e form

end Form

end Symbolication.Dwarf
