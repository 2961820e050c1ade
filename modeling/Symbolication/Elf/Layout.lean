import Symbolication.Bytes.Reader

namespace Symbolication.Elf

/-- How the numbers of a file are written. -/
structure Layout where
  /-- Addresses and offsets have 64 bits, not 32. -/
  wide : Bool
  order : ByteOrder
  deriving DecidableEq, Repr

namespace Layout

/-- The bytes of an address or offset. Tables of records start at a multiple of it. -/
def wordSize (layout : Layout) : Nat := if layout.wide then 8 else 4

def segmentSize (layout : Layout) : Nat := if layout.wide then 56 else 32

def sectionSize (layout : Layout) : Nat := if layout.wide then 64 else 40

def symbolSize (layout : Layout) : Nat := if layout.wide then 24 else 16

def half (layout : Layout) : Reader Nat := Reader.number layout.order 2

def int (layout : Layout) : Reader Nat := Reader.number layout.order 4

def word (layout : Layout) : Reader Nat := Reader.number layout.order layout.wordSize

end Layout

/-- The file header, from the fields after the identification on. -/
structure Header where
  segmentsAt : Nat
  sectionsAt : Nat
  segmentSize : Nat
  segmentCount : Nat
  sectionSize : Nat
  sectionCount : Nat
  namesIndex : Nat

def Header.read (layout : Layout) : Reader Header := do
  let _ ← Reader.take 16
  let _type ← layout.half
  let _machine ← layout.half
  let _version ← layout.int
  let _entry ← layout.word
  let segmentsAt ← layout.word
  let sectionsAt ← layout.word
  let _flags ← layout.int
  let _size ← layout.half
  let segmentSize ← layout.half
  let segmentCount ← layout.half
  let sectionSize ← layout.half
  let sectionCount ← layout.half
  let namesIndex ← layout.half
  return { segmentsAt, sectionsAt, segmentSize, segmentCount, sectionSize, sectionCount,
           namesIndex }

structure SectionHeader where
  nameAt : Nat
  kind : Nat
  flags : Nat
  offset : Nat
  size : Nat
  link : Nat
  info : Nat
  deriving DecidableEq, Repr

def SectionHeader.read (layout : Layout) : Reader SectionHeader := do
  let nameAt ← layout.int
  let kind ← layout.int
  let flags ← layout.word
  let _address ← layout.word
  let offset ← layout.word
  let size ← layout.word
  let link ← layout.int
  let info ← layout.int
  let _alignment ← layout.word
  let _entrySize ← layout.word
  return { nameAt, kind, flags, offset, size, link, info }

structure SymbolEntry where
  nameAt : Nat
  info : Nat
  /-- The section that defines the symbol, 0 where none does. -/
  home : Nat
  value : Nat
  size : Nat
  deriving DecidableEq, Repr

def SymbolEntry.read (layout : Layout) : Reader SymbolEntry := do
  let nameAt ← layout.int
  if layout.wide then
    let info ← Reader.byte
    let _other ← Reader.byte
    let home ← layout.half
    let value ← layout.word
    let size ← layout.word
    return ⟨nameAt, info.toNat, home, value, size⟩
  else
    let value ← layout.word
    let size ← layout.word
    let info ← Reader.byte
    let _other ← Reader.byte
    let home ← layout.half
    return ⟨nameAt, info.toNat, home, value, size⟩

/-- The header of compressed section data: the method, and the size without compression. -/
def Layout.compression (layout : Layout) : Reader (Nat × Nat) := do
  let method ← layout.int
  let _reserved ← if layout.wide then layout.int else pure 0
  let size ← layout.word
  let _alignment ← layout.word
  return (method, size)

/-! ## Section kinds and flags -/

def kindSymbols : Nat := 2

def kindStrings : Nat := 3

def kindAddendRelocations : Nat := 4

/-- A section that takes no place in the file. -/
def kindNoBits : Nat := 8

def kindRelocations : Nat := 9

def kindDynamicSymbols : Nat := 11

/-- Section indices of symbols that are too large for the symbols' own field. -/
def kindSymbolSections : Nat := 18

/-- The bit of the flags that marks compressed contents. -/
def flagCompressed : Nat := 11

/-! ## Compression methods -/

def methodZlib : Nat := 1

def methodZstandard : Nat := 2

end Symbolication.Elf
