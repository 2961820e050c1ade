import Symbolication.Elf.Layout

/-! An object file is a list of named sections and the entries of its symbol table. A file is
accepted as a whole: every table that its headers announce must be in place, whether or not it is
used. -/

namespace Symbolication.Elf

/-- The strings of a string table, or `none` where the table is missing or outside the file. -/
abbrev StringTable := Option Bytes

/-- The string at an offset, if a zero byte ends it. -/
def StringTable.string? (table : StringTable) (offset : Nat) : Option Bytes := do
  Reader.untilZero.run' ((← table).drop offset)

/-- The identification at the start of a file. -/
def Layout.read : Reader Layout := do
  let magic ← Reader.take 4
  let wordClass ← Reader.byte
  let byteOrder ← Reader.byte
  let version ← Reader.byte
  if magic ≠ 0x7f :: Bytes.ofAscii "ELF" ∨ version ≠ 1 then Reader.fail
  let wide ← match wordClass with
    | 1 => pure false
    | 2 => pure true
    | _ => Reader.fail
  let order ← match byteOrder with
    | 1 => pure ByteOrder.little
    | 2 => pure ByteOrder.big
    | _ => Reader.fail
  return ⟨wide, order⟩

/-- The bytes of a table, which starts at a multiple of its alignment and holds whole records. -/
def table? (bytes : Bytes) (alignment recordSize offset length : Nat) : Option Bytes :=
  if offset % alignment = 0 ∧ length % recordSize = 0 then bytes.slice? offset length else none

namespace Header

/-- The first section header. It holds the counts that the file header has no room for. -/
def first? (layout : Layout) (bytes : Bytes) (header : Header) : Option SectionHeader := do
  guard (header.sectionsAt ≠ 0 ∧ header.sectionSize = layout.sectionSize)
  let table ← table? bytes layout.wordSize layout.sectionSize header.sectionsAt layout.sectionSize
  (SectionHeader.read layout).run' table

/-- Whether the segments are in place. -/
def hasSegments (layout : Layout) (bytes : Bytes) (header : Header) : Bool :=
  if header.segmentsAt = 0 then true
  else
    let count? := if header.segmentCount = 0xffff then
        (header.first? layout bytes).map (·.info)
      else some header.segmentCount
    count?.any fun count =>
      count = 0 || header.segmentSize = layout.segmentSize &&
        (table? bytes layout.wordSize layout.segmentSize header.segmentsAt
          (count * layout.segmentSize)).isSome

def sections? (layout : Layout) (bytes : Bytes) (header : Header) :
    Option (List SectionHeader) := do
  if header.sectionsAt = 0 then return []
  let count ← if header.sectionCount = 0 then (header.first? layout bytes).map (·.size)
    else some header.sectionCount
  if count = 0 then return []
  guard (header.sectionSize = layout.sectionSize)
  let table ← table? bytes layout.wordSize layout.sectionSize header.sectionsAt
    (count * layout.sectionSize)
  ((SectionHeader.read layout).times count).run' table

end Header

/-- The strings of a section, which must not reach past the last address. -/
def SectionHeader.strings? (bytes : Bytes) (header : SectionHeader) : Option StringTable := do
  guard (header.offset + header.size < UInt64.size)
  return bytes.slice? header.offset header.size

def Header.names? (layout : Layout) (bytes : Bytes) (header : Header)
    (sections : List SectionHeader) : Option StringTable := do
  if sections.isEmpty then return none
  let index ← if header.namesIndex = 0xffff then (header.first? layout bytes).map (·.link)
    else some header.namesIndex
  guard (index ≠ 0)
  let names ← sections[index]?
  if names.kind = kindNoBits then return none
  names.strings? bytes

/-- The entries of a symbol table, the place of its section and the names of its symbols. -/
structure SymbolTable where
  index : Nat
  entries : List SymbolEntry
  names : StringTable

/-- The first symbol table of a kind, if it is well-formed. A file without one has an empty one. -/
def symbolTable? (layout : Layout) (bytes : Bytes) (sections : List SectionHeader) (kind : Nat) :
    Option SymbolTable := do
  match sections.findIdx? (·.kind = kind) with
  | none => return ⟨0, [], none⟩
  | some index =>
    let header ← sections[index]?
    let data ← table? bytes layout.wordSize layout.symbolSize header.offset header.size
    let count := data.length / layout.symbolSize
    let entries ← ((SymbolEntry.read layout).times count).run' data
    let names ←
      if header.link = 0 then some none
      else
        let strings ← sections[header.link]?
        guard (strings.kind = kindStrings)
        strings.strings? bytes
    guard (sections.all fun s =>
      s.kind ≠ kindSymbolSections || s.link ≠ index || (table? bytes 4 4 s.offset s.size).isSome)
    return ⟨index, entries, names⟩

def SectionHeader.relocates (header : SectionHeader) : Bool :=
  header.kind = kindRelocations || header.kind = kindAddendRelocations

/-- Whether every section of relocations by the symbols of a table applies to a section that holds
none itself, or to no section. -/
def relocationsFit (sections : List SectionHeader) (symbols : Nat) : Bool :=
  sections.all fun s =>
    !s.relocates || s.link ≠ symbols || s.info = 0 || sections[s.info]?.any (!·.relocates)

/-- A section and its name, where it can be read. -/
structure Section where
  name : Option Bytes
  header : SectionHeader

/-- Whether there is a section and it is not empty, as it is stored. -/
def isFilled (s : Option Section) : Bool := s.any (0 < ·.header.size)

/-- A symbol and its name, where it can be read. -/
structure NamedEntry where
  name : Option Bytes
  entry : SymbolEntry

/-- The parts of an accepted file. -/
structure ObjectFile where
  bytes : Bytes
  layout : Layout
  sections : List Section
  /-- The static symbols in the order of their table, without its first entry, which is a filler. -/
  symbols : List NamedEntry

namespace ObjectFile

def read? (bytes : Bytes) : Option ObjectFile := do
  let layout ← Layout.read.run' bytes
  let header ← (Header.read layout).run' bytes
  guard (header.hasSegments layout bytes)
  let sections ← header.sections? layout bytes
  let names ← header.names? layout bytes sections
  let static ← symbolTable? layout bytes sections kindSymbols
  let _dynamic ← symbolTable? layout bytes sections kindDynamicSymbols
  guard (relocationsFit sections static.index)
  return {
    bytes, layout
    sections := sections.map fun s => ⟨StringTable.string? names s.nameAt, s⟩
    symbols := static.entries.tail.map fun e => ⟨static.names.string? e.nameAt, e⟩ }

def named? (file : ObjectFile) (name : String) : Option Section :=
  file.sections.find? (·.name = some (Bytes.ofAscii name))

/-- The section of some debug information, which may go by the name of its compressed form. -/
def debugSection? (file : ObjectFile) (name : String) : Option Section :=
  (file.named? ("." ++ name)).or (file.named? (".z" ++ name))

end ObjectFile

end Symbolication.Elf
