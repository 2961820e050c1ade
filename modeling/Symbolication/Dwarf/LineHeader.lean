import Symbolication.Dwarf.Value

/-! A line program starts with the sizes of its steps and with tables of directories and files,
which its rows name by number. Up to version 4 the numbers start at 1, and 0 stands for the
directory and file of the unit; later the tables hold those too. -/

namespace Symbolication.Dwarf

structure FileEntry where
  path : Value
  directoryIndex : Nat
  deriving DecidableEq, Repr

/-- The tables of a line program, by number. Number 0 is a hole where the unit has no directory or
no name for it. -/
structure FileTables where
  directories : List (Option Value)
  files : List (Option FileEntry)
  deriving DecidableEq, Repr

def FileTables.directory? (tables : FileTables) (index : Nat) : Option Value :=
  tables.directories[index]?.join

def FileTables.file? (tables : FileTables) (index : Nat) : Option FileEntry :=
  tables.files[index]?.join

def FileTables.addFile (tables : FileTables) (file : FileEntry) : FileTables :=
  { tables with files := tables.files ++ [some file] }

structure LineHeader where
  encoding : Encoding
  /-- The least size of an instruction. Addresses are advanced by multiples of it. -/
  unitSize : Nat
  /-- The number of operations in an instruction. -/
  operations : Nat
  /-- The least advance of the line in an instruction that advances both. -/
  lineBase : Int
  /-- How many advances of the line there are. -/
  lineRange : Nat
  /-- The first opcode of an instruction that advances both. -/
  firstSpecial : Nat
  /-- The number of operands of each opcode below that, from 1 on. -/
  operandCounts : List Nat
  tables : FileTables
  deriving DecidableEq, Repr

/-- The names of a unit that its line program may use. -/
structure UnitNames where
  directory : Option Bytes
  name : Option Bytes
  deriving DecidableEq, Repr

def inlineString (bytes : Bytes) : Value := .string (.inline bytes)

/-- Reads a string, or the end of a table of strings, which is an empty one. -/
def tableString : Reader (Option Bytes) := do
  let bytes ← Reader.untilZero
  return if bytes.isEmpty then none else some bytes

namespace FileEntry

/-- Reads what follows the path of a file: its directory, its time and its size. -/
def readAfter (path : Bytes) : Reader FileEntry := do
  let directoryIndex ← Reader.unsigned
  let _time ← Reader.unsigned
  let _size ← Reader.unsigned
  return ⟨inlineString path, directoryIndex⟩

/-- Reads a file, or the end of the table. -/
def read? : Reader (Option FileEntry) := do
  match ← tableString with
  | none => return none
  | some path => some <$> readAfter path

end FileEntry

/-- What a field of a table entry says, and its form. -/
structure EntryField where
  content : Nat
  form : Nat
  deriving DecidableEq, Repr

namespace EntryField

def path : Nat := 1

def directoryIndex : Nat := 2

/-- Reads the fields of the entries of a table. Exactly one of them is the path. -/
def readAll : Reader (List EntryField) := do
  let count := (← Reader.byte).toNat
  let fields ← Reader.times (return ⟨← Reader.unsigned, ← Reader.unsigned16⟩) count
  if fields.countP (·.content = path) ≠ 1 then Reader.fail
  return fields

def readEntry (e : Encoding) (fields : List EntryField) : Reader (List (Nat × Value)) :=
  fields.mapM fun field => return (field.content, ← Form.readInHeader e field.form)

def pathOf (entry : List (Nat × Value)) : Value := (entry.lookup path).getD .other

/-- The file of an entry. The last field that gives a directory counts. -/
def fileOf (entry : List (Nat × Value)) : FileEntry :=
  let indices := entry.filterMap fun (content, value) =>
    if content = directoryIndex then value.natural? else none
  ⟨pathOf entry, indices.getLast?.getD 0⟩

/-- Reads a table with its fields in front. -/
def readTable (e : Encoding) : Reader (List (List (Nat × Value))) := do
  let fields ← readAll
  let count ← Reader.unsigned
  Reader.times (readEntry e fields) count

end EntryField

namespace FileTables

def readEarly (names : UnitNames) : Reader FileTables := do
  let directories ← Reader.untilNone tableString ((← Reader.left) + 1)
  let files ← Reader.untilNone FileEntry.read? ((← Reader.left) + 1)
  return {
    directories := names.directory.map inlineString :: directories.map (some ∘ inlineString)
    files := names.name.map (⟨inlineString ·, 0⟩) :: files.map some }

def readLate (e : Encoding) : Reader FileTables := do
  let directories ← EntryField.readTable e
  let files ← EntryField.readTable e
  return {
    directories := directories.map (some ∘ EntryField.pathOf)
    files := files.map (some ∘ EntryField.fileOf) }

end FileTables

namespace LineHeader

def readTables (e : Encoding) (names : UnitNames) : Reader LineHeader := do
  let unitSize := (← Reader.byte).toNat
  let operations ← if e.version < 4 then pure 1 else UInt8.toNat <$> Reader.byte
  let _isStatement ← Reader.byte
  let lineBase := (← Reader.byte).toInt8.toInt
  let lineRange := (← Reader.byte).toNat
  let firstSpecial := (← Reader.byte).toNat
  if unitSize = 0 ∨ operations = 0 ∨ lineRange = 0 ∨ firstSpecial = 0 then Reader.fail
  let operandCounts ← Reader.take (firstSpecial - 1)
  let tables ← if e.version < 5 then FileTables.readEarly names else FileTables.readLate e
  return {
    encoding := e, unitSize, operations, lineBase, lineRange, firstSpecial
    operandCounts := operandCounts.map UInt8.toNat
    tables }

/-- Reads a header, and the instructions that follow it up to the end of the program. Before version
5 addresses have the size that the unit has. -/
def read (order : ByteOrder) (unitAddressSize : Nat) (names : UnitNames) :
    Reader (LineHeader × Bytes) := do
  let (wide, program) ← frame order
  Reader.within program do
    let version ← Reader.number order 2
    if version < 2 ∨ 5 < version then Reader.fail
    let addressSize ← if version < 5 then pure unitAddressSize else addressSize
    let segmentSize ← if version < 5 then pure 0 else Reader.byte
    if segmentSize ≠ 0 then Reader.fail
    let e : Encoding := ⟨order, wide, version, addressSize⟩
    let header ← Reader.take (← e.word)
    return (← Reader.within header (readTables e names), ← Reader.rest)

end LineHeader

end Symbolication.Dwarf
