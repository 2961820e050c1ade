import Symbolication.Dwarf.Rows
import Symbolication.Files
import Symbolication.Resolver

namespace Symbolication

namespace Elf.NamedEntry

/-- The kinds of symbols that name a section or a source file, not a place in the code. -/
def placeless : List Nat := [3, 4]

/-- The name, if it is a text and not empty. -/
def text? (named : NamedEntry) : Option String := do
  let name ← named.name
  guard (name ≠ [])
  Text.Utf8.decode? name

def symbol? (named : NamedEntry) : Option Symbol := do
  guard (named.entry.home ≠ 0 ∧ named.entry.info % 16 ∉ placeless)
  return ⟨← named.text?, UInt64.ofNat named.entry.value, UInt64.ofNat named.entry.size⟩

end Elf.NamedEntry

def SymbolIndex.ofObject (file : Elf.ObjectFile) : SymbolIndex :=
  SymbolIndex.ofList (file.symbols.filterMap (·.symbol?))

def LineTable.ofDebugData (data : Dwarf.DebugData) : Noted (Except BinaryFault LineTable) :=
  match data.rows? with
  | some rows => ⟨.ok (LineTable.ofRows rows), data.notes⟩
  | none => ⟨.error .malformed, data.notes⟩

def LineTable.ofBinary (files : Files) (path : String) : Loading LineTable := do
  let refuse {α : Type} (result : Except BinaryFault α) : Loading α :=
    Loading.ofExcept (result.mapError (.undecodable path))
  let bytes ← Loading.content files path
  let data ← refuse (Dwarf.DebugData.ofBytes bytes)
  let table ← refuse (← Loading.ofNoted (LineTable.ofDebugData data))
  Loading.note .debug
    ("Loaded " ++ Numeral.decimal table.size ++ " line table rows from " ++ path)
  return table

def SymbolIndex.ofBinary (files : Files) (path : String) : Loading SymbolIndex := do
  let bytes ← Loading.content files path
  match Elf.ObjectFile.read? bytes with
  | none => Loading.ofExcept (.error (.undecodable path .malformed))
  | some file =>
    let symbols := SymbolIndex.ofObject file
    if symbols.isEmpty then
      Loading.note .warn (path ++ " has no static symbol table (stripped?)")
    else
      Loading.note .debug
        ("Loaded " ++ Numeral.decimal symbols.size ++ " static symbols from " ++ path)
    return symbols

/-- The tables by which the addresses of a run are resolved. -/
structure RunTables where
  lines : LineTable
  symbols : SymbolIndex
  routines : RoutineMap

namespace RunTables

/-- A line table, the symbols of a binary and the routines of a file, built in this order. The first
that cannot be built is the failure. -/
def assemble (files : Files) (lines : Loading LineTable) (binary routines : String) :
    Loading RunTables := do
  let lines ← lines
  let symbols ← SymbolIndex.ofBinary files binary
  return ⟨lines, symbols, ← RoutineMap.ofFile files routines⟩

def load (files : Files) (binary routines : String) : Loading RunTables :=
  assemble files (LineTable.ofBinary files binary) binary routines

def resolver (tables : RunTables) : Resolver :=
  Resolver.ofTables tables.lines tables.symbols tables.routines

end RunTables

end Symbolication
