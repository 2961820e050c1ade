import Symbolication.Dwarf.CompileUnit
import Symbolication.LineTable
import Symbolication.Log
import Symbolication.Text.Utf8

/-! The rows of all line programs, unit after unit. The end of a sequence is no row of a table. A
row without a line, or of a file that its program does not have, is skipped and noted; all other
rows must have a file name. -/

namespace Symbolication

/-- A name below a directory. An absolute name stands for itself; otherwise a slash comes between,
unless the directory is empty or ends in one. -/
def Text.joinPath (directory name : String) : String :=
  if name.toList.head? = some '/' then name
  else if directory.toList.getLast?.all (· == '/') then directory ++ name
  else directory ++ "/" ++ name

namespace Dwarf

/-- What becomes of an emitted row. -/
inductive RowEvent where
  | kept (row : Row)
  | skipped (address : Address)
  | ended
  deriving DecidableEq, Repr

namespace RowEvent

def row? : RowEvent → Option Row
  | kept row => some row
  | skipped _ | ended => none

def note? : RowEvent → Option Note
  | kept _ | ended => none
  | skipped address =>
    some ⟨.trace, "Skipping row without file or line at " ++ Address.marked address⟩

end RowEvent

namespace DebugData

def text? (data : DebugData) (unit : CompileUnit) (value : Value) : Option String :=
  (data.stringOf? unit.encoding unit.bases value).map Text.Utf8.decodeLossy

/-- The name of a file, below its directory if there is one. -/
def fileName? (data : DebugData) (unit : CompileUnit) (tables : FileTables) (file : FileEntry) :
    Option String := do
  let directory ← match tables.directory? file.directoryIndex with
    | some value => data.text? unit value
    | none => some ""
  return Text.joinPath directory (← data.text? unit file.path)

def directoryOf (unit : CompileUnit) : String :=
  (unit.names.directory.map Text.Utf8.decodeLossy).getD ""

/-- What becomes of a row, or `none` if its file has no readable name. -/
def event? (data : DebugData) (unit : CompileUnit) (tables : FileTables) (row : ProgramRow) :
    Option RowEvent :=
  if row.endsSequence then some .ended
  else
    match row.file with
    | some file =>
      if row.line = 0 then some (.skipped row.address)
      else (data.fileName? unit tables file).map fun fileName =>
        .kept ⟨directoryOf unit, fileName, row.address, row.line⟩
    | none => some (.skipped row.address)

def unitEvents (data : DebugData) (unit : CompileUnit) : Decoded RowEvent :=
  match unit.program with
  | some program => do
    let row ← program.rows
    Decoded.ofOption (data.event? unit program.header.tables row)
  | none => ⟨[], true⟩

def events (data : DebugData) : Decoded RowEvent := data.units >>= data.unitEvents

/-- The rows that are kept, if nothing is malformed. -/
def rows? (data : DebugData) : Option (List Row) :=
  data.events.all?.map (·.filterMap RowEvent.row?)

/-- The notes on the rows that are skipped before anything malformed. -/
def notes (data : DebugData) : List Note := data.events.items.filterMap RowEvent.note?

end DebugData

end Dwarf

end Symbolication
