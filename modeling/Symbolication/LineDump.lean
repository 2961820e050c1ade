import Symbolication.LineTable
import Symbolication.Log
import Symbolication.Text.Lines

/-!
The listing of a decoded line table: a header line for each source file of a unit, and a line for
each row with a file name, a line number and an address as its first three columns.

```text
CU: ./src/main.c:
File name        Line number    Starting address    View    Stmt
main.c                    12             0x401a0               x
main.c                     -             0x401c4

./include/list.h:[++]
list.h                    40             0x401b0               x
```

A row belongs to the last header before it. Lines that are neither are skipped, and all of them but
the blank ones and the column headings are noted.
-/

namespace Symbolication

/-- What one line of a dump says. -/
inductive DumpLine where
  /-- A blank line or a column heading. -/
  | empty
  /-- The rows that follow belong to this directory. -/
  | header (directory : String)
  | row (fileName : String) (line : Word) (address : Address)
  /-- A line of no known form. -/
  | foreign
  deriving DecidableEq, Repr

namespace DumpLine

/-- The path of a header line, which a colon ends or the mark of an included file. -/
def headerPath? (cs : List Char) : Option (List Char) :=
  (":[++]".toList.isSuffixOf? cs).or (":".toList.isSuffixOf? cs)

/-- The first three columns of a row. A line number 0 stands for no line. -/
def row? (cs : List Char) : Option DumpLine :=
  match Text.words cs with
  | fileName :: line :: address :: _ =>
    match Word.read? line, Address.read? address with
    | some line, some address =>
      if line = 0 then none else some (row (String.ofList fileName) line address)
    | _, _ => none
  | _ => none

/-- Reads a line without the blanks around it. -/
def ofTrimmed (cs : List Char) : DumpLine :=
  if cs.isEmpty || "File name".toList.isPrefixOf cs then empty
  else
    match "CU:".toList.isPrefixOf? cs with
    | some rest =>
      let unit := Text.trim rest
      header (String.ofList ((headerPath? unit).getD unit))
    | none =>
      match if cs.any Text.isBlank then none else headerPath? cs with
      | some path => header (String.ofList path)
      | none => (row? cs).getD foreign

def ofLine (cs : List Char) : DumpLine := ofTrimmed (Text.trim cs)

end DumpLine

namespace LineDump

def lines (text : String) : List DumpLine := (Text.lines text.toList).map DumpLine.ofLine

/-- How far a dump has been read: the directory of the last header, and the rows so far. -/
structure Reading where
  directory : String
  rows : Array Row

def Reading.step (reading : Reading) : DumpLine → Reading
  | .header directory => ⟨directory, reading.rows⟩
  | .row fileName line address =>
    ⟨reading.directory, reading.rows.push ⟨reading.directory, fileName, address, line⟩⟩
  | .empty | .foreign => reading

/-- The rows of a dump in the order of its lines. Rows before the first header have the empty
directory. -/
def rows (text : String) : List Row := ((lines text).foldl Reading.step ⟨"", #[]⟩).rows.toList

def skipNote (cs : List Char) (number : Nat) : Note :=
  ⟨.trace, "Skipping line " ++ Numeral.decimal number ++ " of line dump: " ++
    String.ofList (Text.trim cs)⟩

def notes (text : String) : List Note :=
  (Text.numberedLines text.toList).filterMap fun (cs, number) =>
    if DumpLine.ofLine cs = .foreign then some (skipNote cs number) else none

end LineDump

def LineTable.ofDump (text : String) : Noted LineTable :=
  ⟨LineTable.ofRows (LineDump.rows text), LineDump.notes text⟩

end Symbolication
