import Symbolication.Floor

namespace Symbolication

/-- The instructions from an address on come from a line of a source file. -/
structure Row where
  /-- Where the file's compilation ran, or what the dump names as such. -/
  directory : String
  fileName : String
  address : Address
  /-- Counted from 1. -/
  line : Word
  deriving DecidableEq, Repr

/-- The file name, the address and the line. -/
def Row.text (row : Row) : String :=
  row.fileName ++ " " ++ Word.hex row.address ++ " " ++ Word.decimal row.line

/-- Rows sorted by address. -/
structure LineTable where
  rows : Array Row
  ascending : Floor.Ascending Row.address rows.toList

namespace LineTable

/-- The table of some rows, given in any order. -/
def ofRows (rows : List Row) : LineTable where
  rows := (rows.mergeSort (Floor.before Row.address)).toArray
  ascending := by simpa using Floor.ascending_mergeSort Row.address rows

/-- The rows in ascending order. -/
def toList (table : LineTable) : List Row := table.rows.toList

def size (table : LineTable) : Nat := table.rows.size

def isEmpty (table : LineTable) : Bool := table.rows.isEmpty

/-- The row that an address belongs to: the last row at or below it. -/
def rowAt? (table : LineTable) (a : Address) : Option Row :=
  Floor.floor? Row.address table.rows a

@[simp] theorem toList_ofRows (rows : List Row) :
    (ofRows rows).toList = rows.mergeSort (Floor.before Row.address) := by
  simp [ofRows, toList]

theorem rowAt?_eq_getLast? (table : LineTable) (a : Address) :
    table.rowAt? a = (table.toList.filter (·.address ≤ a)).getLast? :=
  Floor.floor?_eq_getLast? table.ascending a

end LineTable

end Symbolication
