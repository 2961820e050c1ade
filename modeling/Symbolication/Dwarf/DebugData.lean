import Symbolication.Dwarf.Value
import Symbolication.Elf.Contents
import Symbolication.Failure

namespace Symbolication.Dwarf

/-- The contents of the sections that matter here, empty where there is no such section. -/
structure DebugData where
  order : ByteOrder
  abbreviations : Bytes
  addresses : Bytes
  info : Bytes
  lines : Bytes
  lineStrings : Bytes
  strings : Bytes
  stringOffsets : Bytes
  deriving DecidableEq

namespace DebugData

/-- The sections that must be readable wherever they are present, in the order of the check. -/
def sectionNames : List String :=
  ["debug_abbrev", "debug_addr", "debug_aranges", "debug_info", "debug_line", "debug_line_str",
    "debug_str", "debug_str_offsets", "debug_types", "debug_loc", "debug_loclists", "debug_ranges",
    "debug_rnglists"]

def isPresent (file : Elf.ObjectFile) : Bool := Elf.isFilled (file.debugSection? "debug_info")

def ofObject (file : Elf.ObjectFile) : Except BinaryFault DebugData :=
  match sectionNames.find? fun name => (file.debugContents? name).isNone with
  | some name => .error (.section ("." ++ name))
  | none =>
    let contents (name : String) := (file.debugContents? name).getD []
    .ok {
      order := file.layout.order
      abbreviations := contents "debug_abbrev"
      addresses := contents "debug_addr"
      info := contents "debug_info"
      lines := contents "debug_line"
      lineStrings := contents "debug_line_str"
      strings := contents "debug_str"
      stringOffsets := contents "debug_str_offsets" }

def ofBytes (bytes : Bytes) : Except BinaryFault DebugData :=
  match Elf.ObjectFile.read? bytes with
  | none => .error .object
  | some file => if isPresent file then ofObject file else .error .noDebugInfo

end DebugData

/-- What the values of a unit refer to by number. -/
structure Bases where
  /-- Where the unit's string offsets start. -/
  strings : Nat
  /-- Where the unit's addresses start. -/
  addresses : Nat
  deriving DecidableEq, Repr

/-- The part of a table that starts with the item of a number. -/
def tableFrom (table : Bytes) (base index width : Nat) : Bytes :=
  (table.drop base).drop (index * width % UInt64.size)

namespace DebugData

def address? (data : DebugData) (e : Encoding) (bases : Bases) (index : Nat) : Option Nat :=
  e.address.run' (tableFrom data.addresses bases.addresses index e.addressSize)

def string? (data : DebugData) (e : Encoding) (bases : Bases) : StringPlace → Option Bytes
  | .inline bytes => some bytes
  | .shared offset => Reader.untilZero.run' (data.strings.drop offset)
  | .sharedByLines offset => Reader.untilZero.run' (data.lineStrings.drop offset)
  | .indexed index => do
    let offset ← e.word.run' (tableFrom data.stringOffsets bases.strings index e.wordSize)
    Reader.untilZero.run' (data.strings.drop offset)

def stringOf? (data : DebugData) (e : Encoding) (bases : Bases) : Value → Option Bytes
  | .string place => data.string? e bases place
  | _ => none

end DebugData

end Symbolication.Dwarf
