import Symbolication.Dwarf.Abbreviation
import Symbolication.Dwarf.DebugData
import Symbolication.Dwarf.LineProgram

namespace Symbolication.Dwarf

/-- What stands before the entries of a unit. -/
structure UnitHeader where
  encoding : Encoding
  abbreviationsAt : Nat
  entries : Bytes
  deriving DecidableEq, Repr

namespace UnitHeader

/-- The size of what a kind of unit has before its entries, from version 5 on. -/
def extraSize (e : Encoding) : (kind : Nat) → Option Nat
  | 1 | 3 => some 0
  | 2 | 6 => some (8 + e.wordSize)
  | 4 | 5 => some 8
  | _ => none

/-- Reads what follows the version, up to version 4. -/
def readEarly (e : Encoding) : Reader UnitHeader := do
  let abbreviationsAt ← e.word
  let addressSize ← addressSize
  return ⟨{ e with addressSize }, abbreviationsAt, ← Reader.rest⟩

/-- Reads what follows the version, in version 5. -/
def readLate (e : Encoding) : Reader UnitHeader := do
  let kind := (← Reader.byte).toNat
  let addressSize ← addressSize
  let abbreviationsAt ← e.word
  match extraSize e kind with
  | none => Reader.fail
  | some size =>
    let _ ← Reader.take size
    return ⟨{ e with addressSize }, abbreviationsAt, ← Reader.rest⟩

def read (order : ByteOrder) : Reader UnitHeader := do
  let (wide, unit) ← frame order
  Reader.within unit do
    let version ← Reader.number order 2
    let e : Encoding := ⟨order, wide, version, 0⟩
    if 2 ≤ version ∧ version ≤ 4 then readEarly e
    else if version = 5 then readLate e
    else Reader.fail

end UnitHeader

namespace Attribute

def name : Nat := 0x03

def lineProgram : Nat := 0x10

def firstAddress : Nat := 0x11

def directory : Nat := 0x1b

def stringBase : Nat := 0x72

/-- The base of addresses has had two names. -/
def addressBases : List Nat := [0x73, 0x2133]

end Attribute

abbrev Attributes := List (Nat × Value)

namespace Attributes

/-- The last value under one of some names that has a meaning. -/
def last? {α : Type} (values : Attributes) (names : List Nat) (meaning : Value → Option α) :
    Option α :=
  (values.filterMap fun (name, value) =>
    if name ∈ names then meaning value else none).getLast?

/-- An offset in another section, in the form that says so. -/
def base? : Value → Option Nat
  | .offset n => some n
  | _ => none

def bases (values : Attributes) : Bases where
  strings := (values.last? [Attribute.stringBase] base?).getD 0
  addresses := (values.last? Attribute.addressBases base?).getD 0

/-- The number of the entry's first address, where the address is given by number. -/
def firstAddress? (values : Attributes) : Option Nat :=
  match values.last? [Attribute.firstAddress] some with
  | some (.addressIndex n) => some n
  | _ => none

end Attributes

/-- Reads codes up to one that is not a filler, in `bound` steps at most. -/
def firstCode : (bound : Nat) → Reader Nat
  | 0 => Reader.fail
  | bound + 1 => do
    let code ← Reader.unsigned
    if code = 0 then firstCode bound else return code

/-- A unit with what its first entry says. -/
structure CompileUnit where
  encoding : Encoding
  bases : Bases
  names : UnitNames
  program : Option LineProgram
  deriving DecidableEq, Repr

namespace DebugData

def attributes? (data : DebugData) (header : UnitHeader) : Option Attributes := do
  let table ← Abbreviation.readTable.run' (data.abbreviations.drop header.abbreviationsAt)
  (do
    let code ← firstCode (← Reader.left)
    match table.find? (·.code = code) with
    | none => Reader.fail
    | some abbreviation => abbreviation.readAttributes header.encoding :
    Reader Attributes).run' header.entries

/-- The string of an attribute. A string that cannot be found is none. -/
def name? (data : DebugData) (e : Encoding) (values : Attributes) (name : Nat) : Option Bytes := do
  data.stringOf? e values.bases (← values.last? [name] some)

def program? (data : DebugData) (e : Encoding) (names : UnitNames) (offset : Nat) :
    Option LineProgram := do
  let (header, code) ← (LineHeader.read data.order e.addressSize names).run'
    (data.lines.drop offset)
  return ⟨header, code⟩

/-- The unit of a header. Its line program must be well-formed up to the instructions, and an
address given by number must exist. -/
def unit? (data : DebugData) (header : UnitHeader) : Option CompileUnit := do
  let e := header.encoding
  let values ← data.attributes? header
  let names : UnitNames := {
    directory := data.name? e values Attribute.directory
    name := data.name? e values Attribute.name }
  let program ← match values.last? [Attribute.lineProgram] (·.offset? e) with
    | some offset => some <$> data.program? e names offset
    | none => some none
  guard (values.firstAddress?.all fun index => (data.address? e values.bases index).isSome)
  return ⟨e, values.bases, names, program⟩

def headers (data : DebugData) : Decoded UnitHeader :=
  Decoded.ofBytes (UnitHeader.read data.order) data.info

/-- The units in the order of their section. -/
def units (data : DebugData) : Decoded CompileUnit := do
  Decoded.ofOption (data.unit? (← data.headers))

end DebugData

end Symbolication.Dwarf
