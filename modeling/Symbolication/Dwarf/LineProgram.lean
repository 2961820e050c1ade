import Symbolication.Address
import Symbolication.Bytes.Decoded
import Symbolication.Dwarf.LineHeader

/-! A line program is a list of instructions on a few registers. Some of the instructions emit a
row, which is what the registers say at that moment. The last row of a sequence only marks its end.

An address that starts below the last one, or that stands for no address, belongs to code that was
left out of the binary. Rows are discarded from there to the next good address or the end of the
sequence, and the address register keeps its value. -/

namespace Symbolication.Dwarf

inductive Instruction where
  /-- Advances the address and the line by what the opcode says, and emits a row. -/
  | special (opcode : Nat)
  | emit
  | advance (operations : Word)
  | advanceLine (lines : Int)
  | setFile (index : Nat)
  /-- Advances the address as the last special opcode does. -/
  | advanceAsLast
  | advanceFixed (bytes : Word)
  | endSequence
  | setAddress (address : Address)
  | addFile (file : FileEntry)
  /-- Changes nothing that matters here. -/
  | other
  deriving DecidableEq, Repr

namespace Instruction

def readExtended (header : LineHeader) : Reader Instruction := do
  match (← Reader.byte).toNat with
  | 1 => return .endSequence
  | 2 => return .setAddress (UInt64.ofNat (← header.encoding.address))
  | 3 =>
    if header.encoding.version < 5 then
      return .addFile (← FileEntry.readAfter (← Reader.untilZero))
    else return .other
  | 4 =>
    let _discriminator ← Reader.unsigned
    return .other
  | _ => return .other

/-- Reads the operands of an instruction that changes nothing here. -/
def skip (operands : Nat) : Reader Instruction := do
  let _ ← Reader.times Reader.unsigned operands
  return .other

/-- Reads the operands of an instruction of the first set. An unknown one has as many as the header
says. -/
def readStandard (header : LineHeader) (opcode : Nat) : Reader Instruction := do
  match opcode with
  | 1 => return .emit
  | 2 => return .advance (UInt64.ofNat (← Reader.unsigned))
  | 3 => return .advanceLine (← Reader.signed)
  | 4 => return .setFile (← Reader.unsigned)
  | 5 | 12 => skip 1
  | 6 | 7 | 10 | 11 => skip 0
  | 8 => return .advanceAsLast
  | 9 => return .advanceFixed (UInt64.ofNat (← header.encoding.number 2))
  | _ => skip (header.operandCounts.getD (opcode - 1) 0)

/-- Reads an instruction. One of the second set follows a zero and its length, which may hold more
bytes than are used. -/
def read (header : LineHeader) : Reader Instruction := do
  let opcode := (← Reader.byte).toNat
  if opcode = 0 then
    Reader.within (← Reader.take (← Reader.unsigned)) (readExtended header)
  else if header.firstSpecial ≤ opcode then return .special opcode
  else readStandard header opcode

end Instruction

/-- What the instructions act on. -/
structure Registers where
  address : Address
  /-- The place in an instruction of several operations. -/
  operation : Word
  file : Nat
  line : Word
  /-- The rows belong to code that was left out. -/
  discarded : Bool
  deriving DecidableEq, Repr

def Registers.initial : Registers := ⟨0, 0, 1, 1, false⟩

structure ProgramRow where
  address : Address
  line : Word
  /-- The file of the row, if there is one of its number. -/
  file : Option FileEntry
  /-- The row marks the end of a sequence. -/
  endsSequence : Bool
  deriving DecidableEq, Repr

namespace Registers

/-- A line some lines away, which wraps upward and stops at 0 downward. -/
def lineAt (line : Word) (lines : Int) : Word :=
  if lines < 0 then UInt64.ofNat (line.toNat - lines.natAbs)
  else line + UInt64.ofNat lines.natAbs

def advanceLine (registers : Registers) (lines : Int) : Registers :=
  { registers with line := lineAt registers.line lines }

/-- Advances the address, which must stay within its size. -/
def advanceBytes (e : Encoding) (registers : Registers) (bytes : Word) : Option Registers := do
  let address ← Word.sum? registers.address bytes
  guard (address.toNat ≤ e.lastAddress)
  return { registers with address }

/-- Advances the place in an instruction, and the address by the instructions that were passed. The
operations and the bytes wrap. -/
def advance (header : LineHeader) (registers : Registers) (operations : Word) :
    Option Registers :=
  if registers.discarded then some registers
  else
    let place := registers.operation + operations
    let size := UInt64.ofNat header.operations
    if header.operations = 1 then
      { registers with operation := 0 }.advanceBytes header.encoding
        (UInt64.ofNat header.unitSize * operations)
    else
      { registers with operation := place % size }.advanceBytes header.encoding
        (UInt64.ofNat header.unitSize * (place / size))

/-- The operations that a special opcode advances by. -/
def operationsOf (header : LineHeader) (opcode : Nat) : Word :=
  UInt64.ofNat ((opcode - header.firstSpecial) / header.lineRange)

/-- The lines that a special opcode advances by. -/
def linesOf (header : LineHeader) (opcode : Nat) : Int :=
  header.lineBase + ((opcode - header.firstSpecial) % header.lineRange : Nat)

/-- Moves to an address, or to code that was left out. -/
def setAddress (e : Encoding) (registers : Registers) (address : Address) : Registers :=
  if address < registers.address ∨ address.toNat = e.lastAddress then
    { registers with discarded := true }
  else { registers with address, operation := 0, discarded := false }

/-- The row that the registers say, unless it is discarded. -/
def row? (registers : Registers) (tables : FileTables) (endsSequence : Bool) :
    Option ProgramRow :=
  if registers.discarded then none
  else some ⟨registers.address, registers.line, tables.file? registers.file, endsSequence⟩

end Registers

/-- A run of a line program: the registers, and the tables, to which files may be added. -/
structure LineRun where
  registers : Registers
  tables : FileTables

namespace LineRun

/-- Performs an instruction, which may emit a row. After the end of a sequence the registers start
anew. -/
def step (header : LineHeader) (run : LineRun) (instruction : Instruction) :
    Option (LineRun × Option ProgramRow) :=
  let registers := run.registers
  let silent (registers : Registers) : LineRun × Option ProgramRow :=
    ({ run with registers }, none)
  let emitting (registers : Registers) : LineRun × Option ProgramRow :=
    ({ run with registers }, registers.row? run.tables false)
  match instruction with
  | .special opcode =>
    ((registers.advanceLine (Registers.linesOf header opcode)).advance header
      (Registers.operationsOf header opcode)).map emitting
  | .emit => some (emitting registers)
  | .advance operations => (registers.advance header operations).map silent
  | .advanceLine lines => some (silent (registers.advanceLine lines))
  | .setFile file => some (silent { registers with file })
  | .advanceAsLast => (registers.advance header (Registers.operationsOf header 255)).map silent
  | .advanceFixed bytes =>
    if registers.discarded then some (silent registers)
    else ({ registers with operation := 0 }.advanceBytes header.encoding bytes).map silent
  | .endSequence => some ({ run with registers := .initial }, registers.row? run.tables true)
  | .setAddress address => some (silent (registers.setAddress header.encoding address))
  | .addFile file => some ({ run with tables := run.tables.addFile file }, none)
  | .other => some (silent registers)

/-- Performs instructions up to one that moves the address out of its size. -/
def rows (header : LineHeader) (run : LineRun) (complete : Bool) :
    List Instruction → Decoded ProgramRow
  | [] => ⟨[], complete⟩
  | instruction :: rest =>
    match run.step header instruction with
    | none => ⟨[], false⟩
    | some (run, row) =>
      let later := rows header run complete rest
      ⟨row.toList ++ later.items, later.complete⟩

end LineRun

structure LineProgram where
  header : LineHeader
  code : Bytes
  deriving DecidableEq, Repr

def LineProgram.rows (program : LineProgram) : Decoded ProgramRow :=
  let instructions := Decoded.ofBytes (Instruction.read program.header) program.code
  LineRun.rows program.header ⟨.initial, program.header.tables⟩ instructions.complete
    instructions.items

end Symbolication.Dwarf
