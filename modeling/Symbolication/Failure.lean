import Symbolication.Log
import Symbolication.Numeral
import Symbolication.Text.Category

/-! Why a table cannot be built. A failure names its cause, and `Failure.message` is the one place
where it is worded. An asterisk in a message stands for the details of a malformed file. -/

namespace Symbolication

/-- Why a file cannot be read. -/
inductive ReadFault where
  | notFound
  | notDirectory
  | isDirectory
  | nameTooLong
  | denied
  | notUtf8
  | other (text : String)
  deriving DecidableEq, Repr

/-- Why a routine file line names no routine. -/
inductive RoutineFault where
  | badStart (text : String)
  | missingField
  | emptyName
  | badSize (text : String)
  deriving DecidableEq, Repr

/-- Why a binary gives no table. -/
inductive BinaryFault where
  /-- The bytes are no object file. -/
  | object
  /-- There is no debug information, or an empty section of it. -/
  | noDebugInfo
  /-- A section lies outside the file or does not decompress. -/
  | section (name : String)
  /-- The contents do not follow their format. -/
  | malformed
  deriving DecidableEq, Repr

/-- Why a table cannot be built. -/
inductive Failure where
  | unreadable (path : String) (fault : ReadFault)
  | undecodable (path : String) (fault : BinaryFault)
  | badLine (source : String) (line : Nat) (fault : RoutineFault)
  deriving DecidableEq, Repr

/-- A table in the making: what was noted, and the table or the failure. -/
abbrev Loading := ExceptT Failure Noted

namespace Text

/-- A character as it stands in quoted text. What would not be seen as itself is escaped. -/
def escaped (c : Char) : List Char :=
  match c with
  | '\x00' => ['\\', '0']
  | '\t' => ['\\', 't']
  | '\r' => ['\\', 'r']
  | '\n' => ['\\', 'n']
  | '"' => ['\\', '"']
  | '\\' => ['\\', '\\']
  | _ =>
    if isUnprintable c || isIgnorable c || isExtending c then
      ['\\', 'u', '\x7b'] ++ Numeral.write 16 c.toNat ++ ['\x7d']
    else [c]

def quoted (s : String) : String := String.ofList ('"' :: s.toList.flatMap escaped ++ ['"'])

end Text

def ReadFault.message : ReadFault → String
  | .notFound => "No such file or directory (os error 2)"
  | .notDirectory => "Not a directory (os error 20)"
  | .isDirectory => "Is a directory (os error 21)"
  | .nameTooLong => "File name too long (os error 36)"
  | .denied => "Permission denied (os error 13)"
  | .notUtf8 => "stream did not contain valid UTF-8"
  | .other text => text

def RoutineFault.message : RoutineFault → String
  | .badStart text => "invalid start address " ++ Text.quoted text
  | .missingField => "expected <start>;<module>;<name>[;<size>]"
  | .emptyName => "empty routine name"
  | .badSize text => "invalid size " ++ Text.quoted text

def BinaryFault.message : BinaryFault → String
  | .object => "Failed to parse object file: *"
  | .noDebugInfo => "no DWARF .debug_info section (stripped or built without -g)"
  | .section name => "Failed to read section " ++ name ++ ": *"
  | .malformed => "*"

def Failure.message : Failure → String
  | .unreadable path fault => "Failed to open " ++ path ++ ": " ++ fault.message
  | .undecodable path fault =>
    "Failed to decode debug information in " ++ path ++ ": " ++ fault.message
  | .badLine source line fault =>
    "Malformed line " ++ Numeral.decimal line ++ " in " ++ source ++ ": " ++
      fault.message

/-- Why a file could not be read, where that is what a table fails for. -/
def Failure.cause? : Failure → Option ReadFault
  | .unreadable _ fault => some fault
  | .undecodable .. | .badLine .. => none

end Symbolication
