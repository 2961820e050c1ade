import Symbolication.Elf.ObjectFile
import Symbolication.Files

namespace Symbolication

/-- Why a path names no target. -/
inductive TargetFault where
  | notFound (path : String)
  | notFile (path : String)
  | unreadable (path : String) (fault : ReadFault)
  deriving DecidableEq, Repr

def TargetFault.message : TargetFault → String
  | .notFound path =>
    "Binary not found: " ++ path ++ "\n\nMake sure the path is correct and the binary exists."
  | .notFile path =>
    "Not a file: " ++ path ++
      "\n\n--binary must point to an executable or shared object, not a directory."
  | .unreadable path _ => "Failed to read binary: " ++ path

/-- Why a target could not be read, where that is the fault. -/
def TargetFault.cause? : TargetFault → Option ReadFault
  | .notFound _ | .notFile _ => none
  | .unreadable _ fault => some fault

/-- What a target lacks. -/
inductive Shortage where
  | everything
  | lines
  | symbols
  deriving DecidableEq, Repr

def Shortage.message : Shortage → String
  | .everything => "binary stripped, no address can be symbolized"
  | .lines => "no DWARF line info, rebuild the target with -g"
  | .symbols => "no .symtab, runtime addresses cannot be re-anchored"

def Elf.ObjectFile.shortage? (file : Elf.ObjectFile) : Option Shortage :=
  match Elf.isFilled (file.debugSection? "debug_line"), Elf.isFilled (file.named? ".symtab") with
  | false, false => some .everything
  | false, true => some .lines
  | true, false => some .symbols
  | true, true => none

/-- Checks that a path leads to a file, whether or not the file may be read. -/
def Files.target (files : Files) (path : String) : Except TargetFault Unit :=
  match files path with
  | .file _ | .locked => .ok ()
  | .directory => .error (.notFile path)
  | .unreachable _ => .error (.notFound path)

/-- What a target lacks. A file that is no object file is left to its decoder. -/
def Files.shortage? (files : Files) (path : String) : Except TargetFault (Option Shortage) :=
  match files.read path with
  | .ok content => .ok ((Elf.ObjectFile.read? content).bind (·.shortage?))
  | .error fault => .error (.unreadable path fault)

end Symbolication
