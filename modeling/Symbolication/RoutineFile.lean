import Symbolication.Failure
import Symbolication.Routine
import Symbolication.Text.Lines

/-! One routine a line: its start in hexadecimal digits, its image, its name, and its size in
decimal digits or nothing, with semicolons between. Blanks around a field do not count, further
fields are ignored, and so are blank lines. -/

namespace Symbolication.RoutineFile

/-- Reads one line. The fields are checked in the order start, count, name, size. -/
def routine (line : List Char) : Except RoutineFault Routine :=
  let fields := (Text.fields line).map Text.trim
  match Address.read? (fields.headD []) with
  | none => .error (.badStart (String.ofList (fields.headD [])))
  | some start =>
    match fields.tail with
    | image :: name :: rest =>
      if name.isEmpty then .error .emptyName
      else
        let routine := Routine.mk (String.ofList name) (String.ofList image) start
        let size := rest.headD []
        if size.isEmpty then .ok (routine none)
        else
          match Word.read? size with
          | none => .error (.badSize (String.ofList size))
          | some size => .ok (routine (some size))
    | _ => .error .missingField

/-- The lines that are not blank, with their numbers. -/
def filledLines (text : String) : List (List Char × Nat) :=
  (Text.numberedLines text.toList).filter fun (line, _) => !(Text.trim line).isEmpty

/-- Reads lines up to the first bad one. -/
def routines (source : String) (lines : List (List Char × Nat)) :
    Except Failure (List Routine) :=
  lines.mapM fun (line, number) => (routine line).mapError (Failure.badLine source number)

end Symbolication.RoutineFile

namespace Symbolication

/-- The routines of a file's text. The source is named where a line is bad. -/
def RoutineMap.read (text source : String) : Except Failure RoutineMap :=
  (RoutineFile.routines source (RoutineFile.filledLines text)).map RoutineMap.ofList

end Symbolication
