import Symbolication.Address
import Symbolication.Command.RunFailure
import Symbolication.Text.Utf8

namespace Symbolication.Command

/-- What a run is asked about next. -/
inductive Request where
  | argument (text : String)
  /-- A line of input without the blanks around it. Lines are counted from 1. -/
  | inputLine (number : Nat) (text : String)
  /-- A line of input that is not UTF-8. -/
  | illFormedLine
  deriving DecidableEq, Repr

namespace Request

def address? : Request → Option Address
  | argument text | inputLine _ text => Address.read? text.toList
  | illFormedLine => none

/-- Why there is no address. -/
def failure : Request → RunFailure
  | argument text => .badArgument text
  | inputLine number text => .badInputLine number text
  | illFormedLine => .unreadableInput .notUtf8

/-- The request of a line of input, unless the line is blank. -/
def ofLine (bytes : Bytes) (number : Nat) : Option Request :=
  match Text.Utf8.decode? bytes with
  | none => some illFormedLine
  | some line =>
    let text := Text.trim line.toList
    if text.isEmpty then none else some (inputLine number (String.ofList text))

/-- The requests of standard input. -/
def ofInput (input : Bytes) : List Request :=
  ((input.splitOn 0x0a).zipIdx 1).filterMap fun (line, number) => ofLine line number

end Request

end Symbolication.Command
