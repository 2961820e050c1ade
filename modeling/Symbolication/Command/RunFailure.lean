import Symbolication.Failure
import Symbolication.Target

/-! Why a run of the command ends early. What may not be read has an exit code of its own. Otherwise
the exit code goes by the words of the message: what sounds like a wrong argument is a usage error.
-/

namespace Symbolication.Command

inductive RunFailure where
  /-- There is nothing to take line numbers from. -/
  | noSource
  | badTarget (fault : TargetFault)
  | badTable (failure : Failure)
  | badArgument (text : String)
  | badInputLine (line : Nat) (text : String)
  | unreadableInput (fault : ReadFault)
  deriving DecidableEq, Repr

namespace RunFailure

def message : RunFailure → String
  | noSource =>
    "Missing required argument: --binary or --line-dump\n\nRun 'tracesym --help' for usage"
  | badTarget fault => fault.message
  | badTable failure => failure.message
  | badArgument text => "Invalid address: " ++ text
  | badInputLine line text =>
    "Invalid address on stdin line " ++ Numeral.decimal line ++ ": " ++ text
  | unreadableInput _ => "Failed to read addresses from stdin"

/-- Why a file or the input could not be read, where that is the failure. -/
def cause? : RunFailure → Option ReadFault
  | badTarget fault => fault.cause?
  | badTable failure => failure.cause?
  | unreadableInput fault => some fault
  | noSource | badArgument _ | badInputLine .. => none

/-- The message, followed by its cause where there is one. -/
def chain (failure : RunFailure) : String :=
  match failure.cause? with
  | some fault => failure.message ++ ": " ++ fault.message
  | none => failure.message

/-- Whether a text occurs in another. -/
def occursIn (part : List Char) : List Char → Bool
  | [] => part.isEmpty
  | c :: rest => part.isPrefixOf (c :: rest) || occursIn part rest

/-- What a message about a wrong argument says, in letters of either case. -/
def usagePhrases : List String := ["missing required argument", "invalid address"]

/-- The exit code of a run that ends early. -/
def code (failure : RunFailure) : Nat :=
  let message := failure.message.toList.map Char.toLower
  if failure.cause? = some .denied then 77
  else if usagePhrases.any fun phrase => occursIn phrase.toList message then 2 else 1

end RunFailure

end Symbolication.Command
