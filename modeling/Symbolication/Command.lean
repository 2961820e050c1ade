import Symbolication.Command.Options
import Symbolication.Command.Request
import Symbolication.Engine

namespace Symbolication.Command

/-- What a run leaves behind. -/
structure Output where
  code : Nat
  stdout : String
  stderr : String
  deriving DecidableEq, Repr

/-- Checks that the target is a file, and tells what it lacks unless the run is to be quiet. -/
def checkTarget (files : Files) (options : Options) : Except TargetFault (Option Shortage) :=
  match options.target with
  | none => .ok none
  | some target => do
    files.target target.binary
    if options.quiet then return none else files.shortage? target.binary

/-- The line table, of a dump if there is one and else of the binary. -/
def lines (files : Files) (options : Options) : Except RunFailure (Loading LineTable) :=
  match options.lineDump, options.target with
  | some dump, _ => .ok (LineTable.ofDumpFile files dump)
  | none, some target => .ok (LineTable.ofBinary files target.binary)
  | none, none => .error .noSource

/-- An engine of tables that are still to be built. Static addresses are labelled in JSON only. -/
def tables (files : Files) (options : Options) (lines : Loading LineTable) : Loading Engine :=
  match options.target with
  | some ⟨binary, some routines⟩ =>
    Engine.runtime <$> RunTables.assemble files lines binary routines
  | some ⟨binary, none⟩ => do
    let lines ← lines
    if options.json then return .static lines (some (← SymbolIndex.ofBinary files binary))
    else return .static lines none
  | none => (Engine.static · none) <$> lines

def engine (files : Files) (options : Options) : Except RunFailure Engine := do
  let _ ← (checkTarget files options).mapError .badTarget
  (tables files options (← lines files options)).result.mapError .badTable

def requests (options : Options) (input : Bytes) : List Request :=
  if options.addresses.isEmpty then Request.ofInput input
  else options.addresses.map Request.argument

def errorLine (failure : RunFailure) : String := "error: " ++ failure.chain ++ "\n"

/-- How far a run has come: what it has written, how many addresses it has answered, and how many of
the answers are hits. -/
structure Progress where
  written : String
  total : Nat
  resolved : Nat
  deriving DecidableEq, Repr

def Progress.write (progress : Progress) (asJson : Bool) (answer : Answer) : Progress :=
  ⟨progress.written ++ answer.line asJson, progress.total + 1,
    progress.resolved + if answer.isHit then 1 else 0⟩

def Progress.summary (progress : Progress) : String :=
  "resolved " ++ Numeral.decimal progress.resolved ++ " of " ++ Numeral.decimal progress.total ++
    " addresses\n"

/-- Answers requests up to the first that has no address. -/
def answerAll (engine : Engine) (asJson : Bool) (progress : Progress) :
    List Request → Progress × Option RunFailure
  | [] => (progress, none)
  | request :: rest =>
    match request.address? with
    | some a => answerAll engine asJson (progress.write asJson (engine.answer a)) rest
    | none => (progress, some request.failure)

/-- The line that says what the target lacks. -/
def warning (files : Files) (options : Options) : String :=
  match checkTarget files options with
  | .ok (some shortage) => "warning: " ++ shortage.message ++ "\n"
  | _ => ""

/-- Answers the requests of a run. What was written before a failure stays. -/
def reply (options : Options) (engine : Engine) (requests : List Request) : Output :=
  match answerAll engine options.json ⟨"", 0, 0⟩ requests with
  | (progress, some failure) => ⟨failure.code, progress.written, errorLine failure⟩
  | (progress, none) => ⟨0, progress.written, if options.quiet then "" else progress.summary⟩

def perform (files : Files) (options : Options) (input : Bytes) : Output :=
  let output : Output := match engine files options with
    | .error failure => ⟨failure.code, "", errorLine failure⟩
    | .ok engine => reply options engine (requests options input)
  { output with stderr := warning files options ++ output.stderr }

def run (files : Files) (arguments : List String) (input : Bytes) : Except Refusal Output :=
  (Options.read arguments).map (perform files · input)

end Symbolication.Command
