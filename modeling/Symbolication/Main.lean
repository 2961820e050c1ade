import Symbolication.Command

namespace Symbolication.Program

/-- Why the system could not read a file. Its error numbers may come with a minus sign. -/
def faultOf (e : IO.Error) : ReadFault :=
  match e with
  | .noFileOrDirectory .. => .notFound
  | .permissionDenied .. => .denied
  | .inappropriateType _ number _ | .invalidArgument _ number _ =>
    match min number (0 - number) with
    | 20 => .notDirectory
    | 21 => .isDirectory
    | 36 => .nameTooLong
    | _ => .other (toString e)
  | _ => .other (toString e)

def entryAt (path : String) : IO Entry := do
  match ← (IO.FS.readBinFile path).toBaseIO with
  | .ok content => return .file content.toList
  | .error e =>
    match faultOf e with
    | .isDirectory => return .directory
    | .denied => return .locked
    | fault => return .unreachable fault

def filesOf (options : Command.Options) : IO Files := do
  let paths := options.lineDump.toList ++
    (options.target.map fun target => target.binary :: target.routines.toList).getD []
  let entries ← paths.mapM fun path => return (path, ← entryAt path)
  return fun path => (entries.lookup path).getD (.unreachable .notFound)

/-- The rest of a stream. -/
partial def readAll (stream : IO.FS.Stream) (soFar : ByteArray) : IO ByteArray := do
  let part ← stream.read 65536
  if part.isEmpty then return soFar else readAll stream (soFar ++ part)

def usage : String :=
  "Usage: tracesym [OPTIONS] [ADDRESS]...\n\n" ++
  "  -b, --binary <BINARY>   the binary that the addresses belong to\n" ++
  "  -r, --routines <FILE>   a routine file; the addresses are then runtime addresses\n" ++
  "      --line-dump <FILE>  a line dump to use instead of the binary's own line table\n" ++
  "      --json              write one JSON object for each address\n" ++
  "  -q, --quiet             write no warnings and no summary\n" ++
  "  -h, --help              write this text\n"

def run (arguments : List String) : IO UInt32 := do
  match Command.Options.read arguments with
  | .error .help =>
    IO.print usage
    return 0
  | .error .usage =>
    IO.eprint usage
    return 2
  | .ok options =>
    let files ← filesOf options
    let input ← if options.addresses.isEmpty then readAll (← IO.getStdin) .empty else pure .empty
    let output := Command.perform files options input.toList
    IO.print output.stdout
    IO.eprint output.stderr
    return output.code.toUInt32

end Symbolication.Program

def main (arguments : List String) : IO UInt32 := Symbolication.Program.run arguments
