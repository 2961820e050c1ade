/-! The arguments of the command. An option that takes a value is followed by it, or has it
attached: after an equals sign, or after the letter of a short option. Short options may share one
dash, and after a lone `--` there are no more options. No option may be given twice. -/

namespace Symbolication.Command

/-- The binary that addresses belong to. With a routine file they are runtime addresses. -/
structure Target where
  binary : String
  routines : Option String
  deriving DecidableEq, Repr

/-- What a run is asked to do. -/
structure Options where
  target : Option Target
  /-- The file from which line numbers are taken instead of the binary. -/
  lineDump : Option String
  json : Bool
  quiet : Bool
  /-- Where there are none, the addresses come from standard input. -/
  addresses : List String
  deriving DecidableEq, Repr

/-- Why the arguments ask for no run. -/
inductive Refusal where
  | usage
  /-- Help was asked for. -/
  | help
  deriving DecidableEq, Repr

/-- An option that takes a value. -/
inductive Setting where
  | binary
  | routines
  | lineDump
  deriving DecidableEq, Repr

/-- An option that takes none. -/
inductive Switch where
  | json
  | quiet
  | help
  deriving DecidableEq, Repr

/-- The options of long names. -/
def long? : String → Option (Setting ⊕ Switch)
  | "binary" => some (.inl .binary)
  | "routines" => some (.inl .routines)
  | "line-dump" => some (.inl .lineDump)
  | "json" => some (.inr .json)
  | "quiet" => some (.inr .quiet)
  | "help" => some (.inr .help)
  | _ => none

/-- The options of letters. -/
def short? : Char → Option (Setting ⊕ Switch)
  | 'b' => some (.inl .binary)
  | 'r' => some (.inl .routines)
  | 'q' => some (.inr .quiet)
  | 'h' => some (.inr .help)
  | _ => none

/-- One argument before the end of the options. -/
inductive Argument where
  | address
  | long (name : String) (value : Option String)
  | letters (cs : List Char)
  deriving DecidableEq, Repr

/-- The form of an argument. A lone dash is no option. -/
def Argument.ofString (s : String) : Argument :=
  match s.toList with
  | '-' :: '-' :: rest =>
    let value := rest.dropWhile (· ≠ '=')
    .long (String.ofList (rest.takeWhile (· ≠ '=')))
      (if value.isEmpty then none else some (String.ofList value.tail))
  | '-' :: c :: rest => .letters (c :: rest)
  | _ => .address

/-- The arguments read so far. -/
structure Draft where
  binary : Option String
  routines : Option String
  lineDump : Option String
  json : Bool
  quiet : Bool
  addresses : List String

namespace Draft

def empty : Draft := ⟨none, none, none, false, false, []⟩

/-- Gives a setting its value, which is not empty. -/
def set (draft : Draft) (key : Setting) (value : String) : Except Refusal Draft :=
  let old := match key with
    | .binary => draft.binary
    | .routines => draft.routines
    | .lineDump => draft.lineDump
  if value = "" ∨ old.isSome then .error .usage
  else match key with
    | .binary => .ok { draft with binary := some value }
    | .routines => .ok { draft with routines := some value }
    | .lineDump => .ok { draft with lineDump := some value }

def turnOn (draft : Draft) : Switch → Except Refusal Draft
  | .json => if draft.json then .error .usage else .ok { draft with json := true }
  | .quiet => if draft.quiet then .error .usage else .ok { draft with quiet := true }
  | .help => .error .help

def add (draft : Draft) (addresses : List String) : Draft :=
  { draft with addresses := draft.addresses ++ addresses }

/-- Reads the letters behind one dash. What follows the letter of a setting is its value; where
nothing does, the value is the next argument. -/
def letters (draft : Draft) : List Char → Except Refusal (Draft × Option Setting)
  | [] => .ok (draft, none)
  | c :: rest =>
    match short? c with
    | none => .error .usage
    | some (.inr key) => do letters (← draft.turnOn key) rest
    | some (.inl key) =>
      if rest.isEmpty then .ok (draft, some key)
      else do
        let value := if rest.head? = some '=' then rest.tail else rest
        return (← draft.set key (String.ofList value), none)

/-- Reads one argument, which may leave a setting without its value. -/
def argument (draft : Draft) (s : String) : Except Refusal (Draft × Option Setting) :=
  match Argument.ofString s with
  | .address => .ok (draft.add [s], none)
  | .letters cs => draft.letters cs
  | .long name value =>
    match long? name, value with
    | some (.inl key), none => .ok (draft, some key)
    | some (.inl key), some value => do return (← draft.set key value, none)
    | some (.inr key), none => do return (← draft.turnOn key, none)
    | _, _ => .error .usage

/-- Reads arguments. The value of a setting does not look like an option. -/
def arguments (draft : Draft) : List String → Except Refusal Draft
  | [] => .ok draft
  | s :: rest =>
    if s = "--" then .ok (draft.add rest)
    else
      match draft.argument s with
      | .error refusal => .error refusal
      | .ok (draft, none) => arguments draft rest
      | .ok (draft, some key) =>
        match rest with
        | [] => .error .usage
        | value :: rest =>
          if Argument.ofString value = .address then
            match draft.set key value with
            | .error refusal => .error refusal
            | .ok draft => arguments draft rest
          else .error .usage

/-- The options that were given. Routines belong to a binary. -/
def options (draft : Draft) : Except Refusal Options :=
  let build (target : Option Target) : Options :=
    ⟨target, draft.lineDump, draft.json, draft.quiet, draft.addresses⟩
  match draft.binary, draft.routines with
  | some binary, routines => .ok (build (some ⟨binary, routines⟩))
  | none, none => .ok (build none)
  | none, some _ => .error .usage

end Draft

def Options.read (arguments : List String) : Except Refusal Options := do
  (← Draft.empty.arguments arguments).options

end Symbolication.Command
