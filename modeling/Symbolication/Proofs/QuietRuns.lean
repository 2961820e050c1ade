import Symbolication.Proofs.DebugRows
import Symbolication.Proofs.Runs
import Symbolication.Proofs.Switches

/-! A quiet run does not look for what its binary lacks, and does not count its answers. The look is
taken before any table is built and could end the run itself, but only where the binary may not be
read, and then the tables could not be built either. -/

namespace Symbolication

def Files.content? (files : Files) (path : String) : Option Bytes := (files.read path).toOption

/-- The line that says what a binary lacks, or nothing. -/
def shortageLine (content : Bytes) : String :=
  match (Elf.ObjectFile.read? content).bind (·.shortage?) with
  | none => ""
  | some shortage => "warning: " ++ shortage.message ++ "\n"

theorem newline_notMem_message (shortage : Shortage) : '\n' ∉ shortage.message.toList := by
  cases shortage <;> decide

/-- There is one line at most. -/
theorem shortageLine_eq (content : Bytes) :
    shortageLine content = "" ∨
      ∃ line : String, '\n' ∉ line.toList ∧ shortageLine content = line ++ "\n" := by
  unfold shortageLine
  split
  · exact .inl rfl
  · next shortage _ =>
    right
    refine ⟨"warning: " ++ shortage.message, ?_, rfl⟩
    rw [String.toList_append, List.mem_append, not_or]
    exact ⟨by decide, newline_notMem_message shortage⟩

namespace Command

def Options.withQuiet (options : Options) : Options := { options with quiet := true }

/-- The option to be quiet can stand first, in either spelling. -/
theorem Options.read_quiet {arguments : List String} {options : Options}
    (h : Options.read arguments = .ok options) (hquiet : options.quiet = false) {s : String}
    (hs : s ∈ ["-q", "--quiet"]) : Options.read (s :: arguments) = .ok options.withQuiet := by
  simp only [List.mem_cons, List.not_mem_nil, or_false] at hs
  rcases hs with rfl | rfl
  · exact Options.read_switchedOn .quiet rfl h hquiet
  · exact Options.read_switchedOn .quiet rfl h hquiet

section

variable {files : Files} {options : Options}

def binaryContent? (files : Files) (options : Options) : Option Bytes :=
  options.target.bind fun target => files.content? target.binary

/-! ## The look at the binary -/

theorem checkTarget_withQuiet
    (hreadable : ∀ target ∈ options.target, files target.binary ≠ .locked) :
    checkTarget files options.withQuiet = (checkTarget files options).map fun _ => none := by
  unfold checkTarget Options.withQuiet
  cases htarget : options.target with
  | none => rfl
  | some target =>
    have hbinary := hreadable target htarget
    cases hentry : files target.binary with
    | locked => exact absurd hentry hbinary
    | directory =>
      simp [Files.target, hentry, bind, Except.bind, Except.map]
    | unreachable fault =>
      simp [Files.target, hentry, bind, Except.bind, Except.map]
    | file content =>
      cases options.quiet <;>
        simp [Files.target, Files.shortage?, Files.read, hentry, bind, Except.bind, Except.map,
          pure, Except.pure]

/-- Quiet changes nothing that an engine is built from. -/
theorem engine_withQuiet
    (hreadable : ∀ target ∈ options.target, files target.binary ≠ .locked) :
    Command.engine files options.withQuiet = Command.engine files options := by
  have hlines : lines files options.withQuiet = lines files options := rfl
  have htables (loading : Loading LineTable) :
      tables files options.withQuiet loading = tables files options loading := rfl
  simp only [engine_eq, checkTarget_withQuiet hreadable, hlines, htables]
  cases checkTarget files options <;> rfl

theorem warning_withQuiet (files : Files) (options : Options) :
    warning files options.withQuiet = "" := by
  have hnone (shortage : Shortage) : checkTarget files options.withQuiet ≠ .ok (some shortage) := by
    unfold checkTarget Options.withQuiet
    cases options.target with
    | none => simp
    | some target =>
      cases htarget : files.target target.binary <;>
        simp [htarget, bind, Except.bind, pure, Except.pure]
  unfold warning
  split
  · next shortage h => exact absurd h (hnone shortage)
  · rfl

/-- What a run says about its binary depends on the content of the binary alone. -/
theorem warning_eq_notice (hquiet : options.quiet = false) :
    warning files options = (binaryContent? files options).elim "" shortageLine := by
  unfold warning checkTarget binaryContent?
  cases options.target with
  | none => rfl
  | some target =>
    rw [hquiet]
    cases hentry : files target.binary with
    | file content =>
      simp only [Files.target, Files.shortage?, Files.content?, Files.read, hentry, bind,
        Except.bind, Bool.false_eq_true, if_false, Option.bind_some, Except.toOption,
        Option.elim_some, shortageLine]
      cases (Elf.ObjectFile.read? content).bind (·.shortage?) <;> rfl
    | directory | locked | unreachable fault =>
      simp [Files.target, Files.shortage?, Files.content?, Files.read, hentry, bind, Except.bind,
        Except.toOption]

end

/-! ## The outputs -/

def summaryLine (files : Files) (options : Options) (input : Bytes) : String :=
  "resolved " ++ Numeral.decimal (resolved files options input).length ++ " of " ++
    Numeral.decimal (requests options input).length ++ " addresses\n"

/-- The output of a run and that of the same run when it is quiet. -/
structure Output.Quieted (loud quiet : Output) (notice summary : String) : Prop where
  stdout : quiet.stdout = loud.stdout
  code : quiet.code = loud.code
  stderr : loud.stderr = notice ++ quiet.stderr ++ if loud.code = 0 then summary else ""

theorem perform_withQuiet (files : Files) (options : Options) (input : Bytes)
    (hreadable : ∀ target ∈ options.target, files target.binary ≠ .locked)
    (hquiet : options.quiet = false) :
    (perform files options input).Quieted (perform files options.withQuiet input)
      ((binaryContent? files options).elim "" shortageLine) (summaryLine files options input) := by
  have hsame := engine_withQuiet hreadable
  have hrequests : requests options.withQuiet input = requests options input := rfl
  have hsilent := warning_withQuiet files options
  have hnotice := @warning_eq_notice files options hquiet
  cases hengine : Command.engine files options with
  | error failure =>
    have hengine' : Command.engine files options.withQuiet = .error failure := hsame.trans hengine
    rw [perform_of_error hengine, perform_of_error hengine', hsilent, hnotice]
    refine ⟨rfl, rfl, ?_⟩
    simp [failure.code_ne_zero]
  | ok engine =>
    have hengine' : Command.engine files options.withQuiet = .ok engine := hsame.trans hengine
    cases hstop : stopping? (requests options input) with
    | some request =>
      have hstop' : stopping? (requests options.withQuiet input) = some request := hstop
      rw [perform_of_stopping hengine hstop, perform_of_stopping hengine' hstop', hsilent, hnotice,
        hrequests]
      refine ⟨rfl, rfl, ?_⟩
      simp [request.failure.code_ne_zero]
    | none =>
      have hstop' : stopping? (requests options.withQuiet input) = none := hstop
      rw [perform_of_complete hengine hstop, perform_of_complete hengine' hstop', hsilent, hnotice,
        hrequests, ← length_resolved hengine]
      refine ⟨rfl, rfl, ?_⟩
      simp [hquiet, Options.withQuiet, summaryLine]

/-- The option to be quiet changes nothing but standard error. What it takes away is the line about
the binary, which stands first, and the summary, which stands last where the run succeeds. -/
theorem run_quiet (files : Files) (arguments : List String) (options : Options) (input : Bytes)
    (hreadable : ∀ target ∈ options.target, files target.binary ≠ .locked)
    (hread : Options.read arguments = .ok options) (hquiet : options.quiet = false) :
    (∀ s ∈ ["-q", "--quiet"], Options.read (s :: arguments) = .ok options.withQuiet) ∧
      (∀ content, shortageLine content = "" ∨
        ∃ line : String, '\n' ∉ line.toList ∧ shortageLine content = line ++ "\n") ∧
      ∀ quieted, Options.read quieted = .ok options.withQuiet →
        ∃ loud quiet : Output, run files arguments input = .ok loud ∧
          run files quieted input = .ok quiet ∧
          loud.Quieted quiet ((binaryContent? files options).elim "" shortageLine)
            (summaryLine files options input) := by
  refine ⟨fun s hs => Options.read_quiet hread hquiet hs, shortageLine_eq, ?_⟩
  intro quieted hquieted
  refine ⟨perform files options input, perform files options.withQuiet input, ?_, ?_,
    perform_withQuiet files options input hreadable hquiet⟩
  · rw [run, hread]
    rfl
  · rw [run, hquieted]
    rfl

/-- A binary without symbols, about which the run that is not quiet has a line to write. -/
theorem run_quiet_small :
    Options.read ["-b", "a.out", "0", "3"] =
        .ok ⟨some ⟨"a.out", none⟩, none, false, false, ["0", "3"]⟩ ∧
      ∃ loud quiet : Output,
        run (fun _ => .file SmallBinary.bytes) ["-b", "a.out", "0", "3"] [] = .ok loud ∧
        run (fun _ => .file SmallBinary.bytes) ["-qb", "a.out", "0", "3"] [] = .ok quiet ∧
        quiet.code = 0 ∧ quiet.stdout = "/src/a.c 0 1\n/src/a.c 0 1\n" ∧
        loud.stderr = "warning: no .symtab, runtime addresses cannot be re-anchored\n" ++
          quiet.stderr ++ "resolved 2 of 2 addresses\n" := by
  have hread : Options.read ["-b", "a.out", "0", "3"] =
      .ok ⟨some ⟨"a.out", none⟩, none, false, false, ["0", "3"]⟩ := rfl
  have hnotice : (binaryContent? (fun _ => .file SmallBinary.bytes)
      ⟨some ⟨"a.out", none⟩, none, false, false, ["0", "3"]⟩).elim "" shortageLine =
        "warning: no .symtab, runtime addresses cannot be re-anchored\n" := by decide +kernel
  have hsummary : summaryLine (fun _ => .file SmallBinary.bytes)
      ⟨some ⟨"a.out", none⟩, none, false, false, ["0", "3"]⟩ [] =
        "resolved 2 of 2 addresses\n" := by decide +kernel
  have hstdout : (run (fun _ => .file SmallBinary.bytes) ["-b", "a.out", "0", "3"] []).map
      (fun output => (output.code, output.stdout)) =
        .ok (0, "/src/a.c 0 1\n/src/a.c 0 1\n") := by decide +kernel
  obtain ⟨-, -, hquieted⟩ := run_quiet (fun _ => .file SmallBinary.bytes) _ _ [] (by simp) hread rfl
  obtain ⟨loud, quiet, hloud, hquiet, hsame⟩ := hquieted ["-qb", "a.out", "0", "3"] rfl
  rw [hloud] at hstdout
  obtain ⟨hcode, hwritten⟩ := Prod.mk.inj (Except.ok.inj hstdout)
  refine ⟨hread, loud, quiet, hloud, hquiet, hsame.code.trans hcode,
    hsame.stdout.trans hwritten, ?_⟩
  rw [hsame.stderr, hnotice, hsummary, hcode, if_pos rfl]

end Command

end Symbolication
