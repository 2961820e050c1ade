import Symbolication.Proofs.ReportForms

namespace Symbolication

namespace RunTables

variable {files : Files} {binary routines : String}

/-- How opening a binary and a routine file ends. Later tables are not looked at once one fails. -/
inductive Opens (files : Files) (binary routines : String) : Except Failure RunTables → Prop
  | noLines {failure : Failure}
    (hlines : (LineTable.ofBinary files binary).result = .error failure) :
    Opens files binary routines (.error failure)
  | noSymbols {lines : LineTable} {failure : Failure}
    (hlines : (LineTable.ofBinary files binary).result = .ok lines)
    (hsymbols : (SymbolIndex.ofBinary files binary).result = .error failure) :
    Opens files binary routines (.error failure)
  | noRoutines {lines : LineTable} {symbols : SymbolIndex} {failure : Failure}
    (hlines : (LineTable.ofBinary files binary).result = .ok lines)
    (hsymbols : (SymbolIndex.ofBinary files binary).result = .ok symbols)
    (hroutines : (RoutineMap.ofFile files routines).result = .error failure) :
    Opens files binary routines (.error failure)
  | all {lines : LineTable} {symbols : SymbolIndex} {map : RoutineMap}
    (hlines : (LineTable.ofBinary files binary).result = .ok lines)
    (hsymbols : (SymbolIndex.ofBinary files binary).result = .ok symbols)
    (hroutines : (RoutineMap.ofFile files routines).result = .ok map) :
    Opens files binary routines (.ok ⟨lines, symbols, map⟩)

theorem result_load (files : Files) (binary routines : String) :
    (load files binary routines).result = do
      let lines ← (LineTable.ofBinary files binary).result
      let symbols ← (SymbolIndex.ofBinary files binary).result
      let map ← (RoutineMap.ofFile files routines).result
      return ⟨lines, symbols, map⟩ := by
  simp only [load, assemble, Loading.result_bind, Loading.result_pure]
  rfl

theorem opens_load (files : Files) (binary routines : String) :
    Opens files binary routines (load files binary routines).result := by
  rw [result_load]
  cases hlines : (LineTable.ofBinary files binary).result with
  | error failure => exact .noLines hlines
  | ok lines =>
    cases hsymbols : (SymbolIndex.ofBinary files binary).result with
    | error failure => exact .noSymbols hlines hsymbols
    | ok symbols =>
      cases hroutines : (RoutineMap.ofFile files routines).result with
      | error failure => exact .noRoutines hlines hsymbols hroutines
      | ok map => exact .all hlines hsymbols hroutines

theorem opens_iff {result : Except Failure RunTables} :
    Opens files binary routines result ↔ (load files binary routines).result = result := by
  constructor
  · intro h
    rw [result_load]
    cases h with
    | noLines hlines => rw [hlines]; rfl
    | noSymbols hlines hsymbols => rw [hlines, hsymbols]; rfl
    | noRoutines hlines hsymbols hroutines => rw [hlines, hsymbols, hroutines]; rfl
    | all hlines hsymbols hroutines => rw [hlines, hsymbols, hroutines]; rfl
  · rintro rfl
    exact opens_load files binary routines

end RunTables

namespace Command

variable {files : Files} {options : Options} {binary routines : String} {content : Bytes}

/-- A target that can be read passes its check, whatever it holds. -/
theorem exists_checkTarget_of_file {target : Target} (htarget : options.target = some target)
    (hfile : files target.binary = .file content) :
    ∃ shortage, checkTarget files options = .ok shortage := by
  have hpasses : files.target target.binary = .ok () := by rw [Files.target, hfile]
  have hshortage : files.shortage? target.binary =
      .ok ((Elf.ObjectFile.read? content).bind (·.shortage?)) := by
    rw [Files.shortage?, Files.read, hfile]
  rw [checkTarget, htarget]
  cases hquiet : options.quiet with
  | true => exact ⟨none, by simp [hpasses, bind, Except.bind, pure, Except.pure]⟩
  | false => exact ⟨_, by simp only [hpasses, bind, Except.bind]; exact hshortage⟩

/-- The engine of a run of runtime addresses has the opened tables. -/
theorem engine_eq_load (htarget : options.target = some ⟨binary, some routines⟩)
    (hdump : options.lineDump = none) (hfile : files binary = .file content) :
    Command.engine files options =
      match (RunTables.load files binary routines).result with
      | .error failure => .error (.badTable failure)
      | .ok tables => .ok (.runtime tables) := by
  obtain ⟨shortage, hcheck⟩ := exists_checkTarget_of_file htarget hfile
  have hlines : lines files options = .ok (LineTable.ofBinary files binary) := by
    simp [lines, hdump, htarget]
  have htables : tables files options (LineTable.ofBinary files binary) =
      Engine.runtime <$> RunTables.load files binary routines := by
    rw [tables, htarget]
    rfl
  simp only [engine_eq, hcheck, hlines, htables, map_eq_pure_bind, Loading.result_bind,
    Loading.result_pure]
  cases (RunTables.load files binary routines).result <;> rfl

/-- A run with a binary and a routine file fails where opening the two fails, for the same reason
and with nothing written. Otherwise it writes what the opened tables say about each address. -/
theorem run_opened (files : Files) (arguments : List String) (options : Options) (input : Bytes)
    (binary routines : String) (content : Bytes) (hread : Options.read arguments = .ok options)
    (htarget : options.target = some ⟨binary, some routines⟩) (hdump : options.lineDump = none)
    (hfile : files binary = .file content) :
    ∃ output, run files arguments input = .ok output ∧
      RunTables.Opens files binary routines (RunTables.load files binary routines).result ∧
      match (RunTables.load files binary routines).result with
      | .error failure =>
        Command.engine files options = .error (.badTable failure) ∧ output.stdout = "" ∧
          output.stderr = warning files options ++ errorLine (.badTable failure) ∧
          output.code = RunFailure.code (.badTable failure)
      | .ok tables =>
        Command.engine files options = .ok (.runtime tables) ∧
          output.stdout = String.join ((answered (requests options input)).map fun a =>
            Answer.line options.json
              ⟨a, tables.routines.label? a, tables.resolver.lookUp a⟩) := by
  have hload_engine := engine_eq_load htarget hdump hfile
  refine ⟨perform files options input, by rw [run, hread]; rfl,
    RunTables.opens_load files binary routines, ?_⟩
  cases hload : (RunTables.load files binary routines).result with
  | error failure =>
    have hengine : Command.engine files options = .error (.badTable failure) := by
      rw [hload_engine, hload]
    rw [perform_of_error hengine]
    exact ⟨hengine, rfl, rfl, rfl⟩
  | ok tables =>
    have hengine : Command.engine files options = .ok (.runtime tables) := by
      rw [hload_engine, hload]
    rw [stdout_perform hengine]
    exact ⟨hengine, rfl⟩

/-- A routine of a binary without symbols. -/
theorem run_opened_small :
    let files : Files := fun path =>
      .file (if path = "a.out" then SmallBinary.bytes else Bytes.ofAscii "10;a.out;main")
    ∃ tables output, (RunTables.load files "a.out" "routines").result = .ok tables ∧
      run files ["-b", "a.out", "-r", "routines", "--json", "18"] [] = .ok output ∧
      output.stdout =
        Answer.line true ⟨0x18, tables.routines.label? 0x18, tables.resolver.lookUp 0x18⟩ := by
  intro files
  let options : Options := ⟨some ⟨"a.out", some "routines"⟩, none, true, false, ["18"]⟩
  have hread : Options.read ["-b", "a.out", "-r", "routines", "--json", "18"] = .ok options := rfl
  have hfile : files "a.out" = .file SmallBinary.bytes := rfl
  have hanswered : answered (requests options []) = [0x18] := by decide +kernel
  have hopened :=
    run_opened files _ options [] "a.out" "routines" _ hread rfl rfl hfile
  have hok : (RunTables.load files "a.out" "routines").result.isOk = true := by decide +kernel
  cases hload : (RunTables.load files "a.out" "routines").result with
  | error failure =>
    rw [hload] at hok
    cases hok
  | ok tables =>
    rw [hload, hanswered] at hopened
    obtain ⟨output, hrun, -, -, hstdout⟩ := hopened
    exact ⟨tables, output, rfl, hrun, by simpa [options] using hstdout⟩

end Command

end Symbolication
