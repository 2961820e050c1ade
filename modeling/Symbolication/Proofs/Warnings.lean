import Symbolication.Proofs.MissingLines
import Symbolication.Proofs.NameIndex
import Symbolication.Proofs.SymbolEntries

/-! Before a run its binary is looked at by the names of its sections: whether it has line programs,
and whether it has static symbols. The run itself takes its lines from a dump where one is given,
and its symbols from the first section of the kind, whatever its name. Where both take the same
sections, a warning that addresses cannot be resolved is upheld. -/

namespace Symbolication

/-! ## Files without symbols -/

namespace Elf

/-- A section of symbols without bytes has no entries. -/
theorem ObjectFile.symbolAt?_eq_none {file : ObjectFile}
    (hempty : isFilled file.symbolSection? = false) (i : Nat) : file.symbolAt? i = none := by
  unfold symbolAt?
  cases hsection : file.symbolSection? with
  | none => rfl
  | some s =>
    rw [Option.bind_eq_bind, Option.bind_some, isFilled_eq_false_iff.mp hempty s hsection]
    cases hdata : file.bytes.slice? s.header.offset 0 with
    | none => rfl
    | some data =>
      obtain rfl := Bytes.slice?_eq_nil hdata
      have hnone : (SymbolEntry.read file.layout).run' [] = none :=
        (SymbolEntry.takes_read file.layout).run'_eq_none file.layout.symbolSize_pos
      rw [Option.bind_eq_bind, Option.bind_some, List.drop_nil, hnone]
      rfl

theorem ObjectFile.symbols_eq_nil {bytes : Bytes} {file : ObjectFile}
    (hread : read? bytes = some file) (hempty : isFilled file.symbolSection? = false) :
    file.symbols = [] := by
  apply List.ext_getElem?
  intro i
  rw [symbols_getElem? hread, symbolAt?_eq_none hempty, List.getElem?_nil]

/-- What a check of the target says about symbols. -/
theorem ObjectFile.shortage?_symbols_iff {file : ObjectFile} :
    file.shortage? = some .everything ∨ file.shortage? = some .symbols ↔
      isFilled (file.named? ".symtab") = false := by
  unfold shortage?
  cases isFilled (file.debugSection? "debug_line") <;> cases isFilled (file.named? ".symtab") <;>
    simp

end Elf

/-! ## Resolving without symbols -/

theorem SymbolIndex.named?_of_symbols_eq_nil {file : Elf.ObjectFile} (h : file.symbols = [])
    (name : String) : (ofObject file).named? name = none := by
  rw [ofObject, h, List.filterMap_nil, named?_ofList]
  rfl

/-- Where no name leads to a symbol, no address is taken back to the binary. -/
theorem Resolver.exists_staticOf_eq_error {resolver : Resolver}
    (h : ∀ name, resolver.symbolNamed name = none) (a : Address) :
    ∃ miss, resolver.staticOf a = .error miss := by
  unfold staticOf rebase
  cases hroutine : resolver.routineHolding a with
  | none => exact ⟨_, rfl⟩
  | some r =>
    cases hoffset : Word.difference? a r.start with
    | none => simp [hoffset]
    | some offset => simp [hoffset, h]

/-! ## Runs with a warning -/

namespace Command

variable {files : Files} {options : Options} {target : Target}

/-- A check that finds something missing has read an object file. -/
theorem exists_file_of_checkTarget {shortage : Shortage} (htarget : options.target = some target)
    (h : checkTarget files options = .ok (some shortage)) :
    ∃ bytes file, files target.binary = .file bytes ∧ Elf.ObjectFile.read? bytes = some file ∧
      file.shortage? = some shortage := by
  unfold checkTarget at h
  rw [htarget] at h
  cases hentry : files target.binary with
  | file content =>
    simp only [Files.target, Files.shortage?, Files.read, hentry, bind, Except.bind] at h
    split at h
    · cases h
    · obtain ⟨file, hread, hshortage⟩ := Option.bind_eq_some_iff.mp (Except.ok.inj h)
      exact ⟨content, file, rfl, hread, hshortage⟩
  | locked =>
    simp only [Files.target, Files.shortage?, Files.read, hentry, bind, Except.bind] at h
    split at h <;> cases h
  | directory | unreachable fault =>
    simp [Files.target, hentry, bind, Except.bind] at h

/-- A warning names what the check finds missing. -/
theorem checkTarget_of_warning {shortage : Shortage}
    (h : warning files options = "warning: " ++ shortage.message ++ "\n") :
    checkTarget files options = .ok (some shortage) := by
  have hinj (other : Shortage)
      (hsame : "warning: " ++ other.message ++ "\n" = "warning: " ++ shortage.message ++ "\n") :
      other = shortage := by
    cases other <;> cases shortage <;> simp [Shortage.message] at hsame ⊢
  unfold warning at h
  split at h
  · next other hcheck => rw [hcheck, hinj other h]
  · cases shortage <;> simp [Shortage.message] at h

theorem resolved_eq_nil {input : Bytes}
    (h : ∀ engine, Command.engine files options = .ok engine →
      ∀ a, ∃ miss, engine.lookUp a = .error miss) : resolved files options input = [] := by
  unfold resolved
  split
  · rfl
  · next engine hengine =>
    apply List.filter_eq_nil_iff.mpr
    intro a _
    obtain ⟨miss, hmiss⟩ := h engine hengine a
    simp [hmiss, Except.isOk, Except.toBool]

/-- Where the lines come from a binary without line programs, there are none. -/
theorem exists_lookUp_eq_error_of_lines {bytes : Bytes} {file : Elf.ObjectFile} {engine : Engine}
    (htarget : options.target = some target) (hdump : options.lineDump = none)
    (hfile : files target.binary = .file bytes) (hread : Elf.ObjectFile.read? bytes = some file)
    (hlines : Elf.isFilled (file.debugSection? "debug_line") = false)
    (hengine : Command.engine files options = .ok engine) (a : Address) :
    ∃ miss, engine.lookUp a = .error miss := by
  obtain ⟨-, loading, hloading, htables⟩ := engine_eq_ok_iff.mp hengine
  obtain rfl : LineTable.ofBinary files target.binary = loading := by
    simpa [lines, hdump, htarget] using hloading
  have hnil := LineTable.toList_eq_nil_of_ofBinary hfile hread hlines (lineTable_of_tables htables)
  cases hlookUp : engine.lookUp a with
  | error miss => exact ⟨miss, rfl⟩
  | ok row =>
    have hmem := Engine.mem_of_lookUp hlookUp
    rw [hnil] at hmem
    cases hmem

/-- The symbols of a run with routines are those of its binary. -/
theorem exists_tables_of_routines {bytes : Bytes} {file : Elf.ObjectFile} {engine : Engine}
    (htarget : options.target = some target) (hroutines : target.routines ≠ none)
    (hfile : files target.binary = .file bytes) (hread : Elf.ObjectFile.read? bytes = some file)
    (hengine : Command.engine files options = .ok engine) :
    ∃ tables, engine = .runtime tables ∧ tables.symbols = SymbolIndex.ofObject file := by
  obtain ⟨-, loading, -, htables⟩ := engine_eq_ok_iff.mp hengine
  obtain ⟨binary, routines⟩ := target
  obtain ⟨routines, rfl⟩ := Option.ne_none_iff_exists'.mp hroutines
  rw [tables, htarget] at htables
  obtain ⟨tables, hassemble, rfl⟩ := Loading.result_map_eq_ok_iff.mp htables
  have hindex := (parts_of_assemble hassemble).2
  rw [SymbolIndex.result_ofBinary hfile, hread] at hindex
  exact ⟨tables, rfl, (Except.ok.inj hindex).symm⟩

/-- Where the symbols come from a binary without any, no runtime address is taken back to it. -/
theorem exists_lookUp_eq_error_of_symbols {bytes : Bytes} {file : Elf.ObjectFile} {engine : Engine}
    (htarget : options.target = some target) (hroutines : target.routines ≠ none)
    (hfile : files target.binary = .file bytes) (hread : Elf.ObjectFile.read? bytes = some file)
    (hsymbols : Elf.isFilled file.symbolSection? = false)
    (hengine : Command.engine files options = .ok engine) (a : Address) :
    ∃ miss, engine.lookUp a = .error miss := by
  obtain ⟨tables, rfl, hindex⟩ :=
    exists_tables_of_routines htarget hroutines hfile hread hengine
  have hnamed (name : String) : tables.resolver.symbolNamed name = none := by
    change tables.symbols.named? name = none
    rw [hindex]
    exact SymbolIndex.named?_of_symbols_eq_nil (Elf.ObjectFile.symbols_eq_nil hread hsymbols) name
  obtain ⟨miss, hmiss⟩ := Resolver.exists_staticOf_eq_error hnamed a
  exact ⟨miss, Resolver.lookUp_of_error hmiss⟩

/-- A warning is upheld where the run takes what was looked at. If the binary is said to be
stripped, no address is resolved by its own lines. If it is said to be stripped or to have no
symbols, no runtime address is resolved, as long as its symbols have the name by which they were
looked for. -/
theorem resolved_eq_nil_of_warning (files : Files) (options : Options) (target : Target)
    (input : Bytes) (htarget : options.target = some target) :
    (warning files options = "warning: binary stripped, no address can be symbolized\n" →
      options.lineDump = none → resolved files options input = []) ∧
    (warning files options = "warning: binary stripped, no address can be symbolized\n" ∨
        warning files options =
          "warning: no .symtab, runtime addresses cannot be re-anchored\n" →
      target.routines ≠ none →
      (∀ bytes file, files target.binary = .file bytes → Elf.ObjectFile.read? bytes = some file →
        file.symbolSection? = none ∨ file.symbolSection? = file.named? ".symtab") →
      resolved files options input = []) := by
  constructor
  · intro hwarning hdump
    have hcheck : checkTarget files options = .ok (some .everything) :=
      checkTarget_of_warning hwarning
    obtain ⟨bytes, file, hfile, hread, hshortage⟩ := exists_file_of_checkTarget htarget hcheck
    have hlines := Elf.ObjectFile.shortage?_lines_iff.mp (.inl hshortage)
    apply resolved_eq_nil
    intro engine hengine a
    exact exists_lookUp_eq_error_of_lines htarget hdump hfile hread hlines hengine a
  · intro hwarning hroutines hnames
    obtain ⟨shortage, hcheck, hmissing⟩ : ∃ shortage,
        checkTarget files options = .ok (some shortage) ∧
          (shortage = .everything ∨ shortage = .symbols) := by
      rcases hwarning with hwarning | hwarning
      · exact ⟨.everything, checkTarget_of_warning hwarning, .inl rfl⟩
      · exact ⟨.symbols, checkTarget_of_warning hwarning, .inr rfl⟩
    obtain ⟨bytes, file, hfile, hread, hshortage⟩ := exists_file_of_checkTarget htarget hcheck
    have hnamed : Elf.isFilled (file.named? ".symtab") = false := by
      apply Elf.ObjectFile.shortage?_symbols_iff.mp
      rcases hmissing with rfl | rfl
      · exact .inl hshortage
      · exact .inr hshortage
    have hsymbols : Elf.isFilled file.symbolSection? = false := by
      rcases hnames bytes file hfile hread with hnone | hsame
      · rw [hnone]
        rfl
      · rw [hsame, hnamed]
    apply resolved_eq_nil
    intro engine hengine a
    exact exists_lookUp_eq_error_of_symbols htarget hroutines hfile hread hsymbols hengine a

end Command

/-! ## Binaries with a warning

A file header alone, and a binary whose one symbol stands in a section without a name. -/

namespace StrippedBinary

def bytes : Bytes := [0x7f] ++ Bytes.ofAscii "ELF" ++ [1, 1, 1] ++ List.replicate 45 0

end StrippedBinary

namespace UnnamedSymbols

/-- The entry that every symbol table starts with, and a symbol from 16 to 32. -/
def symbols : Bytes :=
  List.replicate 16 0 ++ [2, 16, 16].flatMap (SmallBinary.little 4) ++
    [2, 1].flatMap (SmallBinary.little 2)

def sectionHeaders : List (List Nat) :=
  [List.replicate 10 0, [0, 2, 0, 0, 252, 32, 4, 0, 0, 0], [27, 1, 0, 0, 284, 1, 0, 0, 0, 0],
    List.replicate 10 0, [0, 3, 0, 0, 285, SmallBinary.names.length, 0, 0, 0, 0]]

def bytes : Bytes :=
  SmallBinary.fileHeader ++ sectionHeaders.flatten.flatMap (SmallBinary.little 4) ++ symbols ++
    [0] ++ SmallBinary.names

end UnnamedSymbols

namespace Command

/-- A dump and a file of routines beside a binary. -/
def filesBeside (binary : Bytes) : Files := fun path =>
  .file (if path = "a.out" then binary
    else if path = "d.txt" then Bytes.ofAscii "CU: main.c:\nmain.c 5 0x10\n"
    else Bytes.ofAscii "1000;m;debug_info\n")

/-- The options of a run that asks for the start of the routine. -/
def routineOptions (lineDump : Option String) : Options :=
  ⟨some ⟨"a.out", some "r.txt"⟩, lineDump, false, false, ["1000"]⟩

/-- A binary with lines and no section of symbols at all. -/
theorem resolved_eq_nil_of_warning_small :
    (Command.engine (filesBeside SmallBinary.bytes) (routineOptions none)).isOk = true ∧
      warning (filesBeside SmallBinary.bytes) (routineOptions none) =
        "warning: no .symtab, runtime addresses cannot be re-anchored\n" ∧
      resolved (filesBeside SmallBinary.bytes) (routineOptions none) [] = [] := by
  have hwarning : warning (filesBeside SmallBinary.bytes) (routineOptions none) =
      "warning: no .symtab, runtime addresses cannot be re-anchored\n" := by decide +kernel
  refine ⟨by decide +kernel, hwarning, ?_⟩
  apply (resolved_eq_nil_of_warning _ (routineOptions none) ⟨"a.out", some "r.txt"⟩ [] rfl).2
    (.inr hwarning) (by simp)
  intro bytes file hfile hread
  obtain rfl : SmallBinary.bytes = bytes := Entry.file.inj hfile
  have hsymbols : (Elf.ObjectFile.read? SmallBinary.bytes).map
      (fun file => file.symbolSection?.isNone) = some true := by decide +kernel
  rw [hread] at hsymbols
  exact .inl (Option.isNone_iff_eq_none.mp (Option.some.inj hsymbols))

/-- The symbol is found, although its section has no name. -/
theorem named?_of_unnamedSymbols {file : Elf.ObjectFile}
    (hread : Elf.ObjectFile.read? UnnamedSymbols.bytes = some file) :
    (SymbolIndex.ofObject file).named? "debug_info" = some ⟨"debug_info", 16, 16⟩ := by
  have hfound : (Elf.ObjectFile.read? UnnamedSymbols.bytes).map (fun file =>
      ((file.symbols.filterMap (·.symbol?)).find? (·.goesBy "debug_info")).map Symbol.trimmed) =
        some (some ⟨"debug_info", 16, 16⟩) := by decide +kernel
  rw [hread] at hfound
  rw [SymbolIndex.ofObject, SymbolIndex.named?_ofList]
  exact Option.some.inj hfound

/-- The row at the symbol and the routine at the start, where a run has tables for both. -/
def tabled : Except RunFailure Engine → Option Row × Option Routine
  | .ok (.runtime tables) => (tables.lines.rowAt? 16, tables.routines.holder? 0x1000)
  | _ => (none, none)

/-- The start of the routine is taken back to the symbol, and the dump has a line for it. -/
theorem exists_lookUp_of_unnamedSymbols :
    ∃ engine, Command.engine (filesBeside UnnamedSymbols.bytes) (routineOptions (some "d.txt")) =
        .ok engine ∧
      engine.lookUp 0x1000 = .ok ⟨"main.c", "main.c", 16, 5⟩ := by
  have hbuilt : tabled (Command.engine (filesBeside UnnamedSymbols.bytes)
      (routineOptions (some "d.txt"))) =
        (some ⟨"main.c", "main.c", 16, 5⟩, some ⟨"debug_info", "m", 0x1000, none⟩) := by
    decide +kernel
  cases hengine : Command.engine (filesBeside UnnamedSymbols.bytes)
      (routineOptions (some "d.txt")) with
  | error failure =>
    rw [hengine] at hbuilt
    cases hbuilt
  | ok engine =>
    obtain ⟨file, hread⟩ : ∃ file, Elf.ObjectFile.read? UnnamedSymbols.bytes = some file :=
      Option.isSome_iff_exists.mp (by decide +kernel)
    have htarget : (routineOptions (some "d.txt")).target = some ⟨"a.out", some "r.txt"⟩ := rfl
    obtain ⟨tables, rfl, hindex⟩ :=
      exists_tables_of_routines htarget (by simp) rfl hread hengine
    rw [hengine] at hbuilt
    obtain ⟨hrow, hroutine⟩ := Prod.mk.inj hbuilt
    have hheld : tables.resolver.routineHolding 0x1000 = some ⟨"debug_info", "m", 0x1000, none⟩ :=
      hroutine
    -- The places of the names are a hash map, which `decide` cannot evaluate.
    have hnamed := named?_of_unnamedSymbols hread
    rw [← hindex] at hnamed
    have hsum : Word.sum? 16 0 = some 16 := by decide
    have hstatic : tables.resolver.staticOf 0x1000 = .ok 16 := by
      rw [Resolver.staticOf_of_start_le hheld (UInt64.le_refl _)]
      simp [RunTables.resolver, Resolver.ofTables, hnamed, hsum]
    refine ⟨.runtime tables, rfl, ?_⟩
    rw [Engine.lookUp, Resolver.lookUp_of_ok hstatic]
    exact LineTable.lookUp_eq_ok_iff.mpr hrow

/-- Both warnings can be wrong. A dump gives the lines that a stripped binary does not have, and
symbols are found without the name by which they were looked for. -/
theorem run_despite_warning :
    run (filesBeside StrippedBinary.bytes)
        ["--binary", "a.out", "--line-dump", "d.txt", "0x10"] [] =
      .ok ⟨0, "main.c 10 5\n",
        "warning: binary stripped, no address can be symbolized\n" ++
          "resolved 1 of 1 addresses\n"⟩ ∧
      warning (filesBeside UnnamedSymbols.bytes) (routineOptions (some "d.txt")) =
        "warning: no .symtab, runtime addresses cannot be re-anchored\n" ∧
      resolved (filesBeside UnnamedSymbols.bytes) (routineOptions (some "d.txt")) [] =
        [0x1000] := by
  refine ⟨by decide +kernel, by decide +kernel, ?_⟩
  obtain ⟨engine, hengine, hlookUp⟩ := exists_lookUp_of_unnamedSymbols
  have hasked : answered (requests (routineOptions (some "d.txt")) []) = [0x1000] := by
    decide +kernel
  simp [resolved, hengine, hasked, hlookUp, Except.isOk, Except.toBool]

end Command

end Symbolication
