import Symbolication.Proofs.LineNumbers
import Symbolication.Proofs.Switches

namespace Symbolication

namespace Command

/-! ## The option -/

def Options.withJson (options : Options) : Options := { options with json := true }

/-- The option for JSON can stand first. -/
theorem Options.read_json {arguments : List String} {options : Options}
    (h : Options.read arguments = .ok options) (hjson : options.json = false) :
    Options.read ("--json" :: arguments) = .ok options.withJson :=
  Options.read_switchedOn .json rfl h hjson

end Command

/-! ## The tables -/

/-- What decodes as debug data is an object file, and every object file has a symbol table, be it
empty. -/
theorem SymbolIndex.exists_result_ofBinary {files : Files} {path : String} {table : LineTable}
    (h : (LineTable.ofBinary files path).result = .ok table) :
    ∃ index, (SymbolIndex.ofBinary files path).result = .ok index := by
  obtain ⟨bytes, data, rows, hfile, hdata, -⟩ := LineTable.exists_of_result_ofBinary h
  cases hobject : Elf.ObjectFile.read? bytes with
  | none => simp [Dwarf.DebugData.ofBytes, hobject] at hdata
  | some file =>
    refine ⟨SymbolIndex.ofObject file, ?_⟩
    rw [SymbolIndex.result_ofBinary hfile, hobject]

/-! ## Engines -/

namespace Command

variable {files : Files} {options : Options}

/-- Two attempts fail alike, or give engines that find the same rows. -/
inductive Alike {ε : Type} : Except ε Engine → Except ε Engine → Prop where
  | failed (failure : ε) : Alike (.error failure) (.error failure)
  | built {engine engine' : Engine} (same : ∀ a, engine.lookUp a = engine'.lookUp a) :
    Alike (.ok engine) (.ok engine')

theorem Alike.refl {ε : Type} : (result : Except ε Engine) → Alike result result
  | .error failure => .failed failure
  | .ok _ => .built fun _ => rfl

theorem Alike.mapError {ε ε' : Type} {f : ε → ε'} {result result' : Except ε Engine}
    (h : Alike result result') : Alike (result.mapError f) (result'.mapError f) := by
  cases h with
  | failed failure => exact .failed (f failure)
  | built same => exact .built same

/-- Symbols are loaded for JSON only where the lines come from the same binary, so they can be. -/
theorem tables_withJson {loading : Loading LineTable} (hjson : options.json = false)
    (hlines : lines files options = .ok loading)
    (hdump : options.lineDump.isSome → ∀ target ∈ options.target, target.routines.isSome) :
    Alike (tables files options loading).result (tables files options.withJson loading).result := by
  cases htarget : options.target with
  | none =>
    have hsame : tables files options.withJson loading = tables files options loading := by
      simp [tables, Options.withJson, htarget]
    exact hsame ▸ .refl _
  | some target =>
    obtain ⟨binary, routines⟩ := target
    cases routines with
    | some routines =>
      have hsame : tables files options.withJson loading = tables files options loading := by
        simp [tables, Options.withJson, htarget]
      exact hsame ▸ .refl _
    | none =>
      have hnoDump : options.lineDump = none := by
        cases hlineDump : options.lineDump with
        | none => rfl
        | some dump => simp [hlineDump, htarget] at hdump
      obtain rfl : LineTable.ofBinary files binary = loading := by
        simpa [lines, hnoDump, htarget] using hlines
      simp only [tables, Options.withJson, htarget, hjson, if_true, Bool.false_eq_true, if_false]
      cases hresult : (LineTable.ofBinary files binary).result with
      | error failure =>
        rw [Loading.result_bind, Loading.result_bind, hresult]
        exact .refl _
      | ok lines =>
        obtain ⟨index, hindex⟩ := SymbolIndex.exists_result_ofBinary hresult
        rw [Loading.result_bind_eq_ok_iff.mpr ⟨lines, hresult, rfl⟩,
          Loading.result_bind_eq_ok_iff.mpr
            ⟨lines, hresult, Loading.result_bind_eq_ok_iff.mpr ⟨index, hindex, rfl⟩⟩]
        exact .built fun _ => rfl

theorem engine_withJson (hjson : options.json = false)
    (hdump : options.lineDump.isSome → ∀ target ∈ options.target, target.routines.isSome) :
    Alike (Command.engine files options) (Command.engine files options.withJson) := by
  have hcheck : checkTarget files options.withJson = checkTarget files options := rfl
  have hlinesJson : lines files options.withJson = lines files options := rfl
  rw [engine_eq, engine_eq, hcheck, hlinesJson]
  cases checkTarget files options with
  | error fault => exact .refl _
  | ok shortage =>
    cases hlines : lines files options with
    | error failure => exact .refl _
    | ok loading => exact (tables_withJson hjson hlines hdump).mapError

end Command

/-! ## Reports -/

theorem Numeral.blank_notMem_write (n : Nat) : ' ' ∉ write 10 n := by
  intro h
  have hdigit := isSome_digit?_of_mem_write (by decide) (by decide) h
  cases hdigit

/-- Line 0 marks a miss, so no row is taken for one. -/
theorem Row.text_ne_of_line_ne_zero {row : Row} (h : row.line ≠ 0) (a : Address) :
    row.text ≠ "?? " ++ Word.hex a ++ " 0" := by
  intro htext
  -- The last column of either text is what follows its last blank.
  have hlast (lead column : List Char) (hcolumn : ' ' ∉ column) :
      ((lead ++ ' ' :: column).splitOn ' ').getLast? = some column := by
    rw [List.splitOn_append_cons_self, List.splitOn_eq_singleton hcolumn]
    simp
  have hrow := hlast (row.fileName.toList ++ ' ' :: (Word.hex row.address).toList)
    (Numeral.write 10 row.line.toNat) (Numeral.blank_notMem_write _)
  have hmiss := hlast ("??".toList ++ ' ' :: (Word.hex a).toList) ['0'] (by decide)
  have hsplit : (row.fileName.toList ++ ' ' :: (Word.hex row.address).toList) ++
      ' ' :: Numeral.write 10 row.line.toNat =
      ("??".toList ++ ' ' :: (Word.hex a).toList) ++ ' ' :: ['0'] := by
    simpa [Row.text, Word.decimal, Numeral.decimal] using congrArg String.toList htext
  rw [hsplit, hmiss] at hrow
  have hread : Numeral.read? 10 (Numeral.write 10 row.line.toNat) = some row.line.toNat :=
    Numeral.read?_write _ (by decide) (by decide)
  rw [← Option.some.inj hrow] at hread
  have hzero : 0 = row.line.toNat := Option.some.inj hread
  exact h (UInt64.toNat_inj.mp hzero.symm)

theorem Text.Json.head?_object (fields : List (String × String)) :
    (object fields).toList.head? = some '\x7b' := by
  simp [object]

theorem Text.Json.head?_string (s : String) : (string s).toList.head? = some '"' := by
  simp [string]

theorem Text.Json.ne_null_of_head? {value : String} {c : Char}
    (h : value.toList.head? = some c) (hc : c ≠ 'n') : value ≠ "null" := by
  rintro rfl
  exact hc (Option.some.inj h).symm

/-- What is written for an address: the line of text, and the parts of the JSON object. -/
structure Report where
  address : Address
  text : String
  label : Option String
  location : String
  miss : String

namespace Report

def json (report : Report) : String := Text.Json.object <|
  [("address", Text.Json.string (Address.marked report.address))] ++
  (report.label.map fun label => ("routine", Text.Json.string label)).toList ++
  [("location", report.location), ("miss", report.miss)]

/-- The text and the object tell the same: either both name one row, or neither names any. -/
structure Agrees (report : Report) : Prop where
  one : report.location = "null" ↔ report.miss ≠ "null"
  missed : report.location = "null" ↔ report.text = "?? " ++ Word.hex report.address ++ " 0"
  found : report.location ≠ "null" → ∃ row : Row,
    report.location = Text.Json.object [
      ("directory", Text.Json.string row.directory),
      ("file_name", Text.Json.string row.fileName),
      ("address", Word.decimal row.address),
      ("line_number", Word.decimal row.line)] ∧
    report.text = row.fileName ++ " " ++ Word.hex row.address ++ " " ++ Word.decimal row.line

/-- The report of an answer that is given as text and of one that is given as JSON. -/
def ofAnswers (text json : Answer) : Report where
  address := json.address
  text := text.text
  label := json.label
  location := Text.Json.orNull (json.outcome.toOption.map Row.json)
  miss := Text.Json.orNull (json.miss?.map fun miss => Text.Json.string miss.message)

theorem json_ofAnswers (text json : Answer) : (ofAnswers text json).json = json.json := rfl

variable {text json : Answer}

theorem agrees_of_miss {miss : Miss} (haddress : text.address = json.address)
    (htext : text.outcome = .error miss) (hjson : json.outcome = .error miss) :
    (ofAnswers text json).Agrees := by
  have hlocation : (ofAnswers text json).location = "null" := by
    simp [ofAnswers, hjson, Except.toOption, Text.Json.orNull]
  have hmiss : (ofAnswers text json).miss = Text.Json.string miss.message := by
    simp [ofAnswers, Answer.miss?, hjson, Text.Json.orNull]
  have hlabel : (ofAnswers text json).text = "?? " ++ Word.hex json.address ++ " 0" := by
    simp [ofAnswers, Answer.text, htext, haddress]
  constructor
  · rw [hmiss]
    exact iff_of_true hlocation
      (Text.Json.ne_null_of_head? (Text.Json.head?_string _) (by decide))
  · exact iff_of_true hlocation hlabel
  · exact fun hfound => absurd hlocation hfound

theorem agrees_of_hit {row : Row} (htext : text.outcome = .ok row) (hjson : json.outcome = .ok row)
    (hline : row.line ≠ 0) : (ofAnswers text json).Agrees := by
  have hlocation : (ofAnswers text json).location = row.json := by
    simp [ofAnswers, hjson, Except.toOption, Text.Json.orNull]
  have hmiss : (ofAnswers text json).miss = "null" := by
    simp [ofAnswers, Answer.miss?, hjson, Text.Json.orNull]
  have hrow : (ofAnswers text json).text = row.text := by
    simp [ofAnswers, Answer.text, htext]
  have hfound : (ofAnswers text json).location ≠ "null" :=
    hlocation ▸ Text.Json.ne_null_of_head? (Text.Json.head?_object _) (by decide)
  constructor
  · exact iff_of_false hfound (fun hne => hne hmiss)
  · exact iff_of_false hfound (hrow ▸ Row.text_ne_of_line_ne_zero hline _)
  · exact fun _ => ⟨row, hlocation, hrow⟩

end Report

namespace Command

variable {files : Files} {options : Options}

def reported (files : Files) (options : Options) (input : Bytes) : List Address :=
  match Command.engine files options with
  | .error _ => []
  | .ok _ => answered (requests options input)

/-- The reports on some addresses, by an engine for text and one for JSON. -/
def reports (engine engine' : Engine) (addresses : List Address) : List Report :=
  addresses.map fun a => .ofAnswers (engine.answer a) (engine'.answer a)

section Reports

variable {engine engine' : Engine}

theorem map_address_reports (addresses : List Address) :
    (reports engine engine' addresses).map (·.address) = addresses := by
  simp [reports, Function.comp_def, Report.ofAnswers, Engine.answer]

theorem map_text_reports (addresses : List Address) :
    (reports engine engine' addresses).map (fun report => report.text ++ "\n") =
      addresses.map fun a => (engine.answer a).line false := by
  simp [reports, Function.comp_def, Report.ofAnswers, Answer.line]

theorem map_json_reports (addresses : List Address) :
    (reports engine engine' addresses).map (fun report => report.json ++ "\n") =
      addresses.map fun a => (engine'.answer a).line true := by
  simp [reports, Function.comp_def, Report.json_ofAnswers, Answer.line]

/-- Engines that find the same rows report alike, address by address. -/
theorem exists_reports (hsame : ∀ a, engine.lookUp a = engine'.lookUp a)
    (hcounted : ∀ a row, engine.lookUp a = .ok row → row.line ≠ 0) (addresses : List Address) :
    ∃ reports : List Report,
      reports.map (·.address) = addresses ∧ (∀ report ∈ reports, report.Agrees) ∧
      String.join (addresses.map fun a => (engine.answer a).line false) =
        String.join (reports.map fun report => report.text ++ "\n") ∧
      String.join (addresses.map fun a => (engine'.answer a).line true) =
        String.join (reports.map fun report => report.json ++ "\n") := by
  refine ⟨reports engine engine' addresses, map_address_reports addresses, ?_,
    by rw [map_text_reports], by rw [map_json_reports]⟩
  intro report hreport
  obtain ⟨a, -, rfl⟩ := List.mem_map.mp hreport
  cases hlookUp : engine.lookUp a with
  | error miss => exact Report.agrees_of_miss rfl hlookUp ((hsame a).symm.trans hlookUp)
  | ok row =>
    exact Report.agrees_of_hit hlookUp ((hsame a).symm.trans hlookUp) (hcounted a row hlookUp)

end Reports

/-- The outputs of a run in the two forms, with the addresses that they report on. -/
structure Output.Agree (text json : Output) (addresses : List Address) : Prop where
  code : json.code = text.code
  stderr : json.stderr = text.stderr
  stdout : ∃ reports : List Report,
    reports.map (·.address) = addresses ∧ (∀ report ∈ reports, report.Agrees) ∧
    text.stdout = String.join (reports.map fun report => report.text ++ "\n") ∧
    json.stdout = String.join (reports.map fun report => report.json ++ "\n")

theorem perform_withJson (files : Files) (options : Options) (input : Bytes)
    (hjson : options.json = false)
    (hdump : options.lineDump.isSome → ∀ target ∈ options.target, target.routines.isSome) :
    Output.Agree (perform files options input) (perform files options.withJson input)
      (reported files options input) := by
  have halike := @engine_withJson files options hjson hdump
  have hwarning : warning files options.withJson = warning files options := rfl
  have hrequests : requests options.withJson input = requests options input := rfl
  generalize hengine : Command.engine files options = result at halike
  generalize hengine' : Command.engine files options.withJson = result' at halike
  cases halike with
  | failed failure =>
    rw [perform_of_error hengine, perform_of_error hengine', hwarning]
    exact ⟨rfl, rfl, [], by simp [reported, hengine], by simp, rfl, rfl⟩
  | @built engine engine' same =>
    have hreported : reported files options input = answered (requests options input) := by
      simp [reported, hengine]
    have hreports := exists_reports same (fun a row => line_ne_zero_of_lookUp hengine)
      (answered (requests options input))
    rw [← hreported, ← hjson] at hreports
    have hcount : (fun a => (engine'.lookUp a).isOk) = fun a => (engine.lookUp a).isOk :=
      funext fun a => by rw [same a]
    cases hstop : stopping? (requests options input) with
    | none =>
      rw [perform_of_complete hengine hstop, perform_of_complete hengine' hstop, hrequests,
        hwarning, hcount, ← hreported]
      exact ⟨rfl, rfl, hreports⟩
    | some request =>
      rw [perform_of_stopping hengine hstop, perform_of_stopping hengine' hstop, hrequests,
        hwarning, ← hreported]
      exact ⟨rfl, rfl, hreports⟩

/-- The option for JSON changes the form of the answers and nothing else. -/
theorem run_json (files : Files) (arguments : List String) (options : Options) (input : Bytes)
    (hread : Options.read arguments = .ok options) (hjson : options.json = false)
    (hdump : options.lineDump.isSome → ∀ target ∈ options.target, target.routines.isSome) :
    ∃ text json : Output, run files arguments input = .ok text ∧
      run files ("--json" :: arguments) input = .ok json ∧
      text.Agree json (reported files options input) := by
  refine ⟨perform files options input, perform files options.withJson input, ?_, ?_,
    perform_withJson files options input hjson hdump⟩
  · rw [run, hread]
    rfl
  · rw [run, Options.read_json hread hjson]
    rfl

/-- Static addresses of a binary, where only the run for JSON loads the symbols. The second address
ends both runs. -/
theorem run_json_static :
    Options.read ["-b", "a.out", "0", "x"] =
        .ok ⟨some ⟨"a.out", none⟩, none, false, false, ["0", "x"]⟩ ∧
      ∃ text json : Output,
        run (fun _ => .file SmallBinary.bytes) ["-b", "a.out", "0", "x"] [] = .ok text ∧
        run (fun _ => .file SmallBinary.bytes) ["--json", "-b", "a.out", "0", "x"] [] = .ok json ∧
        text.Agree json [0] := by
  have hread : Options.read ["-b", "a.out", "0", "x"] =
      .ok ⟨some ⟨"a.out", none⟩, none, false, false, ["0", "x"]⟩ := rfl
  have hreported : reported (fun _ => .file SmallBinary.bytes)
      ⟨some ⟨"a.out", none⟩, none, false, false, ["0", "x"]⟩ [] = [0] := by decide +kernel
  have hagree := run_json (fun _ => .file SmallBinary.bytes) _ _ [] hread rfl (by simp)
  rw [hreported] at hagree
  exact ⟨hread, hagree⟩

end Command

end Symbolication
