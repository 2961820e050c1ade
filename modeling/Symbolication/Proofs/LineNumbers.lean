import Symbolication.Proofs.DebugRows
import Symbolication.Proofs.LineKinds
import Symbolication.Proofs.Resolution
import Symbolication.Proofs.Runs

namespace Symbolication

namespace LineDump

def Reading.Counted (reading : Reading) : Prop := ∀ row ∈ reading.rows, row.line ≠ 0

theorem step_counted {reading : Reading} (h : reading.Counted) (cs : List Char) :
    (reading.step (DumpLine.ofLine cs)).Counted := by
  cases hline : DumpLine.ofLine cs with
  | empty | foreign | header => exact h
  | row fileName line address =>
    intro row hrow
    rcases Array.mem_push.mp hrow with hrow | rfl
    · exact h row hrow
    · exact toNat_pos_iff.mp (ofLine_eq_row_iff.mp hline).counted

theorem foldl_step_counted (reading : Reading) (h : reading.Counted) (css : List (List Char)) :
    ((css.map DumpLine.ofLine).foldl Reading.step reading).Counted := by
  induction css generalizing reading with
  | nil => exact h
  | cons cs css ih => exact ih _ (step_counted h cs)

theorem line_ne_zero_of_mem_rows {text : String} {row : Row} (h : row ∈ rows text) :
    row.line ≠ 0 :=
  foldl_step_counted ⟨"", #[]⟩ (by simp [Reading.Counted]) _ row (Array.mem_def.mpr h)

end LineDump

namespace Dwarf

theorem ProgramRow.kept?_eq_some_iff {row : ProgramRow} {file : FileEntry} :
    row.kept? = some file ↔ row.endsSequence = false ∧ row.line ≠ 0 ∧ row.file = some file := by
  unfold kept?
  split
  · next hskipped =>
    rcases hskipped with hends | hzero
    · simp [hends]
    · simp [hzero]
  · next hkept =>
    rw [not_or, Bool.not_eq_true] at hkept
    simp [hkept]

/-- A kept row is a row of the unit's program that is kept with its file. -/
theorem CompileUnit.kept?_of_mem_keptRows {unit : CompileUnit} {kept : KeptRow}
    (h : kept ∈ unit.keptRows) : kept.row.kept? = some kept.file := by
  unfold keptRows at h
  split at h
  · cases h
  · obtain ⟨row, -, hkept⟩ := List.mem_filterMap.mp h
    obtain ⟨file, hfile, rfl⟩ := Option.map_eq_some_iff.mp hkept
    exact hfile

theorem DebugData.kept?_of_mem_keptRows {data : DebugData} {kept : KeptRow}
    (h : kept ∈ data.keptRows) : kept.row.kept? = some kept.file := by
  obtain ⟨unit, -, hunit⟩ := List.mem_flatMap.mp h
  exact CompileUnit.kept?_of_mem_keptRows hunit

theorem DebugData.line_ne_zero_of_mem_rows {data : DebugData} {rows : List Row} {row : Row}
    (h : data.rows? = some rows) (hrow : row ∈ rows) : row.line ≠ 0 := by
  obtain ⟨-, hdescribes⟩ := rows?_eq_some_iff.mp h
  rw [← eq_of_forall₂_describes hdescribes] at hrow
  obtain ⟨kept, hkept, hrowOf⟩ := List.mem_filterMap.mp hrow
  rw [(describes_iff.mpr hrowOf).line]
  exact (ProgramRow.kept?_eq_some_iff.mp (kept?_of_mem_keptRows hkept)).2.1

end Dwarf

/-! ## Tables -/

namespace LineTable

/-- A row that a table answers with is one of its rows. -/
theorem mem_of_lookUp {table : LineTable} {a : Address} {row : Row} (h : table.lookUp a = .ok row) :
    row ∈ table.toList := by
  rw [lookUp_eq_ok_iff, rowAt?_eq_getLast?] at h
  exact List.mem_of_mem_filter (List.mem_of_getLast? h)

theorem mem_ofRows {rows : List Row} {row : Row} : row ∈ (ofRows rows).toList ↔ row ∈ rows := by
  rw [toList_ofRows]
  exact (List.mergeSort_perm rows _).mem_iff

/-- A line table of a binary comes from debug data with rows. -/
theorem exists_of_result_ofBinary {files : Files} {path : String} {table : LineTable}
    (h : (ofBinary files path).result = .ok table) :
    ∃ bytes data rows, files path = .file bytes ∧ Dwarf.DebugData.ofBytes bytes = .ok data ∧
      data.rows? = some rows ∧ table = ofRows rows := by
  have hsteps := h
  rw [ofBinary, Loading.result_bind_eq_ok_iff] at hsteps
  obtain ⟨bytes, hbytes, hsteps⟩ := hsteps
  obtain ⟨data, hdata, -⟩ := Loading.result_bind_eq_ok_iff.mp hsteps
  have hfile := Loading.result_content_eq_ok_iff.mp hbytes
  rw [Loading.result_ofExcept, mapError_eq_ok_iff] at hdata
  rw [result_ofBinary hfile hdata] at h
  cases hrows : data.rows? with
  | none => simp [hrows] at h
  | some rows => exact ⟨bytes, data, rows, hfile, hdata, hrows, by simpa [hrows, eq_comm] using h⟩

theorem result_ofDumpFile {files : Files} {path : String} {table : LineTable}
    (h : (ofDumpFile files path).result = .ok table) :
    ∃ text, table = ofRows (LineDump.rows text) := by
  rw [ofDumpFile, Loading.result_bind_eq_ok_iff] at h
  obtain ⟨text, -, h⟩ := h
  exact ⟨text, (Except.ok.inj h).symm⟩

end LineTable

/-! ## Engines -/

def Engine.lineTable : Engine → LineTable
  | static lines _ => lines
  | runtime tables => tables.lines

theorem Engine.mem_of_lookUp {engine : Engine} {a : Address} {row : Row}
    (h : engine.lookUp a = .ok row) : row ∈ engine.lineTable.toList := by
  cases engine with
  | static lines symbols => exact LineTable.mem_of_lookUp h
  | runtime tables =>
    cases hstatic : tables.resolver.staticOf a with
    | ok address =>
      rw [lookUp, Resolver.lookUp_of_ok hstatic] at h
      exact LineTable.mem_of_lookUp h
    | error miss =>
      rw [lookUp, Resolver.lookUp_of_error hstatic] at h
      cases h

namespace Command

variable {files : Files} {options : Options}

/-- Rows come from a dump or from debug data, and neither gives a row of line 0. -/
theorem line_ne_zero_of_lines {loading : Loading LineTable} {table : LineTable}
    (hlines : lines files options = .ok loading) (htable : loading.result = .ok table) {row : Row}
    (hrow : row ∈ table.toList) : row.line ≠ 0 := by
  rw [lines] at hlines
  split at hlines
  · cases hlines
    obtain ⟨text, rfl⟩ := LineTable.result_ofDumpFile htable
    exact LineDump.line_ne_zero_of_mem_rows (LineTable.mem_ofRows.mp hrow)
  · cases hlines
    obtain ⟨_, data, rows, -, -, hrows, rfl⟩ := LineTable.exists_of_result_ofBinary htable
    exact data.line_ne_zero_of_mem_rows hrows (LineTable.mem_ofRows.mp hrow)
  · cases hlines

/-- The tables of a run hold the lines it was given and the symbols of its binary. -/
theorem parts_of_assemble {loading : Loading LineTable} {binary routines : String}
    {tables : RunTables}
    (h : (RunTables.assemble files loading binary routines).result = .ok tables) :
    loading.result = .ok tables.lines ∧
      (SymbolIndex.ofBinary files binary).result = .ok tables.symbols := by
  rw [RunTables.assemble, Loading.result_bind_eq_ok_iff] at h
  obtain ⟨lines, hlines, h⟩ := h
  obtain ⟨symbols, hsymbols, h⟩ := Loading.result_bind_eq_ok_iff.mp h
  obtain ⟨routines, -, h⟩ := Loading.result_bind_eq_ok_iff.mp h
  cases h
  exact ⟨hlines, hsymbols⟩

theorem lineTable_of_tables {loading : Loading LineTable} {engine : Engine}
    (h : (tables files options loading).result = .ok engine) :
    loading.result = .ok engine.lineTable := by
  rw [tables] at h
  split at h
  · obtain ⟨tables, hassemble, rfl⟩ := Loading.result_map_eq_ok_iff.mp h
    exact (parts_of_assemble hassemble).1
  · obtain ⟨lines, hlines, h⟩ := Loading.result_bind_eq_ok_iff.mp h
    split at h
    · obtain ⟨symbols, -, h⟩ := Loading.result_bind_eq_ok_iff.mp h
      cases h
      exact hlines
    · cases h
      exact hlines
  · obtain ⟨lines, hlines, rfl⟩ := Loading.result_map_eq_ok_iff.mp h
    exact hlines

/-- No look-up of a run finds a row of line 0. -/
theorem line_ne_zero_of_lookUp {engine : Engine}
    (hengine : Command.engine files options = .ok engine) {a : Address} {row : Row}
    (h : engine.lookUp a = .ok row) : row.line ≠ 0 := by
  obtain ⟨-, loading, hlines, htables⟩ := engine_eq_ok_iff.mp hengine
  exact line_ne_zero_of_lines hlines (lineTable_of_tables htables) (Engine.mem_of_lookUp h)

end Command

end Symbolication
